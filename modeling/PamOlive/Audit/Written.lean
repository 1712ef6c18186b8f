import PamOlive.Audit.Acceptance

/-
  Logs that were written by `recordEvent` only.

  Such a log is numbered, linked up to its head and made of version-2 rows with the right hashes. A
  keyring that accepts its own signatures lets the verifier accept it.
-/

---- Recording One Event

namespace PamOlive.Audit

open Foundations Foundations.HashChain AuditEvent

variable {services : Services}

@[simp]
theorem orEmpty_orEmpty (metadata : Json) : orEmpty (orEmpty metadata) = orEmpty metadata := by
  unfold orEmpty
  by_cases hTruthy : metadata.truthy <;> simp [hTruthy]

variable {call : EventCall} {log : AuditLog} {event : AuditEvent}

theorem recordEvent_eq_ok_iff {after : AuditLog} :
    recordEvent services call log = .ok (event, after) ↔
      ∃ signature, services.keyring.sign (call.eventHash services log.chain) = .ok signature ∧
        event = call.event services log.chain signature ∧
        after = ⟨log.events ++ [event], event.head⟩ := by
  unfold recordEvent
  cases hSign : services.keyring.sign (call.eventHash services log.chain) with
  | error failure => simp [bind, Except.bind]
  | ok signature =>
    simp only [bind, Except.bind, pure, Except.pure,
      Except.ok.injEq, Prod.mk.injEq, exists_eq_left']
    constructor
    all_goals
      rintro ⟨rfl, rfl⟩
      exact ⟨rfl, rfl⟩

/- What a row satisfies on its own: its hash is right, and its signature was issued for it. -/
structure Recorded (services : Services) (event : AuditEvent) : Prop where
  version : event.hashVersion = 2
  hashed : event.eventHash = payloadHash services event.payload
  signed : services.keyring.sign event.eventHash = .ok event.signature
  normal : orEmpty event.metadata = event.metadata

theorem EventCall.recorded {state : AuditChainState} {signature : Text}
    (hSign : services.keyring.sign (call.eventHash services state) = .ok signature) :
    Recorded services (call.event services state signature) where
  version := rfl
  hashed := by
    simp [EventCall.event, EventCall.eventHash, payload, canonicalPayload]
  signed := hSign
  normal := by
    simp [EventCall.event]

theorem Recorded.passes (hAgrees : services.keyring.Agrees)
    (hRecorded : Recorded services event) : Passes services event := by
  rcases hAgrees _ _ hRecorded.signed with ⟨hSignature, hVerify⟩
  exact Or.inr ⟨hRecorded.version, hRecorded.hashed, hSignature, hVerify⟩

---- Written Logs

/- Logs produced from the empty one by `recordEvent`. -/
inductive Written (services : Services) : AuditLog → Prop
  | empty : Written services AuditLog.empty
  | record {log after : AuditLog} {call : EventCall} {event : AuditEvent}
    (hWritten : Written services log)
    (hRecord : recordEvent services call log = .ok (event, after)) :
    Written services after

section

variable (hWritten : Written services log)

include hWritten

theorem Written.counted : log.chain.lastSequence = log.events.length := by
  induction hWritten with
  | empty => rfl
  | record _ hRecord ih =>
    rcases recordEvent_eq_ok_iff.mp hRecord with ⟨signature, _, rfl, rfl⟩
    simp [head, EventCall.event, ih]

theorem Written.numbered : Numbered sequence 0 log.events := by
  induction hWritten with
  | empty => trivial
  | record hBefore hRecord ih =>
    rcases recordEvent_eq_ok_iff.mp hRecord with ⟨signature, _, rfl, rfl⟩
    rw [numbered_concat]
    refine ⟨ih, ?_⟩
    simp [EventCall.event, hBefore.counted]

theorem Written.linked : Linked previousHash eventHash [] log.events log.chain.lastHash := by
  induction hWritten with
  | empty => rfl
  | record _ hRecord ih =>
    rcases recordEvent_eq_ok_iff.mp hRecord with ⟨signature, _, rfl, rfl⟩
    rw [linked_concat]
    exact ⟨ih, rfl⟩

theorem Written.recorded : ∀ event ∈ log.events, Recorded services event := by
  induction hWritten with
  | empty => simp [AuditLog.empty]
  | record _ hRecord ih =>
    rcases recordEvent_eq_ok_iff.mp hRecord with ⟨signature, hSign, rfl, rfl⟩
    intro event hMem
    rcases List.mem_append.mp hMem with hOld | hNew
    · exact ih event hOld
    · rw [List.mem_singleton.mp hNew]
      exact EventCall.recorded hSign

theorem Written.orderBySequence_eq : orderBySequence log.events = log.events :=
  orderBySequence_of_numbered hWritten.numbered

end

theorem Written.accepted (hAgrees : services.keyring.Agrees) (hWritten : Written services log) :
    Accepted services log.events log.chain where
  numbered := hWritten.numbered
  linked := hWritten.linked
  counted := hWritten.counted
  passes event hMem := (hWritten.recorded event hMem).passes hAgrees

end PamOlive.Audit
