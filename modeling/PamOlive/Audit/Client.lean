import PamOlive.Audit.Written
import PamOlive.Common.KeyringClient

/-
  The audit log with a keyring that has a state.

  Answers depend on the state the keyring is in. Where they do not, the functions here compute what
  those of `PamOlive.Audit.Services` compute.
-/

---- Recording An Event

namespace PamOlive.Audit

open Foundations

variable {State : Type} {services : Services} {client : KeyringClient State}

/- `record_event`; the hash function is that of `services`. -/
def recordEventBy (services : Services) (client : KeyringClient State) (call : EventCall)
    (log : AuditLog) : State → Except KeyringError (AuditEvent × AuditLog) × State :=
  andThen (client.sign (call.eventHash services log.chain)) fun signature =>
  let event := call.event services log.chain signature
  reading (fun _ => .ok (event, ⟨log.events ++ [event], event.head⟩))

theorem recordEventBy_eq_ok_iff {call : EventCall} {log log' : AuditLog}
    {event : AuditEvent} {state after : State} :
    recordEventBy services client call log state = (.ok (event, log'), after) ↔
      ∃ signature, client.sign (call.eventHash services log.chain) state = (.ok signature, after) ∧
        event = call.event services log.chain signature ∧
        log' = ⟨log.events ++ [event], event.head⟩ := by
  unfold recordEventBy
  rw [andThen_eq_ok_iff]
  constructor
  · rintro ⟨signature, middle, hSign, hRead⟩
    rcases reading_ok_iff.mp hRead with ⟨hEvent, hAfter⟩
    rcases hEvent with ⟨rfl, rfl⟩
    subst hAfter
    exact ⟨signature, hSign, rfl, rfl⟩
  · rintro ⟨signature, hSign, rfl, rfl⟩
    exact ⟨signature, after, hSign, rfl⟩

---- Verifying The Chain

def signatureInvalidBy (client : KeyringClient State) (event : AuditEvent) :
    State → Except KeyringError Bool × State :=
  if event.signature = [] then reading (fun _ => .ok true)
  else
    andThen (client.verify event.eventHash event.signature)
      fun accepted => reading (fun _ => .ok !accepted)

def contentIssuesBy (services : Services) (client : KeyringClient State) (event : AuditEvent) :
    State → Except KeyringError (List Text) × State :=
  if event.hashVersion = 1 then reading (fun _ => .ok [])
  else if event.hashVersion = 2 then
    let hashIssues :=
      if event.eventHash ≠ payloadHash services event.payload then
        [issueAt "Empreinte invalide" event]
      else []
    andThen (signatureInvalidBy client event) fun invalid =>
    reading (fun _ =>
      .ok (hashIssues ++ (if invalid then [issueAt "Signature invalide" event] else [])))
  else
    reading (fun _ => .ok [issueAt "Version de hash inconnue" event])

section

variable (services : Services) (client : KeyringClient State)

def verifyEventBy (event : AuditEvent)
    (progress : Progress) : State → Except KeyringError Progress × State :=
  andThen (contentIssuesBy services client event) fun found =>
  reading (fun _ => .ok (progress.advance event found))

/- `verify_audit_chain`, on the rows and the head it reads. -/
def verifyAuditChainBy (events : List AuditEvent)
    (chain : AuditChainState) : State → Except KeyringError AuditVerification × State :=
  andThen (forEach (verifyEventBy services client) (orderBySequence events) Progress.initial)
    fun progress =>
  reading (fun _ => .ok (finishVerification progress chain))

end

variable {rows : List AuditEvent}

theorem verifyEvents_of_passes (hPasses : ∀ event ∈ rows, Passes services event)
    (progress : Progress) :
    verifyEvents services progress rows =
      .ok (rows.foldl (fun progress event => progress.advance event []) progress) := by
  induction rows generalizing progress with
  | nil => rfl
  | cons event rest ih =>
    rw [List.forall_mem_cons] at hPasses
    unfold verifyEvents verifyEvent
    rw [contentIssues_of_passes hPasses.1]
    exact ih hPasses.2 _

---- Answers That Do Not Depend On The State

def JudgedBy (services : Services) (client : KeyringClient State) (event : AuditEvent) : Prop :=
  event.hashVersion = 2 → event.signature ≠ [] →
    ∀ state, (client.verify event.eventHash event.signature
      state).1 = services.keyring.verify event.eventHash event.signature

theorem contentIssuesBy_fst {event : AuditEvent} (hJudged : JudgedBy services client event)
    (state : State) :
    (contentIssuesBy services client event state).1 = contentIssues services event := by
  unfold contentIssuesBy contentIssues
  by_cases hOne : event.hashVersion = 1
  · rw [if_pos hOne, if_pos hOne]
    rfl
  rw [if_neg hOne, if_neg hOne]
  by_cases hTwo : event.hashVersion = 2
  · rw [if_pos hTwo, if_pos hTwo, andThen_fst]
    unfold signatureInvalidBy signatureInvalid
    by_cases hEmpty : event.signature = []
    · rw [if_pos hEmpty, if_pos hEmpty]
      rfl
    · rw [if_neg hEmpty, if_neg hEmpty, andThen_fst, hJudged hTwo hEmpty]
      rfl
  · rw [if_neg hTwo, if_neg hTwo]
    rfl

theorem forEach_verifyEventBy_fst (hJudged : ∀ event ∈ rows, JudgedBy services client event)
    (progress : Progress) (state : State) :
    (forEach (verifyEventBy services client) rows progress
      state).1 = verifyEvents services progress rows := by
  induction rows generalizing progress state with
  | nil => rfl
  | cons event rest ih =>
    rw [List.forall_mem_cons] at hJudged
    unfold forEach verifyEvents verifyEventBy verifyEvent
    rw [andThen_fst, andThen_fst, contentIssuesBy_fst hJudged.1]
    cases contentIssues services event with
    | error failure => rfl
    | ok found => exact ih hJudged.2 _ _

/- The verification does what it does with a plain keyring that judges the signatures alike. -/
theorem verifyAuditChainBy_fst {events : List AuditEvent} {chain : AuditChainState}
    (hJudged : ∀ event ∈ events, JudgedBy services client event) (state : State) :
    (verifyAuditChainBy services client events chain
      state).1 = verifyAuditChain services events chain := by
  have hRows : ∀ event ∈ orderBySequence events, JudgedBy services client event :=
    fun event hMem =>
      hJudged event (List.mem_insertionSort _ |>.mp hMem)
  unfold verifyAuditChainBy verifyAuditChain
  rw [andThen_fst, forEach_verifyEventBy_fst hRows]
  rfl

end PamOlive.Audit
