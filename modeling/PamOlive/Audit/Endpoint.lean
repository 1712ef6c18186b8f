import PamOlive.Audit.Client
import PamOlive.Audit.Tamper
import PamOlive.Keyring.Backends

/-
  Verification of the chain through the keyring service.

  `/verify` refuses a text that has not the form of a signature, and the verification then raises
  where it should report.

  Main declarations:
    * `verifyAuditChain_ok_iff`
    * `tampered_signatures_reported_iff`
    * `tampering_reported_iff`
-/

---- What Is Found In The Rows

namespace PamOlive.Audit

open Foundations KeyringService AuditEvent List

variable {State : Type} {services : Services} {routed : RoutedBackend State}
variable {event : AuditEvent} {rows events : List AuditEvent} {progress last : Progress}

theorem found_of_verifyEvents (hLoop : verifyEvents services progress rows = .ok last) :
    (∀ issue ∈ progress.issues, issue ∈ last.issues) ∧ ∀ event ∈ rows, ∃ found,
      contentIssues services event = .ok found ∧ ∀ issue ∈ found, issue ∈ last.issues := by
  induction rows generalizing progress with
  | nil =>
    rcases hLoop with ⟨rfl⟩
    exact ⟨fun _ hMem => hMem, by simp⟩
  | cons event rest ih =>
    rcases bind_eq_ok_iff.mp hLoop with ⟨next, hTurn, hRest⟩
    rcases bind_eq_ok_iff.mp hTurn with ⟨found, hFound, hNext⟩
    rcases hNext with ⟨rfl⟩
    rcases ih hRest with ⟨hKept, hOthers⟩
    simp only [Progress.advance, mem_append] at hKept
    refine ⟨fun issue hMem => hKept issue (.inl (.inl hMem)), forall_mem_cons.mpr ⟨?_, hOthers⟩⟩
    exact ⟨found, hFound, fun issue hMem => hKept issue (.inr hMem)⟩

theorem contentIssues_of_two {found : List Text} (hTwo : event.hashVersion = 2)
    (hFound : contentIssues services event = .ok found) :
    ∃ invalid, signatureInvalid services event = .ok invalid ∧
      (invalid = true → issueAt "Signature invalide" event ∈ found) := by
  unfold contentIssues at hFound
  rw [if_neg (by omega), if_pos hTwo] at hFound
  rcases bind_eq_ok_iff.mp hFound with ⟨invalid, hInvalid, hReturn⟩
  rcases hReturn with ⟨rfl⟩
  exact ⟨invalid, hInvalid, fun hTrue => by simp [hTrue]⟩

theorem exists_contentIssues (hSignature :
      event.hashVersion = 2 → ∃ invalid, signatureInvalid services event = .ok invalid) :
    ∃ found, contentIssues services event = .ok found := by
  unfold contentIssues
  split
  · exact ⟨_, rfl⟩
  split
  · rename_i hTwo
    rcases hSignature hTwo with ⟨invalid, hInvalid⟩
    rw [hInvalid]
    exact ⟨_, rfl⟩
  · exact ⟨_, rfl⟩

---- Through The Service

/- The keyring that answers as the service does in one state. -/
def servicesIn (services : Services) (client : KeyringClient State) (state : State) : Services where
  sha256 := services.sha256
  keyring := { services.keyring with
    verify := fun payload signature => (client.verify payload signature state).1 }

def Checked (routed : RoutedBackend State) (state : State) (event : AuditEvent) : Prop :=
  acceptedSignature event.signature = true ∧
    ∃ accepted, (routed.verify event.eventHash event.signature state).1 = .ok accepted

theorem checked_iff {state : State} (hWidth : event.eventHash.length ≤ maxValueLength)
    (hSigned : event.signature ≠ []) :
    Checked routed state event ↔ ∃ invalid,
      signatureInvalid (servicesIn services (application routed) state) event = .ok invalid := by
  have hLength : decide (event.eventHash.length ≤ maxValueLength) = true := decide_eq_true hWidth
  unfold Checked signatureInvalid servicesIn application request
  rw [if_neg hSigned]
  dsimp only
  rw [hLength, Bool.true_and]
  cases acceptedSignature event.signature with
  | true =>
    cases hAnswer : (routed.verify event.eventHash event.signature state).1 <;>
      simp [raising, hAnswer, Except.mapError, bind, Except.bind, pure, Except.pure]
  | false => simp [reading, bind, Except.bind]

variable {state : State} {chain : AuditChainState}

/- The answers to signatures of the right form do not depend on the state. -/
theorem verifyAuditChainBy_application (hSteady : ∀ payload signature later,
      acceptedSignature signature = true → (routed.verify payload signature later).1 =
        (routed.verify payload signature state).1) :
    (verifyAuditChainBy services (application routed) events chain state).1 =
      verifyAuditChain (servicesIn services (application routed) state) events chain := by
  rw [← verifyAuditChainBy_fst (fun event _ _ _ later => ?_) state]
  · rfl
  · unfold servicesIn application request
    dsimp only
    split
    · rename_i hValid
      exact congrArg (Except.mapError _) (hSteady _ _ later (Bool.and_eq_true_iff.mp hValid).2)
    · rfl

/- Verification returns exactly if the request for each signature is accepted and answered. -/
theorem verifyAuditChain_ok_iff
    (hWidth : ∀ event ∈ events, event.eventHash.length ≤ maxValueLength) :
    (∃ result, verifyAuditChain (servicesIn services (application routed) state) events chain =
        .ok result) ↔
      ∀ event ∈ events, event.hashVersion = 2 → event.signature ≠ [] →
        Checked routed state event := by
  have hRows : ∀ {event}, event ∈ orderBySequence events ↔ event ∈ events :=
    List.mem_insertionSort _
  constructor
  · rintro ⟨result, hResult⟩ event hMem hTwo hSigned
    rcases bind_eq_ok_iff.mp hResult with ⟨last, hLoop, _⟩
    rcases (found_of_verifyEvents hLoop).2 event (hRows.mpr hMem) with ⟨found, hFound, _⟩
    rcases contentIssues_of_two hTwo hFound with ⟨invalid, hInvalid, _⟩
    exact (checked_iff (hWidth event hMem) hSigned).mpr ⟨invalid, hInvalid⟩
  · intro hChecked
    have hContents : ∀ event ∈ orderBySequence events, ∃ found,
      contentIssues (servicesIn services (application routed) state) event = .ok found := by
      intro event hMem
      refine exists_contentIssues fun hTwo => ?_
      by_cases hSigned : event.signature = []
      · exact ⟨true, if_pos hSigned⟩
      · have hEvent := hRows.mp hMem
        exact (checked_iff (hWidth event hEvent) hSigned).mp (hChecked event hEvent hTwo hSigned)
    rcases verifyEvents_total hContents Progress.initial with ⟨last, hLoop⟩
    exact ⟨finishVerification last chain, by rw [verifyAuditChain, hLoop]; rfl⟩

/-
  Verification returns, with an issue for every version-2 event whose signature is wrong, exactly
  if the request for each of these signatures is accepted and answered.
-/
theorem tampered_signatures_reported_iff (hSteady : ∀ payload signature state later,
      (routed.verify payload signature state).1 = (routed.verify payload signature later).1)
    (hWidth : ∀ event ∈ events, event.eventHash.length ≤ 64) (chain : AuditChainState)
    (state : State) :
    (∃ result, (verifyAuditChainBy services (application routed) events chain state).1 =
      .ok result ∧ ∀ event ∈ events, event.hashVersion = 2 → ¬ (event.signature ≠ [] ∧
        (application routed).Verifies event.eventHash event.signature) →
          issueAt "Signature invalide" event ∈ result.issues) ↔
      ∀ event ∈ events, event.hashVersion = 2 → event.signature ≠ [] →
        Checked routed state event := by
  have hLength : ∀ event ∈ events, event.eventHash.length ≤ maxValueLength :=
    fun event hMem => (hWidth event hMem).trans (by decide)
  rw [verifyAuditChainBy_application fun payload signature later _ => hSteady _ _ later state,
    ← verifyAuditChain_ok_iff hLength]
  constructor
  · rintro ⟨result, hResult, _⟩
    exact ⟨result, hResult⟩
  · rintro ⟨result, hResult⟩
    refine ⟨result, hResult, ?_⟩
    intro event hMem hTwo hNot
    rcases bind_eq_ok_iff.mp hResult with ⟨last, hLoop, hFinish⟩
    cases hFinish
    rcases (found_of_verifyEvents hLoop).2 event (List.mem_insertionSort _ |>.mpr hMem) with
      ⟨found, hFound, hKept⟩
    rcases contentIssues_of_two hTwo hFound with ⟨invalid, hInvalid, hReports⟩
    have hTrue : invalid = true := by
      rw [← Bool.not_eq_false, signatureInvalid_eq_false_iff hInvalid]
      rintro ⟨hSigned, hVerify⟩
      refine hNot ⟨hSigned, fun later => Eq.trans ?_ hVerify⟩
      unfold servicesIn application request
      dsimp only
      split
      · exact congrArg (Except.mapError _) (hSteady _ _ later state)
      · rfl
    unfold finishVerification
    dsimp only
    split
    · exact mem_append_left _ (hKept _ (hReports hTrue))
    · exact hKept _ (hReports hTrue)

def signedEvent (signature : Text) : AuditEvent :=
  sampleCall.event { plainServices with sha256 := fun _ => "h" } ⟨0, []⟩ signature

theorem tampered_signatures_reported_sample :
    ∃ result, (verifyAuditChainBy plainServices (application (.localMode plainBackend))
      [signedEvent (replicate 64 49)] ⟨1, "h"⟩ ()).1 = .ok result ∧ result.issues ≠ [] := by
  have hIff := @tampered_signatures_reported_iff Unit plainServices (.localMode plainBackend)
    [signedEvent (replicate 64 49)] (fun _ _ _ _ => rfl) (by decide) ⟨1, "h"⟩ ()
  rcases hIff.mpr (forall_mem_singleton.mpr fun _ _ => ⟨by decide +kernel, _, rfl⟩) with
    ⟨result, hRun, hIssues⟩
  refine ⟨result, hRun, ne_nil_of_mem (hIssues _ mem_cons_self rfl ?_)⟩
  rintro ⟨_, hVerifies⟩
  exact absurd (hVerifies ()) (by decide +kernel)

/- A signature that has not the form of one makes the verification raise. -/
theorem forged_signature_raises : (∀ payload signature (state : Unit),
      ((RoutedBackend.localMode plainBackend).verify payload signature state).1 =
        .ok (decide (signature = plainSignature))) ∧
    (verifyAuditChainBy plainServices (application (.localMode plainBackend)) [signedEvent "x"]
      ⟨1, "h"⟩ ()).1 = .error .operationFailed := by
  refine ⟨?_, rfl⟩
  intro payload signature state
  by_cases hSame : signature = plainSignature <;>
    simp [RoutedBackend.verify, RoutedBackend.active, RoutedBackend.legacyLocal, andThen,
      plainBackend, reading, hSame]

---- Tamper Evidence

/-
  The service accepts exactly the signatures it issued for some recorded events; what it does with
  a text that is not of the form of a signature is left to the request.
-/
structure IssuedBy (services : Services) (routed : RoutedBackend State)
    (signed : List AuditEvent) : Prop where
  recorded : ∀ event ∈ signed, Recorded services event
  formed : ∀ event ∈ signed, event.eventHash.length ≤ maxValueLength ∧
    acceptedSignature event.signature = true
  accepts : ∀ hash signature state, acceptedSignature signature = true →
    (routed.verify hash signature state).1 = .ok (signed.any
      (fun event => decide (event.eventHash = hash ∧ event.signature = signature)))

variable {signed table : List AuditEvent} {log : AuditLog}

theorem IssuedBy.issued (hIssued : IssuedBy services routed signed) (state : State) :
    Issued (servicesIn services (application routed) state) signed where
  recorded := fun event hMem => ⟨(hIssued.recorded event hMem).version,
    (hIssued.recorded event hMem).hashed, (hIssued.recorded event hMem).signed,
    (hIssued.recorded event hMem).normal⟩
  nonempty := by
    intro event hMem hNone
    have hForm := (hIssued.formed event hMem).2
    rw [hNone] at hForm
    exact absurd hForm (by decide)
  accepts_iff := by
    intro hash signature
    unfold servicesIn application request
    dsimp only
    split
    · rename_i hValid
      have hAccepts := hIssued.accepts hash signature state (Bool.and_eq_true_iff.mp hValid).2
      simp [raising, hAccepts, Except.mapError]
    · rename_i hInvalid
      refine iff_of_false (by simp [reading]) ?_
      rintro ⟨original, hMem, rfl, rfl⟩
      rcases hIssued.formed original hMem with ⟨hLength, hForm⟩
      simp [hLength, hForm] at hInvalid

theorem Written.servicesIn (hWritten : Written services log) (client : KeyringClient State)
    (state : State) : Written (servicesIn services client state) log := by
  induction hWritten with
  | empty => exact .empty
  | record _ hRecord ih => exact .record ih hRecord

def signingServices : Services :=
  { plainServices with
    keyring := { plainServices.keyring with sign := fun _ => .ok plainSignature } }

def loggedEvent : AuditEvent := sampleCall.event signingServices ⟨0, []⟩ plainSignature

def sampleLog : AuditLog := ⟨[loggedEvent], loggedEvent.head⟩

/- It accepts the signature of the logged event, and no other. -/
def loggingBackend : Backend Unit :=
  { plainBackend with
    verify := fun payload signature => reading (fun _ =>
      .ok (decide (loggedEvent.eventHash = payload ∧ loggedEvent.signature = signature))) }

theorem issuedBy_sample : IssuedBy signingServices (.localMode loggingBackend) [loggedEvent] where
  recorded := forall_mem_singleton.mpr (EventCall.recorded rfl)
  formed := forall_mem_singleton.mpr ⟨by decide +kernel, by decide +kernel⟩
  accepts := by
    intro hash signature state _
    unfold RoutedBackend.verify loggingBackend
    rw [any_cons, any_nil, Bool.or_false, andThen_fst]
    by_cases hSame : loggedEvent.eventHash = hash ∧ loggedEvent.signature = signature
    · simp [RoutedBackend.active, reading, hSame, bind, Except.bind]
    · simp [RoutedBackend.active, RoutedBackend.legacyLocal, reading, hSame, bind, Except.bind]

theorem sampleLog_written : Written signingServices sampleLog :=
  @Written.record _ _ _ sampleCall _ Written.empty rfl

def edited (version : Nat) (signature : Text) : AuditEvent :=
  { loggedEvent with
    hashVersion := version
    action := "session.closed"
    signature := signature }

end PamOlive.Audit
