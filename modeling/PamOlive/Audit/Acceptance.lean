import PamOlive.Audit.Services
import PamOlive.Foundations.HashChain
import PamOlive.Foundations.Outcome

/-
  What the verifier of the audit chain accepts.

  A verification reports no issue exactly when the rows are numbered from one, linked up to the
  stored head, as many as the head says, and each passes the checks of its hash version. The loop
  of the verifier is not unfolded again.
-/

---- Row Checks

namespace PamOlive.Audit

open Foundations Foundations.HashChain AuditEvent List

variable {services : Services}

/- A version-1 row passes, and a version-2 row with the right hash and an accepted signature. -/
def Passes (services : Services) (event : AuditEvent) : Prop :=
  event.hashVersion = 1 ∨ (event.hashVersion = 2 ∧
    event.eventHash = payloadHash services event.payload ∧ event.signature ≠ [] ∧
    services.keyring.verify event.eventHash event.signature = .ok true)

/- The keyring answers every request for verification. -/
def VerifyAvailable (services : Services) : Prop :=
  ∀ hash signature, ∃ accepted, services.keyring.verify hash signature = .ok accepted

variable {event : AuditEvent}

theorem signatureInvalid_eq_false_iff {invalid : Bool}
    (hRead : signatureInvalid services event = .ok invalid) :
    invalid = false ↔ event.signature ≠ [] ∧
      services.keyring.verify event.eventHash event.signature = .ok true := by
  unfold signatureInvalid at hRead
  by_cases hEmpty : event.signature = []
  · rw [if_pos hEmpty] at hRead
    cases hRead
    simp [hEmpty]
  · rw [if_neg hEmpty] at hRead
    rcases bind_eq_ok_iff.mp hRead with ⟨accepted, hVerify, ⟨⟩⟩
    simp [hVerify, hEmpty]

theorem contentIssues_eq_nil_iff {found : List Text}
    (hRead : contentIssues services event = .ok found) : found = [] ↔ Passes services event := by
  unfold contentIssues at hRead
  by_cases hOne : event.hashVersion = 1
  · rw [if_pos hOne] at hRead
    cases hRead
    simp [Passes, hOne]
  rw [if_neg hOne] at hRead
  by_cases hTwo : event.hashVersion = 2
  · rw [if_pos hTwo] at hRead
    rcases bind_eq_ok_iff.mp hRead with ⟨invalid, hSignature, ⟨⟩⟩
    rw [Passes, ← signatureInvalid_eq_false_iff hSignature]
    simp [hTwo]
  · rw [if_neg hTwo] at hRead
    cases hRead
    simp [Passes, hOne, hTwo]

theorem contentIssues_of_passes (hPasses : Passes services event) :
    contentIssues services event = .ok [] := by
  rcases hPasses with hOne | ⟨hTwo, hHash, hSigned, hVerify⟩
  · simp [contentIssues, hOne, pure, Except.pure]
  · simp [contentIssues, signatureInvalid, hTwo, ← hHash, hSigned, hVerify, bind, Except.bind, pure,
    Except.pure]

theorem contentIssues_total (hAvailable : VerifyAvailable services) (event : AuditEvent) :
    ∃ found, contentIssues services event = .ok found := by
  rcases hAvailable event.eventHash event.signature with ⟨accepted, hVerify⟩
  unfold contentIssues signatureInvalid
  simp only [hVerify, bind, Except.bind, pure, Except.pure]
  split_ifs <;> exact ⟨_, rfl⟩

---- The Loop

/- The rows that a verification starting with a given loop state accepts. -/
def AcceptedFrom (services : Services) (progress : Progress) (rows : List AuditEvent)
    (state : AuditChainState) : Prop :=
  progress.issues = [] ∧ Numbered sequence progress.previousSequence rows ∧
    Linked previousHash eventHash progress.previousHash rows state.lastHash ∧
    state.lastSequence = progress.previousSequence + rows.length ∧
    ∀ event ∈ rows, Passes services event

variable {progress : Progress} {rows : List AuditEvent}

theorem acceptedFrom_cons_iff {next : Progress}
    (hTurn : verifyEvent services progress event = .ok next)
    (rest : List AuditEvent) (state : AuditChainState) :
    AcceptedFrom services progress (event :: rest) state ↔
      AcceptedFrom services next rest state := by
  rcases bind_eq_ok_iff.mp hTurn with ⟨found, hContent, ⟨⟩⟩
  have hFound := contentIssues_eq_nil_iff hContent
  have hLinks : linkIssues progress event = [] ↔ event.sequence = progress.previousSequence + 1 ∧
    event.previousHash = progress.previousHash := by
    simp [linkIssues]
  simp only [AcceptedFrom, Progress.advance, append_eq_nil_iff, hFound, hLinks, Numbered, Linked,
    length_cons, forall_mem_cons]
  constructor
  · rintro ⟨hIssues, ⟨hSequence, hNumbered⟩, ⟨hPrevious, hLinked⟩, hCount, hPasses, hRest⟩
    rw [← hSequence] at hNumbered
    refine ⟨⟨⟨hIssues, hSequence, hPrevious⟩, hPasses⟩, hNumbered, hLinked, ?_, hRest⟩
    omega
  · rintro ⟨⟨⟨hIssues, hSequence, hPrevious⟩, hPasses⟩, hNumbered, hLinked, hCount, hRest⟩
    rw [hSequence] at hNumbered
    refine ⟨hIssues, ⟨hSequence, hNumbered⟩, ⟨hPrevious, hLinked⟩, ?_, hPasses, hRest⟩
    omega

variable {last : Progress}

theorem finishVerification_valid_iff (hLoop : verifyEvents services progress rows = .ok last)
    (state : AuditChainState) :
    (finishVerification last state).valid = true ↔ AcceptedFrom services progress rows state := by
  induction rows generalizing progress with
  | nil =>
    cases hLoop
    simp only [finishVerification, AcceptedFrom, Numbered, Linked]
    by_cases hHead : state.lastSequence ≠ last.previousSequence ∨ state.lastHash ≠ last.previousHash
    · simp only [hHead, if_true]
      simp
      grind
    · simp
      grind
  | cons event rest ih =>
    rcases bind_eq_ok_iff.mp hLoop with ⟨next, hTurn, hRest⟩
    rw [ih hRest, acceptedFrom_cons_iff hTurn]

theorem verifyEvents_total
    (hContents : ∀ event ∈ rows, ∃ found, contentIssues services event = .ok found)
    (progress : Progress) : ∃ last, verifyEvents services progress rows = .ok last := by
  induction rows generalizing progress with
  | nil => exact ⟨progress, rfl⟩
  | cons event rest ih =>
    rcases hContents event (by simp) with ⟨found, hFound⟩
    have hRest : ∀ later ∈ rest, ∃ found, contentIssues services later = .ok found := by
      intro later hLater
      exact hContents later (by simp [hLater])
    simp only [verifyEvents, verifyEvent, hFound, bind, Except.bind, pure, Except.pure]
    exact ih hRest _

theorem verifyEvents_progress (hLoop : verifyEvents services progress rows = .ok last) :
    last.checkedEvents = progress.checkedEvents + rows.length ∧
      ∀ hash, Linked previousHash eventHash progress.previousHash rows hash →
        last.previousHash = hash := by
  induction rows generalizing progress with
  | nil =>
    cases hLoop
    exact ⟨rfl, fun hash hLinked => hLinked⟩
  | cons event rest ih =>
    rcases bind_eq_ok_iff.mp hLoop with ⟨next, hTurn, hRest⟩
    rcases bind_eq_ok_iff.mp hTurn with ⟨found, _, ⟨⟩⟩
    rcases ih hRest with ⟨hChecked, hHash⟩
    constructor
    · simp only [hChecked, Progress.advance, length_cons]
      omega
    · intro hash hLinked
      exact hHash hash hLinked.2

---- Accepted Tables

/- The ordered rows and heads that verification accepts. -/
structure Accepted
    (services : Services) (rows : List AuditEvent) (state : AuditChainState) : Prop where
  numbered : Numbered sequence 0 rows
  linked : Linked previousHash eventHash [] rows state.lastHash
  counted : state.lastSequence = rows.length
  passes : ∀ event ∈ rows, Passes services event

variable {state : AuditChainState}

theorem acceptedFrom_initial_iff :
    AcceptedFrom services Progress.initial rows state ↔ Accepted services rows state := by
  constructor
  · rintro ⟨_, hNumbered, hLinked, hCounted, hPasses⟩
    exact ⟨hNumbered, hLinked, by simpa [Progress.initial] using hCounted, hPasses⟩
  · intro hAccepted
    exact ⟨rfl, hAccepted.numbered, hAccepted.linked,
      by simpa [Progress.initial] using hAccepted.counted, hAccepted.passes⟩

theorem orderBySequence_of_numbered {number : Nat}
    (hNumbered : Numbered sequence number rows) : orderBySequence rows = rows := by
  apply Pairwise.insertionSort_eq
  exact (hNumbered.pairwise sequence).imp (fun hLess => Nat.le_of_lt hLess)

theorem verifyAuditChain_total (hAvailable : VerifyAvailable services)
    (events : List AuditEvent) (state : AuditChainState) :
    ∃ result, verifyAuditChain services events state = .ok result := by
  have hContents :
    ∀ event ∈ orderBySequence events, ∃ found, contentIssues services event = .ok found :=
    fun event _ => contentIssues_total hAvailable event
  rcases verifyEvents_total hContents Progress.initial with ⟨last, hLoop⟩
  refine ⟨finishVerification last state, ?_⟩
  simp only [verifyAuditChain, hLoop, bind, Except.bind, pure, Except.pure]

theorem valid_iff_accepted {events : List AuditEvent} {result : AuditVerification}
    (hRun : verifyAuditChain services events state = .ok result) :
    result.valid = true ↔ Accepted services (orderBySequence events) state := by
  rcases bind_eq_ok_iff.mp hRun with ⟨last, hLoop, ⟨⟩⟩
  rw [finishVerification_valid_iff hLoop, acceptedFrom_initial_iff]

theorem verifyAuditChain_of_accepted {events : List AuditEvent}
    (hAccepted : Accepted services (orderBySequence events) state) :
    ∃ result, verifyAuditChain services events state = .ok result ∧ result.valid = true ∧
      result.checkedEvents = events.length ∧ result.headHash = state.lastHash := by
  rcases verifyEvents_total
    (fun event hMem => ⟨[], contentIssues_of_passes (hAccepted.passes event hMem)⟩)
    Progress.initial with ⟨last, hLoop⟩
  rcases verifyEvents_progress hLoop with ⟨hChecked, hHash⟩
  have hRun : verifyAuditChain services events state = .ok (finishVerification last state) := by
    simp only [verifyAuditChain, hLoop, bind, Except.bind, pure, Except.pure]
  refine ⟨_, hRun, (valid_iff_accepted hRun).mpr hAccepted, ?_, hHash _ hAccepted.linked⟩
  simp only [finishVerification, hChecked, Progress.initial,
    orderBySequence, length_insertionSort, Nat.zero_add]

end PamOlive.Audit
