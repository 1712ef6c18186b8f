import PamOlive.Operations.Rotation

/-
  Editing a credential in the console while it is rotated.

  `form.save()` writes all columns of the object that the view loaded, without a lock. A rotation
  that completes in between is overwritten.
-/

---- The Form

namespace PamOlive.Console

open Foundations Vault Operations Sessions Table

/- The cleaned data of `TargetCredentialForm`; the account type may not be submitted. -/
structure CredentialInput where
  name : Text
  targetId : Uuid
  domain : Option Domain
  username : Text
  accountType : Option AccountType
  kind : CredentialKind
  checkoutEnabled : Bool
  rotationPolicy : Option SecretRotationPolicy
  secret : Text
  totpSecret : Text

/- The choices the form offers. -/
def choicesValid (input : CredentialInput) : Bool :=
  decide (input.accountType ≠ some .application ∧ input.kind ≠ .totp)

/- The errors of `clean`, each with its field. -/
def formErrors (adding : Bool) (input : CredentialInput) : List (Text × Text) :=
  (if adding = true ∧ input.secret = [] then
    [(Text.ofString "secret", Text.ofString "Le secret est obligatoire.")]
  else []) ++ (if input.accountType = some .domain ∧ input.domain = none then
    [(Text.ofString "domain", Text.ofString "Un compte de domaine doit référencer un domaine.")]
    else [])

def formIsValid (adding : Bool) (input : CredentialInput) : Bool :=
  choicesValid input && (formErrors adding input).isEmpty

/- The object after `super().save(commit=False)`. -/
def withInput (input : CredentialInput) (credential : Credential) : Credential :=
  { credential with
    name := input.name
    targetId := input.targetId
    domain := input.domain
    username := input.username
    accountType := input.accountType.getD credential.accountType
    kind := input.kind
    checkoutEnabled := input.checkoutEnabled
    rotationPolicy := input.rotationPolicy }

def withSecrets (site : Site) (input : CredentialInput) (credential : Credential) :
    Except Failure Credential := do
  let credential ←
    if input.secret = [] then pure credential
    else do
      let token ← encrypt site input.secret
      return { credential with encryptedSecret := token, secretEncryptionKeyId := activeKeyId }
  if input.totpSecret = [] then return credential
  else
    let token ← encrypt site input.totpSecret
    return { credential with encryptedTotpSecret := some token, totpEncryptionKeyId := activeKeyId }

/- The rotation columns, given whether the policy is another one than that of the loaded row. -/
def withSchedule (now : Int) (policyChanged : Bool) (credential : Credential) : Credential :=
  match credential.rotationPolicy with
  | none => { credential with nextRotationAt := none }
  | some policy =>
    { credential with
      rotationEnabled := false
      rotationIntervalDays := none
      rotationBackend := []
      nextRotationAt :=
        match credential.nextRotationAt, credential.lastRotatedAt with
        | none, _ => some now
        | some next, none => some next
        | some next, some last =>
          if policyChanged then some (last + days policy.intervalDays)
          else some next }

/- `TargetCredentialForm.save`, without the write. -/
def saveForm (site : Site) (now : Int) (input : CredentialInput)
    (loaded : Credential) : Except Failure Credential := do
  let credential ← withSecrets site input (withInput input loaded)
  let policyChanged :=
    decide (input.rotationPolicy.map SecretRotationPolicy.id ≠
      loaded.rotationPolicy.map SecretRotationPolicy.id)
  return withSchedule now policyChanged credential

def overwrite (credential row : Credential) : Credential := { credential with id := row.id }

theorem overwrite_id (credential row : Credential) : (overwrite credential row).id = row.id :=
  rfl

/- `credential.save()`, which inserts if there is no row. -/
def saveCredential (credential : Credential) (db : Database) : Except Failure Database :=
  match db.credentials.get credential.id with
  | some _ =>
    .ok { db with
        credentials :=
          db.credentials.modify credential.id (overwrite credential) (overwrite_id credential) }
  | none => do
    let credentials ← found (db.credentials.insert credential) .integrityError
    return { db with credentials := credentials }

---- What Saving Writes

variable {site : Site} {now : Int} {input : CredentialInput} {loaded credential : Credential}
variable {credentialId : Uuid}

theorem secretColumnsOf_saveForm (hNoSecret : input.secret = [])
    (hSave : saveForm site now input loaded = .ok credential) :
    secretColumnsOf credential = secretColumnsOf loaded ∧ credential.id = loaded.id := by
  rcases bind_eq_ok_iff.mp hSave with ⟨encrypted, hEncrypted, hSave⟩
  rw [pure_eq_ok_iff] at hSave
  subst hSave
  have hSame : secretColumnsOf encrypted = secretColumnsOf loaded ∧ encrypted.id = loaded.id := by
    unfold withSecrets at hEncrypted
    rw [if_pos hNoSecret] at hEncrypted
    rcases bind_eq_ok_iff.mp hEncrypted with ⟨kept, hKept, hEncrypted⟩
    rw [pure_eq_ok_iff] at hKept
    subst hKept
    split at hEncrypted
    · rw [pure_eq_ok_iff] at hEncrypted
      subst hEncrypted
      exact ⟨rfl, rfl⟩
    · rcases bind_eq_ok_iff.mp hEncrypted with ⟨token, _, hEncrypted⟩
      rw [pure_eq_ok_iff] at hEncrypted
      subst hEncrypted
      exact ⟨rfl, rfl⟩
  unfold withSchedule
  split <;> exact hSame

variable {db : Database}

theorem secretColumns_saveCredential {after : Database}
    (hSave : saveCredential credential db = .ok after) :
    secretColumns credential.id after = some (secretColumnsOf credential) := by
  unfold saveCredential at hSave
  unfold secretColumns
  split at hSave
  · rename_i row hRow
    cases hSave
    rw [get_modify_self hRow]
    rfl
  · rcases found_bind_eq_ok_iff.mp hSave with ⟨credentials, hInsert, hSave⟩
    rw [pure_eq_ok_iff] at hSave
    subst hSave
    rw [get_insert_self hInsert]
    rfl

---- Edits And Rotations Interleaved

/- An edit holds the object it loaded, and counts the rotations since loading and since saving. -/
inductive FormPhase where
  | idle
  | loaded (credential : Credential) (since : Nat)
  | saved (since later : Nat)

/- The phase after one more successful rotation. -/
def FormPhase.rotated : FormPhase → FormPhase
| .idle => .idle
| .loaded credential since => .loaded credential (since + 1)
| .saved since later => .saved since (later + 1)

/- The secret columns should be those that the last successful rotation wrote. -/
structure EditState where
  rotation : RotationState
  written : SecretColumns
  form : FormPhase

inductive EditLabel where
  | rotation (label : RotationLabel)
  | load
  | save (site : Site) (now : Int) (input : CredentialInput)

def successOf (credentialId : Uuid) (label : RotationLabel)
    (db : Database) : Option SecretColumns :=
  match label with
  | .complete site moment rotation =>
    if rotation.credentialId = credentialId then
      match completeRotation site moment rotation db with
      | .ok (_, after) => secretColumns credentialId after
      | .error _ => none
    else none
  | _ => none

inductive EditStep (credentialId : Uuid) (state : EditState) : EditLabel → EditState → Prop
  | unrotated {label : RotationLabel} {after : RotationState}
    (hStep : RotationStep (fun _ => True) state.rotation label after)
    (hNone : successOf credentialId label state.rotation.db = none) :
    EditStep credentialId state (.rotation label)
      { state with rotation := after }
  | rotated {label : RotationLabel} {after : RotationState}
    {columns : SecretColumns}
    (hStep : RotationStep (fun _ => True) state.rotation label after)
    (hSuccess : successOf credentialId label state.rotation.db = some columns) :
    EditStep credentialId state (.rotation label)
      { rotation := after, written := columns, form := state.form.rotated }
  | loaded {credential : Credential} (hIdle : state.form = .idle)
    (hLoad : state.rotation.db.credentials.get credentialId = some credential) :
    EditStep credentialId state .load
      { state with form := .loaded credential 0 }
  | saved {site : Site} {now : Int} {input : CredentialInput}
    {loaded credential : Credential} {since : Nat} {after : Database}
    (hLoaded : state.form = .loaded loaded since)
    (hValid : formIsValid false input = true)
    (hNoSecret : input.secret = [])
    (hSave : saveForm site now input loaded = .ok credential)
    (hWrite : saveCredential credential state.rotation.db = .ok after) :
    EditStep credentialId state (.save site now input)
      { rotation := { state.rotation with db := after }
        written := state.written
        form := .saved since 0 }

def editSystem (credentialId : Uuid) : TransitionSystem EditState EditLabel where
  init := fun state =>
    state.form = .idle ∧ secretColumns credentialId state.rotation.db = some state.written
  step := EditStep credentialId

---- What A Rotation Step Writes

section Runs

variable {before after : RotationState} {label : RotationLabel} {allowed : Site → Prop}

theorem secretColumns_of_complete
    {moment : Moment} {rotation : Rotation} {after : Database} {result : RotationJob}
    (hComplete : completeRotation site moment rotation db = .ok (result, after)) :
    (∀ other, other ≠ rotation.credentialId → secretColumns other after = secretColumns other db) ∧
    ∃ old new, secretColumns rotation.credentialId db = some old ∧
      secretColumns rotation.credentialId after = some new ∧
      new.keyVersion = old.keyVersion + 1 := by
  rcases completeRotation_eq_ok hComplete with ⟨job, credential, audit, _, hCredential, _, rfl⟩
  have hId : credential.id = rotation.credentialId := (get_eq_some_iff.mp hCredential).2
  unfold secretColumns
  dsimp only [Operations.rotated]
  rw [hId]
  constructor
  · intro other hOther
    rw [get_modify_of_ne hOther]
  · refine ⟨secretColumnsOf credential,
    secretColumnsOf (rotatedCredential moment.now job credential), ?_, ?_, rfl⟩
    · rw [hCredential]
      rfl
    · rw [get_modify_self hCredential]
      rfl

theorem successOf_of_ne_complete
    (hLabel : ∀ site moment rotation, label ≠ .complete site moment rotation) :
    successOf credentialId label db = none := by
  unfold successOf
  split
  · rename_i site moment rotation
    exact absurd rfl (hLabel site moment rotation)
  · rfl

theorem secretColumns_of_ne_complete (hStep : RotationStep allowed before label after)
    (hLabel : ∀ site moment rotation, label ≠ .complete site moment rotation) :
    secretColumns credentialId after.db = secretColumns credentialId before.db := by
  rcases hStep.cases_on_db with
    ⟨_, hSame⟩ | ⟨_, hChanges⟩ | ⟨site, moment, rotation, _, hComplete, _⟩
  · exact hSame credentialId
  · exact hChanges.sameSecrets credentialId
  · exact absurd hComplete (hLabel site moment rotation)

/- A step keeps the secret columns, or is a success that writes columns of the next version. -/
theorem secretColumns_of_step (hStep : RotationStep allowed before label after) :
    (successOf credentialId label before.db = none ∧
      secretColumns credentialId after.db = secretColumns credentialId before.db) ∨
      ∃ old new, secretColumns credentialId before.db = some old ∧
        successOf credentialId label before.db = some new ∧
        secretColumns credentialId after.db = some new ∧ new.keyVersion = old.keyVersion + 1 := by
  by_cases hLabel : ∃ site moment rotation, label = .complete site moment rotation
  · rcases hLabel with ⟨site, moment, rotation, rfl⟩
    cases hStep with
    | completed hWorkers =>
      dsimp only [successOf, commit]
      cases hComplete : completeRotation site moment rotation before.db with
      | error failure =>
        left
        simp
      | ok result =>
        rcases secretColumns_of_complete hComplete with ⟨hOthers, old, new, hOld, hNew, hVersion⟩
        by_cases hOwn : rotation.credentialId = credentialId
        · subst hOwn
          rw [if_pos rfl]
          exact .inr ⟨old, new, hOld, hNew, hNew, hVersion⟩
        · rw [if_neg hOwn]
          exact .inl ⟨rfl, hOthers credentialId (Ne.symm hOwn)⟩
  · left
    simp only [not_exists] at hLabel
    exact ⟨successOf_of_ne_complete hLabel, secretColumns_of_ne_complete hStep hLabel⟩

theorem run_of_ne_complete {labels : List RotationLabel}
    (hRun : (rotationSystem (fun _ => True)).Run before labels after)
    (hLabels : ∀ label ∈ labels, ∀ site moment rotation, label ≠ .complete site moment rotation)
    (written : SecretColumns) (form : FormPhase) :
    (editSystem credentialId).Run ⟨before, written, form⟩ (labels.map EditLabel.rotation)
      ⟨after, written, form⟩ := by
  induction hRun with
  | nil => exact .nil _
  | @cons before middle after label labels hStep hRest ih =>
    have hFirst :
      EditStep credentialId ⟨before, written, form⟩ (.rotation label) ⟨middle, written, form⟩ :=
      .unrotated hStep (successOf_of_ne_complete (hLabels label (by simp)))
    refine .cons hFirst (ih ?_)
    intro other hMem
    exact hLabels other (by simp [hMem])

---- Stale Objects

/- The phases in which no rotation has been overwritten. -/
def FormPhase.Fresh : FormPhase → Prop
| .idle => True
| .loaded _ _ => True
| .saved since later => since = 0 ∨ 0 < later

/- How the phase relates the row, the object and the ghost. -/
def Tracked (credentialId : Uuid) (state : EditState) : Prop :=
  ∃ columns, secretColumns credentialId state.rotation.db = some columns ∧
    match state.form with
    | .idle => columns = state.written
    | .loaded loaded since =>
      columns = state.written ∧ loaded.id = credentialId ∧
        columns.keyVersion = loaded.keyVersion + since ∧
        (since = 0 → columns = secretColumnsOf loaded)
    | .saved since later =>
      if since = 0 ∨ 0 < later then columns = state.written
      else columns.keyVersion < state.written.keyVersion

variable {state later : EditState} {editLabel : EditLabel}

theorem Tracked.step (hTracked : Tracked credentialId state)
    (hStep : EditStep credentialId state editLabel later) : Tracked credentialId later := by
  rcases hTracked with ⟨columns, hColumns, hPhase⟩
  cases hStep with
  | unrotated hStep hNone =>
    rcases secretColumns_of_step hStep with ⟨_, hSame⟩ | ⟨_, _, _, hSuccess, _⟩
    · exact ⟨columns, hSame.trans hColumns, hPhase⟩
    · exact nomatch hNone.symm.trans hSuccess
  | rotated hStep hSuccess =>
    rcases secretColumns_of_step hStep with ⟨hNone, _⟩ | ⟨old, new, hOld, hSuccess', hNew, hVersion⟩
    · exact nomatch hNone.symm.trans hSuccess
    rw [hColumns] at hOld
    injection hOld with hOld
    rw [hSuccess] at hSuccess'
    injection hSuccess' with hWritten
    subst hOld hWritten
    refine ⟨_, hNew, ?_⟩
    cases hForm : state.form with
    | idle => rfl
    | loaded loaded since =>
      rw [hForm] at hPhase
      refine ⟨rfl, hPhase.2.1, ?_, ?_⟩
      · omega
      · intro hZero
        exact nomatch hZero
    | saved since count =>
      dsimp only [FormPhase.rotated]
      rw [if_pos (.inr (Nat.succ_pos count))]
  | @loaded credential hIdle hLoad =>
    rw [hIdle] at hPhase
    refine ⟨columns, hColumns, ?_⟩
    have hOwn : secretColumnsOf credential = columns := by
      unfold secretColumns at hColumns
      rw [hLoad] at hColumns
      injection hColumns
    subst hOwn
    exact ⟨hPhase, (get_eq_some_iff.mp hLoad).2, rfl, fun _ => rfl⟩
  | @saved site now input loaded credential since after hLoaded _ hNoSecret hSave hWrite =>
    rw [hLoaded] at hPhase
    rcases hPhase with ⟨hWritten, hId, hVersion, hZero⟩
    rcases secretColumnsOf_saveForm hNoSecret hSave with ⟨hSame, hSameId⟩
    refine ⟨secretColumnsOf loaded, ?_, ?_⟩
    · rw [← hId, ← hSameId, ← hSame]
      exact secretColumns_saveCredential hWrite
    dsimp only
    split
    · rename_i hFresh
      rw [← hWritten]
      exact (hZero (by omega)).symm
    · rw [← hWritten, hVersion]
      change loaded.keyVersion < _
      omega

/-
  In every reachable state the row has the columns of the last successful rotation, unless the form
  saved an object loaded before a successful rotation, and no other one succeeded since.
-/
theorem edit_keeps_rotated_secret_iff {start : EditState} {labels : List EditLabel}
    (hInit : (editSystem credentialId).init start)
    (hRun : (editSystem credentialId).Run start labels state) :
    secretColumns credentialId state.rotation.db = some state.written ↔ state.form.Fresh := by
  have hTracked : Tracked credentialId state := by
    refine hRun.invariant ?_ ?_
    · intro before label after hBefore hStep
      exact hBefore.step hStep
    · rcases hInit with ⟨hIdle, hColumns⟩
      refine ⟨start.written, hColumns, ?_⟩
      rw [hIdle]
  rcases hTracked with ⟨columns, hColumns, hPhase⟩
  rw [hColumns, Option.some.injEq]
  cases hForm : state.form with
  | idle =>
    rw [hForm] at hPhase
    exact ⟨fun _ => trivial, fun _ => hPhase⟩
  | loaded loaded since =>
    rw [hForm] at hPhase
    exact ⟨fun _ => trivial, fun _ => hPhase.1⟩
  | saved since later =>
    rw [hForm] at hPhase
    dsimp only at hPhase
    split at hPhase
    · rename_i hFresh
      exact ⟨fun _ => hFresh, fun _ => hPhase⟩
    · rename_i hStale
      constructor
      · rintro rfl
        exact absurd hPhase (Nat.lt_irrefl _)
      · intro hFresh
        exact absurd hFresh hStale

end Runs

---- Sample Edits

def sampleInput : CredentialInput where
  name := "renamed"
  targetId := 1
  domain := none
  username := "root"
  accountType := none
  kind := .password
  checkoutEnabled := true
  rotationPolicy := none
  secret := []
  totpSecret := []

def sampleRenamed : Credential := withSchedule 0 false (withInput sampleInput sampleCredential)

def sampleEdit (form : FormPhase) : EditState where
  rotation := sampleStart
  written := secretColumnsOf sampleCredential
  form := form

def sampleRotated : SecretColumns where
  encryptedSecret := "rotated"
  secretEncryptionKeyId := activeKeyId
  keyVersion := 2

/- The sample rotation, whatever the form does. -/
theorem run_sampleRotation {queued begun final : Database}
    (hSample : SampleRotation queued begun final)
    (hSuccess :
      successOf 2 (.complete sampleSite sampleMoment sampleRotation) begun = some sampleRotated)
    (form : FormPhase) :
    ∃ labels, (editSystem 2).Run (sampleEdit form) labels
      ⟨⟨final, sampleInstalled, []⟩, sampleRotated, form.rotated⟩ := by
  have hRotation := @run_of_ne_complete 2 _ _ _ (hSample.run trivial) (by simp)
    (secretColumnsOf sampleCredential) form
  exact ⟨_, hRotation.append (.cons (.rotated hSample.completed hSuccess) (.nil _))⟩

/- A form that is loaded after a rotation keeps its secret. -/
theorem edit_keeps_rotated_secret_sample : ∃ labels rotation, (editSystem 2).Run (sampleEdit .idle)
    labels ⟨rotation, sampleRotated, .saved 0 0⟩ ∧
    secretColumns 2 rotation.db = some sampleRotated := by
  have hSample : ∃ queued begun final fresh renamed saved, SampleRotation queued begun final ∧
    successOf 2 (.complete sampleSite sampleMoment sampleRotation) begun = some sampleRotated ∧
    final.credentials.get 2 = some fresh ∧ saveForm sampleSite 0 sampleInput fresh = .ok renamed ∧
    saveCredential renamed final = .ok saved :=
    ⟨_, _, _, _, _, _, ⟨⟨_, rfl⟩, rfl, ⟨_, rfl, rfl⟩, ⟨_, rfl⟩, ⟨_, rfl, rfl, rfl⟩⟩, rfl, rfl, rfl,
      rfl⟩
  rcases hSample with
    ⟨_, _, final, fresh, renamed, saved, hSample, hSuccess, hLoad, hForm, hSaved⟩
  rcases run_sampleRotation hSample hSuccess .idle with ⟨labels, hRotation⟩
  have hEdit : (editSystem 2).Run ⟨⟨final, sampleInstalled, []⟩, sampleRotated, .idle⟩
    [.load, .save sampleSite 0 sampleInput]
    ⟨⟨saved, sampleInstalled, []⟩, sampleRotated, .saved 0 0⟩ :=
    .cons (.loaded rfl hLoad) (.cons (EditStep.saved rfl rfl rfl hForm hSaved) (.nil _))
  have hRun := hRotation.append hEdit
  exact ⟨_, _, hRun, (edit_keeps_rotated_secret_iff ⟨rfl, rfl⟩ hRun).mpr (.inl rfl)⟩

/-
  A rotation between loading and saving is undone: the old secret is back, the job has no candidate
  any more, and the actual password is lost.
-/
theorem edit_restores_old_secret :
    ∃ labels rotation written, (editSystem 2).Run (sampleEdit .idle) labels
    ⟨rotation, written, .saved 1 0⟩ ∧ secretColumns 2 rotation.db ≠ some written ∧
    rotation.actual 2 = Text.ofString "rotated" ∧ ¬ Recoverable sampleSite 2 rotation := by
  have hSample : ∃ queued begun final saved, SampleRotation queued begun final ∧
    saveCredential sampleRenamed final = .ok saved ∧
    successOf 2 (.complete sampleSite sampleMoment sampleRotation) begun = some sampleRotated ∧
    secretColumns 2 saved = some ⟨Text.ofString "secret", [], 1⟩ ∧
    saved.rotationJobs.rows.map (candidateOf sampleSite) = [some []] :=
    ⟨_, _, _, _, ⟨⟨_, rfl⟩, rfl, ⟨_, rfl, rfl⟩, ⟨_, rfl⟩, ⟨_, rfl, rfl, rfl⟩⟩, rfl, rfl, rfl, rfl⟩
  rcases hSample with ⟨_, _, final, saved, hSample, hSaved, hSuccess, hColumns, hCandidates⟩
  rcases run_sampleRotation hSample hSuccess (.loaded sampleCredential 0) with ⟨labels, hRotation⟩
  have hLoad : EditStep 2 (sampleEdit .idle) .load (sampleEdit (.loaded sampleCredential 0)) :=
    .loaded rfl rfl
  have hSave : EditStep 2 ⟨⟨final, sampleInstalled, []⟩, sampleRotated, .loaded sampleCredential 1⟩
    (.save sampleSite 0 sampleInput)
    ⟨⟨saved, sampleInstalled, []⟩, sampleRotated, .saved 1 0⟩ :=
    @EditStep.saved _ _ _ _ _ _ sampleRenamed _ _ rfl rfl rfl rfl hSaved
  refine ⟨_, ⟨saved, sampleInstalled, []⟩, sampleRotated,
    .cons hLoad (hRotation.append (.cons hSave (.nil _))), ?_, rfl, ?_⟩
  · rw [hColumns]
    intro hSame
    injection hSame with hSame
    exact nomatch congrArg SecretColumns.keyVersion hSame
  rintro (hStored | ⟨job, hMem, _, hOpen⟩)
  · unfold storedSecret at hStored
    rw [hColumns] at hStored
    cases hStored
  · have hCandidate := List.mem_map_of_mem (f := candidateOf sampleSite) hMem
    rw [hCandidates, List.mem_singleton, hOpen] at hCandidate
    cases hCandidate

end PamOlive.Console
