import PamOlive.Operations.Progress

/-
  A whole call of `execute_rotation`.

  The job is due, the backend returns, the keyring works and the candidate is new. Comparing the
  candidate with the current secret accepts ASCII only, and its exception fails the job.
-/

---- The Call

namespace PamOlive.Operations

open Foundations Vault Sessions
open Gateway (compareDigest)

/-
  `execute_rotation`: two transactions, each with its instant, and what `backend.rotate` does
  between them.
-/
def executeRotation (site : Site) (start finish : Moment) (registry : BackendRegistry)
    (fresh : Text) (raised : Option (Option BackendError)) (jobId : Uuid) :
    Database → Except Failure RotationJob × Database :=
  andThen (commit (beginRotation site start registry fresh jobId)) fun begun =>
    match begun with
    | .returned job => reading (fun _ => .ok job)
    | .started rotation =>
      match raised with
      | none => commit (completeRotation site finish rotation)
      | some error =>
        commit (finishWithoutRotation site finish rotation.jobId .failed (rotateReport error))

/- A due job, and everything that its rotation needs. -/
structure Prepared (site : Site) (now : Int) (registry : BackendRegistry) (fresh : Text)
    (job : RotationJob) (credential : Credential) (current candidate : Text)
    (db : Database) : Prop where
  hasJob : db.rotationJobs.get job.id = some job
  hasCredential : db.credentials.get job.credentialId = some credential
  pending : job.status = .pending
  due : job.scheduledFor ≤ now
  backend : ∃ backend, getRotationBackend registry job.backend = .ok backend ∧
    candidateSecret backend fresh credential = .ok candidate
  decrypts : decrypt site credential.encryptedSecret credential.secretEncryptionKeyId = .ok current
  encrypts : ∃ token, encrypt site candidate = .ok token
  signs : site.CanSign
  differs : candidate ≠ current

variable {site : Site} {start finish : Moment} {registry : BackendRegistry} {fresh : Text}
variable {job : RotationJob} {credential : Credential} {current candidate : Text} {db : Database}

---- How The Job Ends

/- The call returns the row that it left, with this status. -/
def EndsAs (status : JobStatus) (job : RotationJob)
    (ended : Except Failure RotationJob × Database) : Prop :=
  ∃ row, ended.1 = .ok row ∧ ended.2.rotationJobs.get job.id = some row ∧ row.status = status

section

variable (hPrepared : Prepared site start.now registry fresh job credential current candidate db)

include hPrepared

theorem Prepared.succeeds (hCandidate : IsAscii candidate) (hCurrent : IsAscii current) :
    EndsAs .succeeded job (executeRotation site start finish registry fresh none job.id db) := by
  rcases hPrepared.backend with ⟨backend, hBackend, hGenerated⟩
  rcases hPrepared.encrypts with ⟨token, hToken⟩
  let rotation : Rotation := ⟨job.id, job.credentialId, current, candidate⟩
  let begun : Database :=
    { db with
      rotationJobs := db.rotationJobs.modify job.id (runningJob start.now token)
        (runningJob_id start.now token) }
  have hBegin : beginRotation site start registry fresh job.id db =
    .ok (.started rotation, begun) := by
    have hPrepare := prepareRotation_eq_ok_iff.mpr ⟨backend, hBackend, hPrepared.decrypts,
      hGenerated, hCandidate, hCurrent, hPrepared.differs⟩
    exact beginRotation_eq_started_iff.mpr ⟨job, credential, token, hPrepared.hasJob,
      hPrepared.hasCredential, hPrepared.pending, hPrepared.due, hPrepare, hToken, rfl, rfl, rfl⟩
  -- The last transaction finds the row that the first one left.
  have hRunning : begun.rotationJobs.get rotation.jobId = some (runningJob start.now token job) :=
    @Table.get_modify_self _ _ _ _ _ _ _ _ (runningJob_id _ _) hPrepared.hasJob
  have hCredential : begun.credentials.get rotation.credentialId = some credential :=
    hPrepared.hasCredential
  rcases completeRotation_of_canSign hPrepared.signs hRunning hCredential rfl finish with
    ⟨audit, hComplete⟩
  unfold executeRotation
  rw [andThen_of_ok (commit_eq_ok_iff.mpr hBegin)]
  dsimp only
  rw [commit_eq_ok_iff.mpr hComplete]
  exact ⟨_, rfl, @Table.get_modify_self _ _ _ _ _ _ _ _ (succeededJob_id _ _) hRunning, rfl⟩

theorem Prepared.fails (hNot : ¬ (IsAscii candidate ∧ IsAscii current)) :
    EndsAs .failed job (executeRotation site start finish registry fresh none job.id db) := by
  rcases hPrepared.backend with ⟨backend, hBackend, hGenerated⟩
  have hPrepare : prepareRotation site registry fresh job credential = .error .unexpected := by
    have hCompare : compareDigest candidate current = none := by
      rw [Option.eq_none_iff_forall_ne_some]
      intro result hResult
      rcases compareDigest_eq_some_iff.mp hResult with ⟨hCandidate, hCurrent, _⟩
      exact hNot ⟨hCandidate, hCurrent⟩
    unfold prepareRotation
    rw [hBackend, hPrepared.decrypts]
    change (candidateSecret backend fresh credential >>= _) = _
    rw [hGenerated]
    change (found (compareDigest candidate current) _ >>= _) = _
    rw [hCompare]
    rfl
  have hActive : isActive job = true := isActive_iff.mpr (.inl hPrepared.pending)
  rcases finishWithoutRotation_of_canSign hPrepared.signs hPrepared.hasJob hPrepared.hasCredential
    hActive start .failed preparationFailed with
    ⟨audit, hFinish⟩
  have hBegin : beginRotation site start registry fresh job.id db =
    .ok (.returned (finishedJob start.now .failed preparationFailed job),
      { postponed start.now .failed preparationFailed job db with audit := audit }) := by
    apply found_bind_eq_ok_iff.mpr
    refine ⟨job, hPrepared.hasJob, ?_⟩
    apply found_bind_eq_ok_iff.mpr
    refine ⟨credential, hPrepared.hasCredential, ?_⟩
    have hDue : ¬ (job.status ≠ .pending ∨ job.scheduledFor > start.now) := by
      rw [not_or, not_not, not_lt]
      exact ⟨hPrepared.pending, hPrepared.due⟩
    rw [if_neg hDue, hPrepare]
    exact bind_eq_ok_iff.mpr ⟨_, hFinish, rfl⟩
  unfold executeRotation
  rw [andThen_of_ok (commit_eq_ok_iff.mpr hBegin)]
  refine ⟨_, rfl, ?_, rfl⟩
  exact @Table.get_modify_self _ _ _ _ _ _ _ _ (finishedJob_id _ _ _) hPrepared.hasJob

end

/- The rotation of a due job succeeds if and only if both secrets are ASCII; else it fails. -/
theorem rotation_succeeds_iff
    (hPrepared : Prepared site start.now registry fresh job credential current candidate db) :
    ∃ status, EndsAs status job (executeRotation site start finish registry fresh none job.id db) ∧
      (status = .succeeded ↔ IsAscii candidate ∧ IsAscii current) ∧
      (status = .succeeded ∨ status = .failed) := by
  by_cases hAscii : IsAscii candidate ∧ IsAscii current
  · exact ⟨_, hPrepared.succeeds hAscii.1 hAscii.2, iff_of_true rfl hAscii, .inl rfl⟩
  · exact ⟨_, hPrepared.fails hAscii, iff_of_false nofun hAscii, .inr rfl⟩

---- A Stored Secret

/- The sample credential with this secret, and a due job. -/
def storedJob (secret : Text) : Database :=
  { sampleDatabase { sampleDue with encryptedSecret := secret } samplePolicies with
    rotationJobs := ⟨[sampleJob], List.nodup_singleton _⟩ }

theorem storedJob_prepared {secret : Text} (hOther : "rotated" ≠ secret) :
    Prepared sampleSite sampleMoment.now sampleRegistry "rotated"
      sampleJob { sampleDue with encryptedSecret := secret } secret "rotated"
      (storedJob secret) where
  hasJob := rfl
  hasCredential := rfl
  pending := rfl
  due := Int.le_refl _
  backend := ⟨_, rfl, rfl⟩
  decrypts := rfl
  encrypts := ⟨_, rfl⟩
  signs := sampleSite_working.signs
  differs := hOther

theorem rotation_succeeds_sample : ∃ status, EndsAs status sampleJob
    (executeRotation sampleSite sampleMoment sampleMoment sampleRegistry
      "rotated" none sampleJob.id (storedJob "secret")) ∧
    status = .succeeded := by
  have hOther : Text.ofString "rotated" ≠ Text.ofString "secret" := by
    decide
  rcases rotation_succeeds_iff (storedJob_prepared hOther) with ⟨status, hEnds, hStatus, _⟩
  exact ⟨status, hEnds, hStatus.mpr ⟨rfl, rfl⟩⟩

/- The rotation of the secret `é` fails: the comparison raises. -/
theorem accented_secret_not_rotated : Prepared sampleSite sampleMoment.now sampleRegistry "rotated"
    sampleJob { sampleDue with encryptedSecret := "é" } "é"
    "rotated" (storedJob "é") ∧ EndsAs .failed sampleJob (executeRotation sampleSite sampleMoment
      sampleMoment sampleRegistry "rotated" none sampleJob.id
      (storedJob (Text.ofString "é"))) := by
  have hOther : Text.ofString "rotated" ≠ Text.ofString "é" := by
    decide
  have hPrepared := storedJob_prepared hOther
  refine ⟨hPrepared, hPrepared.fails ?_⟩
  rintro ⟨_, hAscii⟩
  exact absurd hAscii Bool.false_ne_true

end PamOlive.Operations
