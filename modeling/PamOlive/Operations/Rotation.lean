import PamOlive.Operations.Services
import PamOlive.Sessions.Quota

/-
  Rotations interleaved with each other and with failures.

  A call of `execute_rotation` that has begun is a worker: it waits for the backend, which installs
  the candidate when it returns and may have when it raises, and then completes or gives up. A
  worker may be lost. The actual password can always be recovered, from the credential or from a
  job.
-/

---- Secrets

namespace PamOlive.Operations

open Foundations Vault Sessions Table List Function

structure SecretColumns where
  encryptedSecret : Text
  secretEncryptionKeyId : Text
  keyVersion : Nat
deriving DecidableEq

def secretColumnsOf (credential : Credential) : SecretColumns where
  encryptedSecret := credential.encryptedSecret
  secretEncryptionKeyId := credential.secretEncryptionKeyId
  keyVersion := credential.keyVersion

def secretColumns (credentialId : Uuid) (db : Database) : Option SecretColumns :=
  (db.credentials.get credentialId).map secretColumnsOf

def storedSecret (vault : Site) (credentialId : Uuid) (db : Database) : Option Text :=
  (secretColumns credentialId db).bind
    (fun columns => (decrypt vault columns.encryptedSecret columns.secretEncryptionKeyId).toOption)

def candidateOf (vault : Site) (job : RotationJob) : Option Text :=
  (decrypt vault job.encryptedCandidateSecret job.candidateEncryptionKeyId).toOption

/- A site whose keyring may fail, but whose tokens decrypt to what was encrypted. -/
def Seals (vault site : Site) : Prop :=
  ∀ secret token, site.services.keyring.encrypt secret = .ok token →
    vault.services.keyring.decrypt token = .ok secret

---- Workers

inductive Phase where
  | calling | returned
  | raised (error : Option BackendError)
deriving DecidableEq

/- A call of `execute_rotation` after its first transaction. -/
structure Worker where
  rotation : Rotation
  phase : Phase
deriving DecidableEq

structure RotationState where
  db : Database
  actual : Uuid → Text
  workers : List Worker

/- The passwords after a backend that may have installed. -/
def install (installed : Bool) (rotation : Rotation) (actual : Uuid → Text) : Uuid → Text :=
  if installed then update actual rotation.credentialId rotation.candidate
  else actual

inductive RotationLabel where
  | queue (site : Site) (moment : Moment) (call : QueueCall)
  | start (site : Site) (moment : Moment) (registry : BackendRegistry) (fresh : Text) (jobId : Uuid)
  | rotate (rotation : Rotation)
  | raise (rotation : Rotation) (installed : Bool) (error : Option BackendError)
  | crash (worker : Worker) (installed : Bool)
  | complete (site : Site) (moment : Moment) (rotation : Rotation)
  | giveUp (site : Site) (moment : Moment) (rotation : Rotation) (error : Option BackendError)
  | edit (db : Database)

inductive RotationStep (allowed : Site → Prop) (state : RotationState) :
    RotationLabel → RotationState → Prop
  | queued {site : Site} {moment : Moment} {call : QueueCall} :
    RotationStep allowed state (.queue site moment call)
      { state with db := (commit (queueRotation site moment call) state.db).2 }
  | started {site : Site} {moment : Moment} {registry : BackendRegistry}
    {fresh : Text} {jobId : Uuid} {rotation : Rotation} {after : Database}
    (hAllowed : allowed site)
    (hBegin :
      beginRotation site moment registry fresh jobId state.db = .ok (.started rotation, after)) :
    RotationStep allowed state (.start site moment registry fresh jobId)
      { state with db := after, workers := ⟨rotation, .calling⟩ :: state.workers }
  | notStarted {site : Site} {moment : Moment} {registry : BackendRegistry}
    {fresh : Text} {jobId : Uuid} {job : RotationJob} {after : Database}
    (hBegin :
      beginRotation site moment registry fresh jobId state.db = .ok (.returned job, after)) :
    RotationStep allowed state (.start site moment registry fresh jobId)
      { state with db := after }
  | startFailed {site : Site} {moment : Moment} {registry : BackendRegistry}
    {fresh : Text} {jobId : Uuid} {failure : Failure}
    (hBegin : beginRotation site moment registry fresh jobId state.db = .error failure) :
    RotationStep allowed state (.start site moment registry fresh jobId) state
  | returned {rotation : Rotation} {left right : List Worker} (hWorkers :
    state.workers = left ++ ⟨rotation, .calling⟩ :: right) :
    RotationStep allowed state (.rotate rotation)
      { state with
        actual := install true rotation state.actual
        workers :=
          left ++ ⟨rotation, .returned⟩ :: right }
  | raised {rotation : Rotation} {installed : Bool}
    {error : Option BackendError} {left right : List Worker}
    (hWorkers : state.workers = left ++ ⟨rotation, .calling⟩ :: right) :
    RotationStep allowed state (.raise rotation installed error)
      { state with
        actual := install installed rotation state.actual
        workers :=
          left ++ ⟨rotation, .raised error⟩ :: right }
  | crashed {worker : Worker} {installed : Bool} {left right : List Worker}
    (hWorkers : state.workers = left ++ worker :: right)
    (hCalling : installed = true → worker.phase = .calling) :
    RotationStep allowed state (.crash worker installed)
      { state with
        actual := install installed worker.rotation state.actual
        workers := left ++ right }
  | completed {site : Site} {moment : Moment} {rotation : Rotation}
    {left right : List Worker}
    (hWorkers : state.workers = left ++ ⟨rotation, .returned⟩ :: right) :
    RotationStep allowed state (.complete site moment rotation)
      { state with
        db := (commit (completeRotation site moment rotation) state.db).2
        workers := left ++ right }
  | gaveUp {site : Site} {moment : Moment} {rotation : Rotation}
    {error : Option BackendError} {left right : List Worker}
    (hWorkers : state.workers = left ++ ⟨rotation, .raised error⟩ :: right) :
    RotationStep allowed state (.giveUp site moment rotation error)
      { state with
        db :=
          (commit (finishWithoutRotation site moment rotation.jobId .failed (rotateReport error))
            state.db).2
        workers := left ++ right }
  | edited {after : Database} (hJobs : after.rotationJobs = state.db.rotationJobs) (hSecrets :
      ∀ credentialId, secretColumns credentialId after = secretColumns credentialId state.db) :
    RotationStep allowed state (.edit after)
      { state with db := after }

/- The constraint `unique_active_rotation_per_credential`. -/
def OneActive (db : Database) : Prop :=
  ∀ first second, first ∈ db.rotationJobs.rows → second ∈ db.rotationJobs.rows →
    isActive first = true → isActive second = true → first.credentialId = second.credentialId →
      first.id = second.id

def rotationSystem (allowed : Site → Prop) : TransitionSystem RotationState RotationLabel where
  init := fun state =>
    state.workers = [] ∧ OneActive state.db
  step := RotationStep allowed

---- Changes Of A Job

/- What a transaction that ends no rotation does to a job. -/
inductive JobChange : Option RotationJob → Option RotationJob → Prop
  | queued {job : RotationJob} (hPending : job.status = .pending) : JobChange none (some job)
  | started {job : RotationJob} (now : Int) (token : Text) (hPending : job.status = .pending) :
    JobChange (some job) (some (runningJob now token job))
  | finished {job : RotationJob} (now : Int) (status : JobStatus) (error : BackendError)
    (hActive : isActive job = true)
    (hEnded : status = .failed ∨ status = .actionRequired) :
    JobChange (some job) (some (finishedJob now status error job))

/-
  A transaction that changes one job, and no secret. Only a credential without an active job gets
  one.
-/
structure Changes (jobId : Uuid) (db after : Database) : Prop where
  changed : JobChange (db.rotationJobs.get jobId) (after.rotationJobs.get jobId)
  alone : db.rotationJobs.get jobId = none → ∀ job, after.rotationJobs.get jobId = some job →
    ∀ other ∈ db.rotationJobs.rows, other.credentialId = job.credentialId → isActive other = false
  others : ∀ other, other ≠ jobId → after.rotationJobs.get other = db.rotationJobs.get other
  sameSecrets : ∀ credentialId, secretColumns credentialId after = secretColumns credentialId db

variable {site vault : Site} {moment : Moment} {db : Database} {jobId credentialId : Uuid}
variable {job : RotationJob} {registry : BackendRegistry} {fresh : Text} {rotation : Rotation}

section Transactions

variable {after : Database}

theorem secretColumns_modify
    {table : Table Credential.id} {id : Uuid} {change : Credential → Credential}
    (hKey : ∀ row, (change row).id = row.id)
    (hSame : ∀ row, secretColumnsOf (change row) = secretColumnsOf row) :
    ((table.modify id change hKey).get credentialId).map secretColumnsOf =
      (table.get credentialId).map secretColumnsOf := by
  by_cases hId : credentialId = id
  · subst hId
    cases hGet : table.get credentialId with
    | none =>
      have hNone := get_eq_none_iff.mp hGet
      rw [← @Table.map_key_modify _ _ _ _ credentialId change _ hKey] at hNone
      rw [get_eq_none_iff.mpr hNone]
    | some row =>
      rw [get_modify_self hGet]
      simp [hSame]
  · rw [get_modify_of_ne hId]

theorem secretColumnsOf_postponed (now : Int) (status : JobStatus) (credential : Credential) :
    secretColumnsOf (postponedCredential now status credential) = secretColumnsOf credential := by
  unfold postponedCredential
  split <;> rfl

/- No call is waiting for the backend on a job. -/
def NotRunning (jobId : Uuid) (db : Database) : Prop :=
  ∀ job, db.rotationJobs.get jobId = some job → job.status ≠ .running

theorem notRunning_of_pending (hJob : db.rotationJobs.get jobId = some job)
    (hPending : job.status = .pending) : NotRunning jobId db := by
  intro other hOther hRunning
  cases Option.mem_unique hJob hOther
  exact nomatch hPending.symm.trans hRunning

theorem changes_of_queue {call : QueueCall} {result : RotationJob × Bool}
    (hQueue : queueRotation site moment call db = .ok (result, after)) :
    after = db ∨ Changes call.jobId db after ∧ NotRunning call.jobId db := by
  rcases queueRotation_eq_ok hQueue with hSame | ⟨credential, jobs, audit, _, hNone, hInsert, rfl⟩
  · exact .inl hSame
  right
  have hNew : jobs.get call.jobId = some (queuedJob moment.now call credential) :=
    get_insert_self hInsert
  have hFree : db.rotationJobs.get call.jobId = none :=
    get_eq_none_iff.mpr (insert_eq_some_iff.mp hInsert).1
  refine ⟨⟨?_, ?_, ?_, fun _ => rfl⟩, ?_⟩
  · rw [hNew, hFree]
    exact .queued rfl
  · intro _ job hJob
    cases Option.mem_unique hNew hJob
    exact activeJob_eq_none_iff.mp hNone
  · intro other hOther
    exact get_insert_of_ne hInsert hOther
  · intro job hJob
    rw [hFree] at hJob
    exact nomatch hJob

theorem changes_of_finish {status : JobStatus} {error : BackendError} {result : RotationJob}
    (hEnded : status = .failed ∨ status = .actionRequired)
    (hFinish : finishWithoutRotation site moment jobId status error db = .ok (result, after)) :
    after = db ∨ ∃ job, db.rotationJobs.get jobId = some job ∧ Changes jobId db after := by
  rcases finishWithoutRotation_eq_ok hFinish with hSame | ⟨job, audit, hJob, hActive, rfl⟩
  · exact .inl hSame
  right
  have hId : job.id = jobId := (get_eq_some_iff.mp hJob).2
  subst hId
  refine ⟨job, hJob, ?_, ?_, ?_, ?_⟩
  · dsimp only [postponed]
    rw [get_modify_self hJob, hJob]
    exact .finished moment.now status error hActive hEnded
  · intro hFree
    exact nomatch hJob.symm.trans hFree
  · intro other hOther
    dsimp only [postponed]
    rw [get_modify_of_ne hOther]
  · intro credentialId
    exact secretColumns_modify (postponedCredential_id moment.now status)
      (secretColumnsOf_postponed moment.now status)

theorem preparationError_status (error : PreparationError) :
    error.status = .failed ∨ error.status = .actionRequired := by
  cases error with
  | unexpected => exact .inl rfl
  | refused error =>
    simp only [PreparationError.status]
    split
    · exact .inr rfl
    · exact .inl rfl

theorem changes_of_notStarted
    (hBegin : beginRotation site moment registry fresh jobId db = .ok (.returned job, after)) :
    after = db ∨ ∃ row, db.rotationJobs.get jobId = some row ∧ row.status = .pending ∧
      Changes jobId db after := by
  rcases beginRotation_eq_ok hBegin with
    ⟨_, _, hSame | ⟨error, finished, row, hRow, hPending, hFinish⟩⟩ | ⟨_, _, _, _, hStarted, _⟩
  · exact .inl hSame
  · rcases changes_of_finish (preparationError_status error) hFinish with hSame | ⟨_, _, hChanges⟩
    · exact .inl hSame
    · exact .inr ⟨row, hRow, hPending, hChanges⟩
  · exact nomatch hStarted

/- The job of a worker holds the worker's candidate. -/
def HasJob (vault : Site) (rotation : Rotation) (db : Database) : Prop :=
  ∃ job, db.rotationJobs.get rotation.jobId = some job ∧ job.status = .running ∧
    job.credentialId = rotation.credentialId ∧ candidateOf vault job = some rotation.candidate

theorem decrypt_encrypt {secret token : Text} (hSeals : Seals vault site)
    (hEncrypt : encrypt site secret = .ok token) :
    decrypt vault token activeKeyId = .ok secret := by
  unfold encrypt at hEncrypt
  split at hEncrypt
  · rename_i sealed hSealed
    injection hEncrypt with hToken
    subst hToken
    unfold decrypt
    rw [hSeals secret sealed hSealed]
    simp [require, bind, Except.bind, pure, Except.pure]
  · exact nomatch hEncrypt

theorem changes_of_started
    (hBegin : beginRotation site moment registry fresh jobId db = .ok (.started rotation, after)) :
    rotation.jobId = jobId ∧ Changes jobId db after ∧ NotRunning jobId db := by
  rcases beginRotation_eq_ok hBegin with
    ⟨_, hReturned, _⟩ | ⟨job, current, candidate, token, hStarted, hJob, hPending, _, rfl⟩
  · exact nomatch hReturned
  cases hStarted
  refine ⟨rfl, ⟨?_, ?_, ?_, fun _ => rfl⟩, notRunning_of_pending hJob hPending⟩
  · rw [get_modify_self hJob, hJob]
    exact .started moment.now token hPending
  · intro hFree
    exact nomatch hJob.symm.trans hFree
  · intro other hOther
    rw [get_modify_of_ne hOther]

theorem hasJob_of_started (hSeals : Seals vault site)
    (hBegin : beginRotation site moment registry fresh jobId db = .ok (.started rotation, after)) :
    HasJob vault rotation after := by
  rcases beginRotation_eq_ok hBegin with
    ⟨_, hReturned, _⟩ | ⟨job, current, candidate, token, hStarted, hJob, _, hEncrypt, rfl⟩
  · exact nomatch hReturned
  · cases hStarted
    refine ⟨runningJob moment.now token job, ?_, rfl, rfl, ?_⟩
    · rw [get_modify_self hJob]
    · unfold candidateOf runningJob
      rw [decrypt_encrypt hSeals hEncrypt]
      rfl

/- Completing moves the candidate of a job to a credential. -/
structure Completes (vault : Site) (rotation : Rotation) (db after : Database) : Prop where
  hasJob : ∃ job now keyVersion, db.rotationJobs.get rotation.jobId = some job ∧
    job.status = .running ∧
    after.rotationJobs.get rotation.jobId = some (succeededJob now keyVersion job) ∧
    storedSecret vault rotation.credentialId after = candidateOf vault job
  others :
    ∀ other, other ≠ rotation.jobId → after.rotationJobs.get other = db.rotationJobs.get other
  sameSecrets : ∀ credentialId, credentialId ≠ rotation.credentialId →
    secretColumns credentialId after = secretColumns credentialId db

theorem completes_of_complete (vault : Site) {result : RotationJob}
    (hComplete : completeRotation site moment rotation db = .ok (result, after)) :
    Completes vault rotation db after := by
  rcases completeRotation_eq_ok hComplete with
    ⟨job, credential, audit, hJob, hCredential, hRunning, rfl⟩
  have hJobId : job.id = rotation.jobId := (get_eq_some_iff.mp hJob).2
  have hCredentialId : credential.id = rotation.credentialId := (get_eq_some_iff.mp hCredential).2
  unfold rotated
  rw [hJobId, hCredentialId]
  refine ⟨⟨job, moment.now, credential.keyVersion + 1, hJob, hRunning, ?_, ?_⟩, ?_, ?_⟩
  · rw [get_modify_self hJob]
  · unfold storedSecret secretColumns
    rw [get_modify_self hCredential]
    rfl
  · intro other hOther
    rw [get_modify_of_ne hOther]
  · intro credentialId hOther
    unfold secretColumns
    rw [get_modify_of_ne hOther]

end Transactions

---- Effects

/-
  What a step does. A transaction that fails changes nothing; a job ends without a rotation by a
  preparation error or a worker that gives up.
-/
inductive Effect (allowed : Site → Prop) (state : RotationState) :
    RotationLabel → RotationState → Prop
  | same {label : RotationLabel} {db : Database} (hJobs : db.rotationJobs = state.db.rotationJobs)
    (hSecrets :
      ∀ credentialId, secretColumns credentialId db = secretColumns credentialId state.db) :
    Effect allowed state label { state with db := db }
  | queued {site : Site} {moment : Moment} {call : QueueCall} {result : RotationJob × Bool}
    {db : Database} (hQueue : queueRotation site moment call state.db = .ok (result, db))
    (hChanges : Changes call.jobId state.db db) (hNot : NotRunning call.jobId state.db) :
    Effect allowed state (.queue site moment call) { state with db := db }
  | refused {site : Site} {moment : Moment} {registry : BackendRegistry} {fresh : Text}
    {jobId : Uuid} {job : RotationJob} {db : Database}
    (hJob : state.db.rotationJobs.get jobId = some job) (hPending : job.status = .pending)
    (hChanges : Changes jobId state.db db) :
    Effect allowed state (.start site moment registry fresh jobId) { state with db := db }
  | started {site : Site} {moment : Moment} {registry : BackendRegistry} {fresh : Text}
    {jobId : Uuid} {rotation : Rotation} {db : Database} (hAllowed : allowed site)
    (hBegin :
      beginRotation site moment registry fresh jobId state.db = .ok (.started rotation, db)) :
    Effect allowed state (.start site moment registry fresh jobId)
      { state with db := db, workers := ⟨rotation, .calling⟩ :: state.workers }
  | moved {label : RotationLabel} {rotation : Rotation} {phase : Phase} {installed : Bool}
    {left right : List Worker} (hWorkers : state.workers = left ++ ⟨rotation, .calling⟩ :: right)
    (hPhase : phase = .returned → installed = true) :
    Effect allowed state label
      { state with
        actual := install installed rotation state.actual
        workers := left ++ ⟨rotation, phase⟩ :: right }
  | lost {label : RotationLabel} {worker : Worker} {installed : Bool} {left right : List Worker}
    (hWorkers : state.workers = left ++ worker :: right) :
    Effect allowed state label
      { state with
        actual := install installed worker.rotation state.actual
        workers := left ++ right }
  | finished {label : RotationLabel} {worker : Worker} {left right : List Worker}
    {job : RotationJob} {db : Database} (hWorkers : state.workers = left ++ worker :: right)
    (hJob : state.db.rotationJobs.get worker.rotation.jobId = some job)
    (hChanges : Changes worker.rotation.jobId state.db db) :
    Effect allowed state label
      { state with db := db, workers := left ++ right }
  | completed {site : Site} {moment : Moment} {rotation : Rotation} {result : RotationJob}
    {left right : List Worker} {db : Database}
    (hWorkers : state.workers = left ++ ⟨rotation, .returned⟩ :: right)
    (hComplete : completeRotation site moment rotation state.db = .ok (result, db)) :
    Effect allowed state (.complete site moment rotation)
      { state with db := db, workers := left ++ right }

variable {state : RotationState} {allowed : Site → Prop} {workers : List Worker}

section Runs

variable {after : RotationState} {label : RotationLabel}

theorem RotationStep.effect (hStep : RotationStep allowed state label after) :
    Effect allowed state label after := by
  cases hStep with
  | @queued site moment call =>
    rcases commit_snd_eq_or_ok (queueRotation site moment call) state.db with
      hSame | ⟨result, hQueue⟩
    · rw [hSame]
      exact .same rfl (fun _ => rfl)
    · rcases changes_of_queue hQueue with hSame | ⟨hChanges, hNot⟩
      · rw [hSame]
        exact .same rfl (fun _ => rfl)
      · exact .queued hQueue hChanges hNot
  | started hAllowed hBegin => exact .started hAllowed hBegin
  | notStarted hBegin =>
    rcases changes_of_notStarted hBegin with rfl | ⟨_, hJob, hPending, hChanges⟩
    · exact .same rfl (fun _ => rfl)
    · exact .refused hJob hPending hChanges
  | startFailed _ => exact .same rfl (fun _ => rfl)
  | returned hWorkers => exact .moved hWorkers (fun _ => rfl)
  | raised hWorkers => exact .moved hWorkers (fun hReturned => nomatch hReturned)
  | crashed hWorkers _ => exact .lost hWorkers
  | @completed site moment rotation left right hWorkers =>
    rcases commit_snd_eq_or_ok (completeRotation site moment rotation) state.db with
      hSame | ⟨result, hComplete⟩
    · rw [hSame]
      exact @Effect.lost allowed state _ _ false left right hWorkers
    · exact .completed hWorkers hComplete
  | @gaveUp site moment rotation error left right hWorkers =>
    rcases commit_snd_eq_or_ok
      (finishWithoutRotation site moment rotation.jobId .failed (rotateReport error)) state.db with
      hSame | ⟨result, hFinish⟩
    · rw [hSame]
      exact @Effect.lost allowed state _ _ false left right hWorkers
    · rcases changes_of_finish (.inl rfl) hFinish with hSame | ⟨_, hJob, hChanges⟩
      · rw [hSame]
        exact @Effect.lost allowed state _ _ false left right hWorkers
      · exact .finished hWorkers hJob hChanges
  | edited hJobs hSecrets => exact .same hJobs hSecrets

---- The Invariant

/- The actual password is stored, or is the candidate of a job that has left the queue. -/
def Kept (vault : Site) (credentialId : Uuid) (actual : Text) (db : Database) : Prop :=
  storedSecret vault credentialId db = some actual ∨ ∃ job ∈ db.rotationJobs.rows,
    job.credentialId = credentialId ∧ job.status ≠ .pending ∧ candidateOf vault job = some actual

def rotationsOf (state : RotationState) : List Rotation := state.workers.map Worker.rotation

/- Each of the calls between their two transactions has a job of its own. -/
structure Manned (vault : Site) (db : Database) (rotations : List Rotation) : Prop where
  oneActive : OneActive db
  hasJob : ∀ rotation ∈ rotations, HasJob vault rotation db
  distinct : (rotations.map Rotation.jobId).Nodup

/- The password is kept, and installed where a call returned. -/
structure Valid (vault : Site) (credentialId : Uuid) (state : RotationState) : Prop
    extends Manned vault state.db (rotationsOf state) where
  kept : Kept vault credentialId (state.actual credentialId) state.db
  installed : ∀ worker ∈ state.workers, worker.phase = .returned →
    state.actual worker.rotation.credentialId = worker.rotation.candidate

theorem storedSecret_congr {after : Database}
    (hSame : secretColumns credentialId after = secretColumns credentialId db) :
    storedSecret vault credentialId after = storedSecret vault credentialId db := by
  unfold storedSecret
  rw [hSame]

variable {left right : List Worker} {worker : Worker} {installed : Bool}

theorem Kept.of_changes {after : Database} {actual : Text}
    (hKept : Kept vault credentialId actual db)
    (hChanges : Changes jobId db after) : Kept vault credentialId actual after := by
  rcases hKept with hStored | ⟨job, hMem, hOwn, hLeft, hOpen⟩
  · left
    rw [storedSecret_congr (hChanges.sameSecrets credentialId)]
    exact hStored
  right
  have hGet : db.rotationJobs.get job.id = some job := get_eq_some_iff.mpr ⟨hMem, rfl⟩
  by_cases hId : job.id = jobId
  · subst hId
    have hChanged := hChanges.changed
    rw [hGet] at hChanged
    generalize hRow : after.rotationJobs.get job.id = row at hChanged
    cases hChanged with
    | started now token hPending => exact absurd hPending hLeft
    | finished now status error hActive hEnded =>
      refine ⟨_, (get_eq_some_iff.mp hRow).1, hOwn, ?_, hOpen⟩
      rcases hEnded with rfl | rfl <;> simp [finishedJob]
  · have hRow := hChanges.others job.id hId
    rw [hGet] at hRow
    exact ⟨job, (get_eq_some_iff.mp hRow).1, hOwn, hLeft, hOpen⟩

theorem Changes.active_cases {after : Database} (hChanges : Changes jobId db after)
    (hMem : job ∈ after.rotationJobs.rows) (hActive : isActive job = true) :
    (job.id = jobId ∧ db.rotationJobs.get jobId = none) ∨ ∃ before ∈ db.rotationJobs.rows,
      before.id = job.id ∧ before.credentialId = job.credentialId ∧ isActive before = true := by
  have hGet : after.rotationJobs.get job.id = some job := get_eq_some_iff.mpr ⟨hMem, rfl⟩
  by_cases hId : job.id = jobId
  · subst hId
    have hChanged := hChanges.changed
    rw [hGet] at hChanged
    generalize hRow : db.rotationJobs.get job.id = row at hChanged
    cases hChanged with
    | queued hPending => exact .inl ⟨rfl, rfl⟩
    | started now token hPending =>
      refine .inr ⟨_, (get_eq_some_iff.mp hRow).1, rfl, rfl, ?_⟩
      exact isActive_iff.mpr (.inl hPending)
    | finished now status error _ hEnded =>
      exfalso
      rcases hEnded with rfl | rfl <;> simp [isActive, finishedJob] at hActive
  · rw [hChanges.others job.id hId] at hGet
    exact .inr ⟨job, (get_eq_some_iff.mp hGet).1, rfl, rfl, hActive⟩

theorem OneActive.of_changes {after : Database} (hOne : OneActive db)
    (hChanges : Changes jobId db after) : OneActive after := by
  -- the job that was queued is alone among the old ones
  have hAlone : ∀ job other, job ∈ after.rotationJobs.rows → job.id = jobId →
    db.rotationJobs.get jobId = none → other ∈ db.rotationJobs.rows →
    other.credentialId = job.credentialId → isActive other = false := by
    intro job other hMem hId hNone hOther hSame
    have hGet := get_eq_some_iff.mpr ⟨hMem, hId⟩
    exact hChanges.alone hNone job hGet other hOther hSame
  intro first second hFirst hSecond hActive hActive' hSame
  rcases hChanges.active_cases hFirst hActive with ⟨hId, hNone⟩ | ⟨before, hBefore, hId, hOwn, hWas⟩
  · rcases hChanges.active_cases hSecond hActive' with
    ⟨hId', _⟩ | ⟨before', hBefore', _, hOwn', hWas'⟩
    · rw [hId, hId']
    · have hNot := hAlone first before' hFirst hId hNone hBefore' (hOwn'.trans hSame.symm)
      rw [hWas'] at hNot
      exact nomatch hNot
  · rcases hChanges.active_cases hSecond hActive' with
    ⟨hId', hNone'⟩ | ⟨before', hBefore', hId', hOwn', hWas'⟩
    · have hNot := hAlone second before hSecond hId' hNone' hBefore (hOwn.trans hSame)
      rw [hWas] at hNot
      exact nomatch hNot
    · rw [← hId, ← hId']
      apply hOne before before' hBefore hBefore' hWas hWas'
      rw [hOwn, hOwn', hSame]

theorem OneActive.of_completes {after : Database} (hOne : OneActive db)
    (hCompletes : Completes vault rotation db after) : OneActive after := by
  have hBefore :
    ∀ job ∈ after.rotationJobs.rows, isActive job = true → job ∈ db.rotationJobs.rows := by
    intro job hMem hActive
    have hGet : after.rotationJobs.get job.id = some job := get_eq_some_iff.mpr ⟨hMem, rfl⟩
    by_cases hId : job.id = rotation.jobId
    · rcases hCompletes.hasJob with ⟨_, _, _, _, _, hSucceeded, _⟩
      rw [hId, hSucceeded] at hGet
      cases hGet
      simp [isActive, succeededJob] at hActive
    · rw [hCompletes.others job.id hId] at hGet
      exact (get_eq_some_iff.mp hGet).1
  intro first second hFirst hSecond hActive hActive'
  exact hOne first second (hBefore first hFirst hActive)
    (hBefore second hSecond hActive') hActive hActive'

---- Workers And Their Jobs

section Manning

variable {rotations rest : List Rotation}

section

variable (hManned : Manned vault db rotations)

include hManned

theorem Manned.of_sublist {after : Database}
    (hOne : OneActive after) (hSub : rest.Sublist rotations)
    (hOthers : ∀ rotation ∈ rest, rotation.jobId ≠ jobId)
    (hJobs : ∀ other, other ≠ jobId → after.rotationJobs.get other = db.rotationJobs.get other) :
    Manned vault after rest where
  oneActive := hOne
  hasJob := by
    intro rotation hMem
    rcases hManned.hasJob rotation (hSub.subset hMem) with ⟨job, hGet, hRest⟩
    exact ⟨job, (hJobs _ (hOthers rotation hMem)).trans hGet, hRest⟩
  distinct := hManned.distinct.sublist (hSub.map _)

theorem Manned.of_changes {after : Database}
    (hChanges : Changes jobId db after) (hSub : rest.Sublist rotations)
    (hOthers : ∀ rotation ∈ rest, rotation.jobId ≠ jobId) : Manned vault after rest :=
  hManned.of_sublist (hManned.oneActive.of_changes hChanges) hSub hOthers hChanges.others

theorem Manned.jobId_ne (hNot : NotRunning jobId db) :
    ∀ rotation ∈ rotations, rotation.jobId ≠ jobId := by
  rintro rotation hMem rfl
  rcases hManned.hasJob rotation hMem with ⟨job, hGet, hRunning, _⟩
  exact hNot job hGet hRunning

theorem Manned.jobId_eq {first second : Rotation}
    (hFirst : first ∈ rotations) (hSecond : second ∈ rotations)
    (hSame : first.credentialId = second.credentialId) : first.jobId = second.jobId := by
  rcases hManned.hasJob first hFirst with ⟨job, hGet, hRunning, hOwn, _⟩
  rcases hManned.hasJob second hSecond with ⟨job', hGet', hRunning', hOwn', _⟩
  rcases get_eq_some_iff.mp hGet with ⟨hMem, hId⟩
  rcases get_eq_some_iff.mp hGet' with ⟨hMem', hId'⟩
  rw [← hId, ← hId']
  apply hManned.oneActive job job' hMem hMem'
  · exact isActive_iff.mpr (.inr hRunning)
  · exact isActive_iff.mpr (.inr hRunning')
  · rw [hOwn, hOwn', hSame]

theorem Manned.started {after : Database} (hSeals : Seals vault site)
    (hBegin : beginRotation site moment registry fresh jobId db = .ok (.started rotation, after)) :
    Manned vault after (rotation :: rotations) := by
  rcases changes_of_started hBegin with ⟨hId, hChanges, hNot⟩
  have hOld := hManned.of_changes hChanges (Sublist.refl _) (hManned.jobId_ne hNot)
  refine ⟨hOld.oneActive, ?_, ?_⟩
  · intro other hMem
    rcases mem_cons.mp hMem with rfl | hMem
    · exact hasJob_of_started hSeals hBegin
    · exact hOld.hasJob other hMem
  · rw [map_cons, nodup_cons]
    refine ⟨?_, hOld.distinct⟩
    intro hMem
    rcases mem_map.mp hMem with ⟨other, hIn, hSame⟩
    exact hManned.jobId_ne hNot other hIn (hSame.trans hId)

end

end Manning

theorem mem_of_split {other : Worker}
    (hWorkers : workers = left ++ worker :: right) (hMem : other ∈ left ++ right) :
    other ∈ workers := by
  rw [hWorkers]
  exact ((sublist_cons_self worker right).append_left left).subset hMem

theorem sublist_of_split (hWorkers : workers = left ++ worker :: right) :
    ((left ++ right).map Worker.rotation).Sublist (workers.map Worker.rotation) := by
  rw [hWorkers]
  exact ((sublist_cons_self worker right).append_left left).map _

theorem mem_rotationsOf_of_split (hWorkers : state.workers = left ++ worker :: right) :
    worker.rotation ∈ rotationsOf state := by
  simp [rotationsOf, hWorkers]

theorem rotationsOf_of_moved {later : RotationState} {phase next : Phase}
    (hWorkers : state.workers = left ++ ⟨rotation, phase⟩ :: right)
    (hLater : later.workers = left ++ ⟨rotation, next⟩ :: right) :
    rotationsOf later = rotationsOf state := by
  simp [rotationsOf, hWorkers, hLater]

theorem Manned.others_ne (hManned : Manned vault db (rotationsOf state))
    (hWorkers : state.workers = left ++ worker :: right) :
    ∀ other ∈ (left ++ right).map Worker.rotation, other.jobId ≠ worker.rotation.jobId := by
  have hDistinct := hManned.distinct
  unfold rotationsOf at hDistinct
  rw [hWorkers, map_append, map_cons, map_append, map_cons, nodup_middle, ← map_append,
    ← map_append, nodup_cons] at hDistinct
  intro other hMem hSame
  apply hDistinct.1
  rw [← hSame]
  exact mem_map_of_mem hMem

theorem Manned.step (hManned : Manned vault state.db (rotationsOf state))
    (hSeals : ∀ site, allowed site → Seals vault site)
    (hEffect : Effect allowed state label after) : Manned vault after.db (rotationsOf after) := by
  cases hEffect with
  | same hJobs _ =>
    refine ⟨?_, ?_, hManned.distinct⟩
    · unfold OneActive
      rw [hJobs]
      exact hManned.oneActive
    · unfold HasJob
      rw [hJobs]
      exact hManned.hasJob
  | queued _ hChanges hNot =>
    exact hManned.of_changes hChanges (Sublist.refl _) (hManned.jobId_ne hNot)
  | refused hJob hPending hChanges =>
    exact hManned.of_changes hChanges (Sublist.refl _)
      (hManned.jobId_ne (notRunning_of_pending hJob hPending))
  | started hAllowed hBegin => exact hManned.started (hSeals _ hAllowed) hBegin
  | moved hWorkers _ =>
    rw [rotationsOf_of_moved hWorkers rfl]
    exact hManned
  | lost hWorkers =>
    exact hManned.of_sublist hManned.oneActive (sublist_of_split hWorkers)
      (hManned.others_ne hWorkers) (fun _ _ => rfl)
  | finished hWorkers _ hChanges =>
    exact hManned.of_changes hChanges (sublist_of_split hWorkers) (hManned.others_ne hWorkers)
  | completed hWorkers hComplete =>
    have hCompletes := completes_of_complete vault hComplete
    exact hManned.of_sublist (hManned.oneActive.of_completes hCompletes) (sublist_of_split hWorkers)
      (hManned.others_ne hWorkers) hCompletes.others

---- Passwords

section

variable (hValid : Valid vault credentialId state)

include hValid

theorem Valid.kept_install (hMem : worker ∈ state.workers) :
    Kept vault credentialId (install installed worker.rotation state.actual credentialId)
      state.db := by
  rcases hValid.hasJob _ (mem_map_of_mem hMem) with ⟨job, hGet, hRunning, hOwn, hOpen⟩
  unfold install
  split
  · by_cases hHere : credentialId = worker.rotation.credentialId
    · subst hHere
      right
      refine ⟨job, (get_eq_some_iff.mp hGet).1, hOwn, by simp [hRunning], ?_⟩
      rw [update_self]
      exact hOpen
    · rw [update_of_ne hHere]
      exact hValid.kept
  · exact hValid.kept

theorem Valid.installed_install {other : Worker}
    (hWorkers : state.workers = left ++ worker :: right) (hOther : other ∈ left ++ right)
    (hReturned : other.phase = .returned) :
    install installed worker.rotation state.actual other.rotation.credentialId =
      other.rotation.candidate := by
  have hSub := sublist_of_split hWorkers
  have hIn := mem_map_of_mem (f := Worker.rotation) hOther
  have hOld := mem_of_split hWorkers hOther
  have hCredential : other.rotation.credentialId ≠ worker.rotation.credentialId := by
    intro hSame
    exact hValid.toManned.others_ne hWorkers _ hIn (hValid.toManned.jobId_eq (hSub.subset hIn)
      (mem_rotationsOf_of_split hWorkers) hSame)
  unfold install
  split
  · rw [update_of_ne hCredential]
    exact hValid.installed other hOld hReturned
  · exact hValid.installed other hOld hReturned

section

variable (hMem : worker ∈ state.workers) (hReturned : worker.phase = .returned)
  (hCompletes : Completes vault worker.rotation state.db db)

include hMem hReturned hCompletes

theorem Valid.stored_of_completes : storedSecret vault worker.rotation.credentialId db =
    some (state.actual worker.rotation.credentialId) := by
  rcases hValid.hasJob _ (mem_map_of_mem hMem) with ⟨job, hGet, _, _, hOpen⟩
  rcases hCompletes.hasJob with ⟨job', _, _, hGet', _, _, hStored⟩
  cases Option.mem_unique hGet hGet'
  rw [hStored, hOpen, hValid.installed worker hMem hReturned]

theorem Valid.kept_completes : Kept vault credentialId (state.actual credentialId) db := by
  by_cases hHere : credentialId = worker.rotation.credentialId
  · left
    rw [hHere]
    exact hValid.stored_of_completes hMem hReturned hCompletes
  rcases hValid.kept with hStored | ⟨job, hIn, hOwn, hLeft, hOpen⟩
  · left
    rw [storedSecret_congr (hCompletes.sameSecrets credentialId hHere)]
    exact hStored
  right
  have hGet : state.db.rotationJobs.get job.id = some job := get_eq_some_iff.mpr ⟨hIn, rfl⟩
  have hId : job.id ≠ worker.rotation.jobId := by
    intro hSame
    rcases hValid.hasJob _ (mem_map_of_mem hMem) with ⟨job', hGet', _, hOwn', _⟩
    rw [← hSame, hGet] at hGet'
    injection hGet' with hJob
    apply hHere
    rw [← hOwn, hJob, hOwn']
  rw [← hCompletes.others job.id hId] at hGet
  exact ⟨job, (get_eq_some_iff.mp hGet).1, hOwn, hLeft, hOpen⟩

end

theorem Valid.kept_step (hEffect : Effect allowed state label after) :
    Kept vault credentialId (after.actual credentialId) after.db := by
  cases hEffect with
  | same hJobs hSecrets =>
    unfold Kept
    rw [storedSecret_congr (hSecrets credentialId), hJobs]
    exact hValid.kept
  | queued _ hChanges _ => exact hValid.kept.of_changes hChanges
  | refused _ _ hChanges => exact hValid.kept.of_changes hChanges
  | started _ hBegin => exact hValid.kept.of_changes (changes_of_started hBegin).2.1
  | @moved _ rotation _ _ left right hWorkers _ =>
    exact @Valid.kept_install vault credentialId state ⟨rotation, .calling⟩ _ hValid
      (by simp [hWorkers])
  | lost hWorkers => exact hValid.kept_install (by simp [hWorkers])
  | finished _ _ hChanges => exact hValid.kept.of_changes hChanges
  | completed hWorkers hComplete =>
    exact @Valid.kept_completes vault _ credentialId state ⟨_, .returned⟩ hValid
      (by simp [hWorkers]) rfl (completes_of_complete vault hComplete)

theorem Valid.installed_step (hEffect : Effect allowed state label after) :
    ∀ worker ∈ after.workers, worker.phase = .returned →
      after.actual worker.rotation.credentialId = worker.rotation.candidate := by
  intro other hMem hReturned
  cases hEffect with
  | started _ _ =>
    rcases mem_cons.mp hMem with rfl | hMem
    · exact nomatch hReturned
    · exact hValid.installed other hMem hReturned
  | moved hWorkers hPhase =>
    rcases mem_append.mp hMem with hLeft | hMem
    · exact hValid.installed_install hWorkers (mem_append_left _ hLeft) hReturned
    · rcases mem_cons.mp hMem with rfl | hRight
      · rw [hPhase hReturned]
        exact update_self _ _ _
      · exact hValid.installed_install hWorkers (mem_append_right _ hRight) hReturned
  | lost hWorkers => exact hValid.installed_install hWorkers hMem hReturned
  | finished hWorkers _ _ => exact hValid.installed other (mem_of_split hWorkers hMem) hReturned
  | completed hWorkers _ => exact hValid.installed other (mem_of_split hWorkers hMem) hReturned
  | _ => exact hValid.installed other hMem hReturned

theorem Valid.step
    (hStep : RotationStep (Seals vault) state label after) : Valid vault credentialId after := by
  have hManned := hValid.toManned.step (fun _ hSeals => hSeals) hStep.effect
  exact ⟨hManned, hValid.kept_step hStep.effect, hValid.installed_step hStep.effect⟩

end

---- Successful Rotations

def HasSucceeded (jobId : Uuid) (db : Database) : Prop :=
  ∃ job, db.rotationJobs.get jobId = some job ∧ job.status = .succeeded

theorem Changes.hasSucceeded {after : Database} {other : Uuid} (hChanges : Changes jobId db after)
    (hAfter : HasSucceeded other after) : HasSucceeded other db := by
  rcases hAfter with ⟨job, hJob, hSucceeded⟩
  by_cases hId : other = jobId
  · subst hId
    have hChanged := hChanges.changed
    rw [hJob] at hChanged
    generalize db.rotationJobs.get other = row at hChanged
    cases hChanged with
    | queued hPending => exact nomatch hPending.symm.trans hSucceeded
    | started now token _ => exact nomatch hSucceeded
    | finished now status error _ hEnded =>
      rcases hEnded with rfl | rfl <;> exact nomatch hSucceeded
  · rw [hChanges.others other hId] at hJob
    exact ⟨job, hJob, hSucceeded⟩

/- A step leaves jobs and secrets alone, changes one job and no secret, or completes a rotation. -/
theorem RotationStep.cases_on_db (hStep : RotationStep allowed state label after) :
    (after.db.rotationJobs = state.db.rotationJobs ∧
      ∀ credentialId, secretColumns credentialId after.db = secretColumns credentialId state.db) ∨
      (∃ jobId, Changes jobId state.db after.db) ∨
      ∃ site moment rotation result, label = .complete site moment rotation ∧
        (⟨rotation, .returned⟩ : Worker) ∈ state.workers ∧
        completeRotation site moment rotation state.db = .ok (result, after.db) ∧
        after.actual = state.actual := by
  cases hStep.effect with
  | same hJobs hSecrets => exact .inl ⟨hJobs, hSecrets⟩
  | queued _ hChanges _ => exact .inr (.inl ⟨_, hChanges⟩)
  | refused _ _ hChanges => exact .inr (.inl ⟨_, hChanges⟩)
  | started _ hBegin => exact .inr (.inl ⟨_, (changes_of_started hBegin).2.1⟩)
  | moved _ _ => exact .inl ⟨rfl, fun _ => rfl⟩
  | lost _ => exact .inl ⟨rfl, fun _ => rfl⟩
  | finished _ _ hChanges => exact .inr (.inl ⟨_, hChanges⟩)
  | completed hWorkers hComplete =>
    exact .inr (.inr ⟨_, _, _, _, rfl, by simp [hWorkers], hComplete, rfl⟩)

theorem RotationStep.started_or_old (hStep : RotationStep allowed state label after) :
    (∃ site moment registry fresh jobId rotation, allowed site ∧
      beginRotation site moment registry fresh jobId state.db = .ok (.started rotation, after.db) ∧
      after.workers = ⟨rotation, .calling⟩ :: state.workers) ∨
      ∀ rotation ∈ rotationsOf after, rotation ∈ rotationsOf state := by
  cases hStep.effect with
  | started hAllowed hBegin => exact .inl ⟨_, _, _, _, _, _, hAllowed, hBegin, rfl⟩
  | moved hWorkers _ =>
    right
    rw [rotationsOf_of_moved hWorkers rfl]
    exact fun _ hMem => hMem
  | lost hWorkers => exact .inr fun _ hMem => (sublist_of_split hWorkers).subset hMem
  | finished hWorkers _ _ => exact .inr fun _ hMem => (sublist_of_split hWorkers).subset hMem
  | completed hWorkers _ => exact .inr fun _ hMem => (sublist_of_split hWorkers).subset hMem
  | _ => exact .inr fun _ hMem => hMem

theorem Valid.stored_of_succeeded (hValid : Valid vault credentialId state)
    (hStep : RotationStep (Seals vault) state label after) (hBefore : ¬ HasSucceeded jobId state.db)
    (hJob : after.db.rotationJobs.get jobId = some job) (hSucceeded : job.status = .succeeded)
    (hOwn : job.credentialId = credentialId) :
    storedSecret vault credentialId after.db = some (after.actual credentialId) := by
  have hAfter : HasSucceeded jobId after.db := ⟨job, hJob, hSucceeded⟩
  rcases hStep.cases_on_db with
    ⟨hSame, _⟩ | ⟨_, hChanges⟩ | ⟨site, moment, rotation, result, _, hMem, hComplete, hActual⟩
  · unfold HasSucceeded at hAfter
    rw [hSame] at hAfter
    exact absurd hAfter hBefore
  · exact absurd (hChanges.hasSucceeded hAfter) hBefore
  have hCompletes := completes_of_complete vault hComplete
  have hId : jobId = rotation.jobId := by
    by_contra hOther
    rw [hCompletes.others jobId hOther] at hJob
    exact hBefore ⟨job, hJob, hSucceeded⟩
  -- the job is the one of the worker that completed
  have hCredential : rotation.credentialId = credentialId := by
    rcases hValid.hasJob _ (mem_map_of_mem hMem) with ⟨row, hRow, _, hRowOwn, _⟩
    rcases hCompletes.hasJob with ⟨row', _, _, hRow', _, hWritten, _⟩
    rw [hId, hWritten] at hJob
    injection hJob with hJob
    rw [hRow] at hRow'
    injection hRow' with hSame
    rw [← hOwn, ← hJob, ← hSame]
    exact hRowOwn.symm
  have hStored := hValid.stored_of_completes hMem rfl hCompletes
  rw [hActual, ← hCredential]
  exact hStored

---- Recoverability

/- The actual password is that of the stored secret or of the candidate of a job. -/
def Recoverable (vault : Site) (credentialId : Uuid) (state : RotationState) : Prop :=
  storedSecret vault credentialId state.db = some (state.actual credentialId) ∨
    ∃ job ∈ state.db.rotationJobs.rows,
      job.credentialId = credentialId ∧ candidateOf vault job = some (state.actual credentialId)

/-
  After any run that starts with the actual password stored, it is recoverable, and a step after
  which a job has newly succeeded leaves it stored.
-/
theorem secret_recoverable {start : RotationState} {labels : List RotationLabel}
    (hInit : (rotationSystem (Seals vault)).init start)
    (hStored : storedSecret vault credentialId start.db = some (start.actual credentialId))
    (hRun : (rotationSystem (Seals vault)).Run start labels state) :
    Recoverable vault credentialId state ∧
      ∀ label after jobId job, (rotationSystem (Seals vault)).step state label after →
        ¬ HasSucceeded jobId state.db → after.db.rotationJobs.get jobId = some job →
        job.status = .succeeded → job.credentialId = credentialId →
          storedSecret vault credentialId after.db = some (after.actual credentialId) := by
  have hStart : Valid vault credentialId start := by
    rcases hInit with ⟨hNone, hOne⟩
    refine ⟨⟨hOne, ?_, ?_⟩, .inl hStored, ?_⟩ <;> simp [rotationsOf, hNone]
  have hValid : Valid vault credentialId state := by
    refine hRun.invariant ?_ hStart
    intro before label after hBefore hStep
    exact hBefore.step hStep
  constructor
  · rcases hValid.kept with hStored | ⟨job, hMem, hOwn, _, hOpen⟩
    · exact .inl hStored
    · exact .inr ⟨job, hMem, hOwn, hOpen⟩
  · intro label after jobId job hStep hBefore hJob hSucceeded hOwn
    exact hValid.stored_of_succeeded hStep hBefore hJob hSucceeded hOwn

end Runs

---- A Sample Rotation

def sampleQueueCall : QueueCall where
  credentialId := 2
  requestedBy := some sampleUser
  reason := "maintenance"
  scheduledFor := none
  scheduledText := "1970-01-01T00:00:00+00:00"
  jobId := 8

def sampleRegistry : BackendRegistry where
  instances := fun _ => some ⟨none⟩
  dottedPath := fun _ => []
  load := fun _ => .unavailable

def sampleRotation : Rotation where
  jobId := 8
  credentialId := 2
  current := "secret"
  candidate := "rotated"

def sampleStart : RotationState where
  db := sampleDatabase sampleCredential samplePolicies
  actual := fun _ => "secret"
  workers := []

/- The databases of one rotation, from queueing to success. -/
structure SampleRotation (queued begun final : Database) : Prop where
  queues : ∃ result, queueRotation sampleSite sampleMoment sampleQueueCall sampleStart.db =
    .ok (result, queued)
  begins : beginRotation sampleSite sampleMoment sampleRegistry "rotated" 8 queued =
    .ok (.started sampleRotation, begun)
  runs : ∃ job, begun.rotationJobs.get 8 = some job ∧ job.status = .running
  completes : ∃ result, completeRotation sampleSite sampleMoment sampleRotation begun =
      .ok (result, final)
  succeeds :
    ∃ job, final.rotationJobs.get 8 = some job ∧ job.status = .succeeded ∧ job.credentialId = 2

theorem exists_sampleRotation : ∃ queued begun final, SampleRotation queued begun final :=
  ⟨_, _, _, ⟨⟨_, rfl⟩, rfl, ⟨_, rfl, rfl⟩, ⟨_, rfl⟩, ⟨_, rfl, rfl, rfl⟩⟩⟩

theorem sampleSite_seals : Seals sampleSite sampleSite := by
  intro secret token hEncrypt
  injection hEncrypt with hSame
  rw [hSame]
  rfl

def sampleInstalled : Uuid → Text := install true sampleRotation sampleStart.actual

variable {queued begun final : Database}

theorem SampleRotation.run
    (hSample : SampleRotation queued begun final) (hAllowed : allowed sampleSite) :
    (rotationSystem allowed).Run sampleStart [.queue sampleSite sampleMoment
      sampleQueueCall, .start sampleSite sampleMoment sampleRegistry "rotated" 8,
      .rotate sampleRotation]
      ⟨begun, sampleInstalled, [⟨sampleRotation, .returned⟩]⟩ := by
  rcases hSample.queues with ⟨result, hQueue⟩
  have hQueued : RotationStep allowed sampleStart (.queue sampleSite sampleMoment sampleQueueCall)
    { sampleStart with
      db := (commit (queueRotation sampleSite sampleMoment sampleQueueCall)
        sampleStart.db).2 } := .queued
  rw [commit_eq_ok_iff.mpr hQueue] at hQueued
  refine .cons hQueued (.cons (.started hAllowed hSample.begins) (.cons ?_ (.nil _)))
  exact @RotationStep.returned allowed _ sampleRotation [] [] rfl

theorem SampleRotation.completed (hSample : SampleRotation queued begun final) :
    RotationStep allowed ⟨begun, sampleInstalled, [⟨sampleRotation, .returned⟩]⟩
      (.complete sampleSite sampleMoment sampleRotation)
      ⟨final, sampleInstalled, []⟩ := by
  rcases hSample.completes with ⟨result, hComplete⟩
  have hStep :
    RotationStep allowed ⟨begun, sampleInstalled, [] ++ ⟨sampleRotation, .returned⟩ :: []⟩
      (.complete sampleSite sampleMoment sampleRotation)
      ⟨(commit (completeRotation sampleSite sampleMoment sampleRotation)
        begun).2, sampleInstalled, [] ++ []⟩ :=
    .completed rfl
  rw [commit_eq_ok_iff.mpr hComplete] at hStep
  exact hStep

theorem secret_recoverable_sample : ∃ queued begun final, SampleRotation queued begun final ∧
    Recoverable sampleSite 2 ⟨begun, sampleInstalled, [⟨sampleRotation, .returned⟩]⟩ ∧
    storedSecret sampleSite 2 final = some (Text.ofString "rotated") := by
  rcases exists_sampleRotation with ⟨queued, begun, final, hSample⟩
  refine ⟨queued, begun, final, hSample, ?_⟩
  have hInit : (rotationSystem (Seals sampleSite)).init sampleStart := by
    refine ⟨rfl, ?_⟩
    intro first second hFirst
    exact nomatch hFirst
  have hStored : storedSecret sampleSite 2 sampleStart.db = some (sampleStart.actual 2) := rfl
  have hSafe := secret_recoverable hInit hStored (hSample.run sampleSite_seals)
  refine ⟨hSafe.1, ?_⟩
  rcases hSample.succeeds with ⟨job, hJob, hSucceeded, hOwn⟩
  refine hSafe.2 _ _ 8 job hSample.completed ?_ hJob hSucceeded hOwn
  intro hBefore
  rcases hBefore with ⟨other, hOther, hDone⟩
  rcases hSample.runs with ⟨row, hRow, hRunning⟩
  cases Option.mem_unique hOther hRow
  exact nomatch hRunning.symm.trans hDone

end PamOlive.Operations
