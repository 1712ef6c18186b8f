import PamOlive.Operations.Rotation

/-
  A job rotates its credential at most once.

  A job leaves the queue in a transaction that finds it pending. While it is active no other job of
  its credential is, and the key version it saw is still the current one when it succeeds.
-/

---- Calls Of The Backend

namespace PamOlive.Operations

open Foundations Sessions Table

/- Rotations, with the jobs whose backend was called. -/
structure CallState where
  rotations : RotationState
  calls : List Uuid

/- A call of the backend is noted when a worker sets out for it. No other step adds a worker. -/
inductive CallStep (state : CallState) : RotationLabel → CallState → Prop
  | called {site : Site} {moment : Moment} {registry : BackendRegistry}
    {fresh : Text} {jobId : Uuid} {rotation : Rotation} {after : Database}
    (hBegin : beginRotation site moment registry fresh jobId state.rotations.db =
      .ok (.started rotation, after)) :
    CallStep state (.start site moment registry fresh jobId)
      ⟨{ state.rotations with
        db := after
        workers := ⟨rotation, .calling⟩ :: state.rotations.workers }, rotation.jobId :: state.calls⟩
  | other {label : RotationLabel} {after : RotationState}
    (hStep : RotationStep (fun _ => True) state.rotations label after)
    (hWorkers : after.workers.length ≤ state.rotations.workers.length) :
    CallStep state label ⟨after, state.calls⟩

def callSystem : TransitionSystem CallState RotationLabel where
  init := fun state =>
    state.rotations.workers = [] ∧ state.rotations.db.rotationJobs.rows = [] ∧ state.calls = []
  step := CallStep

variable {label : RotationLabel}

theorem RotationStep.callStep {state : CallState} {after : RotationState}
    (hStep : RotationStep (fun _ => True) state.rotations label after) :
    ∃ calls, CallStep state label ⟨after, calls⟩ := by
  cases hStep with
  | queued => exact ⟨_, .other .queued (Nat.le_refl _)⟩
  | started _ hBegin => exact ⟨_, .called hBegin⟩
  | notStarted hBegin => exact ⟨_, .other (.notStarted hBegin) (Nat.le_refl _)⟩
  | startFailed hBegin => exact ⟨_, .other (.startFailed hBegin) (Nat.le_refl _)⟩
  | returned hWorkers =>
    refine ⟨_, .other (.returned hWorkers) ?_⟩
    simp [hWorkers]
  | raised hWorkers =>
    refine ⟨_, .other (.raised hWorkers) ?_⟩
    simp [hWorkers]
  | crashed hWorkers hCalling =>
    refine ⟨_, .other (.crashed hWorkers hCalling) ?_⟩
    simp [hWorkers]
  | completed hWorkers =>
    refine ⟨_, .other (.completed hWorkers) ?_⟩
    simp [hWorkers]
  | gaveUp hWorkers =>
    refine ⟨_, .other (.gaveUp hWorkers) ?_⟩
    simp [hWorkers]
  | edited hJobs hSecrets => exact ⟨_, .other (.edited hJobs hSecrets) (Nat.le_refl _)⟩

---- Jobs And Versions

def succeededFor (credentialId : Uuid) (job : RotationJob) : Bool :=
  decide (job.credentialId = credentialId ∧ job.status = .succeeded)

def succeededCount (credentialId : Uuid) (db : Database) : Nat :=
  db.rotationJobs.rows.countP (succeededFor credentialId)

variable {job : RotationJob}

theorem JobChange.of_some {row : Option RotationJob} (hChange : JobChange (some job) row) :
    isActive job = true ∧ ∃ changed, row = some changed ∧ changed.credentialId = job.credentialId ∧
      changed.previousKeyVersion = job.previousKeyVersion ∧ changed.status ≠ .pending ∧
      changed.status ≠ .succeeded := by
  cases hChange with
  | started now token hPending =>
    refine ⟨isActive_iff.mpr (.inl hPending), _, rfl, rfl, rfl, ?_, ?_⟩
    · simp [runningJob]
    · simp [runningJob]
  | finished now status error hActive hEnded =>
    refine ⟨hActive, _, rfl, rfl, rfl, ?_, ?_⟩
    · rcases hEnded with rfl | rfl <;> simp [finishedJob]
    · rcases hEnded with rfl | rfl <;> simp [finishedJob]

theorem succeededFor_of_active {credentialId : Uuid}
    (hActive : isActive job = true) : succeededFor credentialId job = false := by
  rcases isActive_iff.mp hActive with hStatus | hStatus <;> simp [succeededFor, hStatus]

variable {db start : Database} {jobId : Uuid} {site : Site} {moment : Moment} {rotation : Rotation}

section Databases

variable {after : Database}

theorem Changes.succeededCount (hChanges : Changes jobId db after) (credentialId : Uuid) :
    succeededCount credentialId after = succeededCount credentialId db := by
  apply countP_congr_get
  intro id
  by_cases hId : id = jobId
  · subst hId
    have hChanged := hChanges.changed
    generalize db.rotationJobs.get id = before at hChanged
    generalize after.rotationJobs.get id = row at hChanged
    cases before with
    | none =>
      cases hChanged with
      | queued hPending => simp [succeededFor, hPending]
    | some job =>
      rcases hChanged.of_some with ⟨hActive, changed, rfl, _, _, _, hNot⟩
      simp [succeededFor_of_active hActive]
      simp [succeededFor, hNot]
  · rw [hChanges.others id hId]

theorem Changes.row_cases (hChanges : Changes jobId db after)
    (hMem : job ∈ after.rotationJobs.rows) :
    job ∈ db.rotationJobs.rows ∨
      (job.id = jobId ∧ db.rotationJobs.get jobId = none ∧ job.status = .pending) ∨
      ∃ before ∈ db.rotationJobs.rows, isActive before = true ∧
        job.credentialId = before.credentialId ∧
        job.previousKeyVersion = before.previousKeyVersion ∧ job.status ≠ .succeeded := by
  have hGet : after.rotationJobs.get job.id = some job := get_eq_some_iff.mpr ⟨hMem, rfl⟩
  by_cases hId : job.id = jobId
  · subst hId
    have hChanged := hChanges.changed
    rw [hGet] at hChanged
    cases hRow : db.rotationJobs.get job.id with
    | none =>
      rw [hRow] at hChanged
      cases hChanged with
      | queued hPending => exact .inr (.inl ⟨rfl, rfl, hPending⟩)
    | some before =>
      rw [hRow] at hChanged
      rcases hChanged.of_some with ⟨hActive, changed, hSame, hOwn, hPrevious, _, hNot⟩
      cases hSame
      exact .inr (.inr ⟨before, (get_eq_some_iff.mp hRow).1, hActive, hOwn, hPrevious, hNot⟩)
  · rw [hChanges.others job.id hId] at hGet
    exact .inl (get_eq_some_iff.mp hGet).1

/- A job that stays belongs to its credential, and does not return to the queue. -/
def Remains (db after : Database) : Prop :=
  ∀ id job, db.rotationJobs.get id = some job → ∃ later, after.rotationJobs.get id = some later ∧
    later.credentialId = job.credentialId ∧ (job.status ≠ .pending → later.status ≠ .pending)

theorem Remains.of_same (hJobs : after.rotationJobs = db.rotationJobs) : Remains db after := by
  intro id job hJob
  rw [← hJobs] at hJob
  exact ⟨job, hJob, rfl, fun hLeft => hLeft⟩

theorem Changes.remains (hChanges : Changes jobId db after) : Remains db after := by
  intro id job hJob
  by_cases hId : id = jobId
  · subst hId
    have hChanged := hChanges.changed
    rw [hJob] at hChanged
    rcases hChanged.of_some with ⟨_, changed, hRow, hOwn, _, hLeft, _⟩
    exact ⟨changed, hRow, hOwn, fun _ => hLeft⟩
  · rw [← hChanges.others id hId] at hJob
    exact ⟨job, hJob, rfl, fun hLeft => hLeft⟩

/- Key versions count the jobs that succeeded, and an active job has seen the current one. -/
structure Versioned (start db : Database) : Prop where
  oneActive : OneActive db
  version : ∀ credentialId before columns, secretColumns credentialId start = some before →
    secretColumns credentialId db = some columns →
      columns.keyVersion = before.keyVersion + succeededCount credentialId db
  captured : ∀ job ∈ db.rotationJobs.rows, isActive job = true →
    ∀ columns, secretColumns job.credentialId db = some columns →
      job.previousKeyVersion = columns.keyVersion
  gained : ∀ job ∈ db.rotationJobs.rows, job.status = .succeeded →
    job.newKeyVersion = some (job.previousKeyVersion + 1)

theorem Versioned.of_same (hVersioned : Versioned start db)
    (hJobs : after.rotationJobs = db.rotationJobs)
    (hSecrets : ∀ credentialId, secretColumns credentialId after = secretColumns credentialId db) :
    Versioned start after where
  oneActive := by
    unfold OneActive
    rw [hJobs]
    exact hVersioned.oneActive
  version := by
    intro credentialId before columns hBefore hColumns
    unfold succeededCount
    rw [hJobs]
    rw [hSecrets] at hColumns
    exact hVersioned.version credentialId before columns hBefore hColumns
  captured := by
    intro job hMem hActive columns hColumns
    rw [hJobs] at hMem
    rw [hSecrets] at hColumns
    exact hVersioned.captured job hMem hActive columns hColumns
  gained := by
    rw [hJobs]
    exact hVersioned.gained

/- A job is queued with the current key version. -/
def Captures (jobId : Uuid) (db after : Database) : Prop :=
  db.rotationJobs.get jobId = none → ∀ job, after.rotationJobs.get jobId = some job →
    ∀ columns, secretColumns job.credentialId db = some columns →
      job.previousKeyVersion = columns.keyVersion

theorem Versioned.of_changes (hVersioned : Versioned start db) (hChanges : Changes jobId db after)
    (hCaptures : Captures jobId db after) :
    Versioned start after where
  oneActive := hVersioned.oneActive.of_changes hChanges
  version := by
    intro credentialId before columns hBefore hColumns
    rw [hChanges.succeededCount]
    rw [hChanges.sameSecrets] at hColumns
    exact hVersioned.version credentialId before columns hBefore hColumns
  captured := by
    intro job hMem hActive columns hColumns
    rw [hChanges.sameSecrets] at hColumns
    rcases hChanges.row_cases hMem with
      hOld | ⟨hId, hNone, _⟩ | ⟨before, hBefore, hWas, hOwn, hPrevious, _⟩
    · exact hVersioned.captured job hOld hActive columns hColumns
    · have hGet := get_eq_some_iff.mpr ⟨hMem, hId⟩
      exact hCaptures hNone job hGet columns hColumns
    · rw [hPrevious]
      rw [hOwn] at hColumns
      exact hVersioned.captured before hBefore hWas columns hColumns
  gained := by
    intro job hMem hSucceeded
    rcases hChanges.row_cases hMem with hOld | ⟨_, _, hPending⟩ | ⟨_, _, _, _, _, hNot⟩
    · exact hVersioned.gained job hOld hSucceeded
    · exact nomatch hPending.symm.trans hSucceeded
    · exact absurd hSucceeded hNot

---- Completing

section Completing

variable {result : RotationJob}

/- One job, its credential, and what is written to the two. -/
structure Succeeds (rotation : Rotation) (db after : Database) (job : RotationJob)
    (credential : Credential) : Prop where
  hasJob : db.rotationJobs.get rotation.jobId = some job
  isRunning : job.status = .running
  hasCredential : db.credentials.get rotation.credentialId = some credential
  succeeded : ∃ now, after.rotationJobs.get rotation.jobId =
    some (succeededJob now (credential.keyVersion + 1) job)
  rotated : ∃ columns, secretColumns rotation.credentialId after = some columns ∧
    columns.keyVersion = credential.keyVersion + 1
  otherJobs :
    ∀ other, other ≠ rotation.jobId → after.rotationJobs.get other = db.rotationJobs.get other
  otherSecrets : ∀ credentialId, credentialId ≠ rotation.credentialId →
    secretColumns credentialId after = secretColumns credentialId db

theorem succeeds_of_complete
    (hComplete : completeRotation site moment rotation db = .ok (result, after)) :
    ∃ job credential, Succeeds rotation db after job credential := by
  have hCompletes := completes_of_complete site hComplete
  rcases completeRotation_eq_ok hComplete with
    ⟨job, credential, audit, hJob, hCredential, hRunning, rfl⟩
  refine ⟨job, credential, hJob, hRunning, hCredential, ⟨moment.now, ?_⟩,
    ⟨secretColumnsOf (rotatedCredential moment.now job credential), ?_, rfl⟩, hCompletes.others,
    hCompletes.sameSecrets⟩
  · unfold rotated
    rw [(get_eq_some_iff.mp hJob).2, get_modify_self hJob]
  · unfold rotated secretColumns
    rw [(get_eq_some_iff.mp hCredential).2, get_modify_self hCredential, Option.map_some]

variable {credential : Credential}

section

variable (hSucceeds : Succeeds rotation db after job credential)

include hSucceeds

theorem Succeeds.columns :
    secretColumns rotation.credentialId db = some (secretColumnsOf credential) := by
  unfold secretColumns
  rw [hSucceeds.hasCredential, Option.map_some]

theorem Succeeds.remains : Remains db after := by
  intro id row hRow
  by_cases hId : id = rotation.jobId
  · subst hId
    cases Option.mem_unique hSucceeds.hasJob hRow
    rcases hSucceeds.succeeded with ⟨now, hAfter⟩
    refine ⟨_, hAfter, rfl, ?_⟩
    simp [succeededJob]
  · rw [← hSucceeds.otherJobs id hId] at hRow
    exact ⟨row, hRow, rfl, fun hLeft => hLeft⟩

theorem Succeeds.row_cases {row : RotationJob} (hMem : row ∈ after.rotationJobs.rows) :
    (row ∈ db.rotationJobs.rows ∧ row.id ≠ rotation.jobId) ∨ ∃ now, row =
      succeededJob now (credential.keyVersion + 1) job := by
  have hGet : after.rotationJobs.get row.id = some row := get_eq_some_iff.mpr ⟨hMem, rfl⟩
  by_cases hId : row.id = rotation.jobId
  · rcases hSucceeds.succeeded with ⟨now, hAfter⟩
    rw [hId, hAfter] at hGet
    injection hGet with hSame
    exact .inr ⟨now, hSame.symm⟩
  · rw [hSucceeds.otherJobs row.id hId] at hGet
    exact .inl ⟨(get_eq_some_iff.mp hGet).1, hId⟩

theorem Succeeds.succeededCount
    (hOwn : job.credentialId = rotation.credentialId) (credentialId : Uuid) :
    succeededCount credentialId after = succeededCount credentialId db +
      if credentialId = rotation.credentialId then 1
      else 0 := by
  have hActive : isActive job = true := isActive_iff.mpr (.inr hSucceeds.isRunning)
  rcases hSucceeds.succeeded with ⟨now, hAfter⟩
  by_cases hId : credentialId = rotation.credentialId
  · rw [if_pos hId]
    refine countP_of_gained ?_ ?_ hSucceeds.otherJobs
    · rw [hSucceeds.hasJob, Option.any_some]
      exact succeededFor_of_active hActive
    · rw [hAfter, Option.any_some, hId, ← hOwn]
      simp [succeededFor, succeededJob]
  · rw [if_neg hId]
    apply countP_congr_get
    intro id
    by_cases hJob : id = rotation.jobId
    · subst hJob
      rw [hAfter, hSucceeds.hasJob, Option.any_some,
        Option.any_some, succeededFor_of_active hActive]
      have hNot :
        (succeededJob now (credential.keyVersion + 1) job).credentialId ≠ credentialId := by
        intro hSame
        exact hId (hSame.symm.trans hOwn)
      simp [succeededFor, hNot]
    · rw [hSucceeds.otherJobs id hJob]

end

theorem Versioned.of_succeeds (hVersioned : Versioned start db)
    (hSucceeds : Succeeds rotation db after job credential)
    (hOwn : job.credentialId = rotation.credentialId) : Versioned start after := by
  have hRow : job ∈ db.rotationJobs.rows := (get_eq_some_iff.mp hSucceeds.hasJob).1
  have hJobId : job.id = rotation.jobId := (get_eq_some_iff.mp hSucceeds.hasJob).2
  have hActive : isActive job = true := isActive_iff.mpr (.inr hSucceeds.isRunning)
  rcases hSucceeds.rotated with ⟨written, hWritten, hNext⟩
  -- a row that is still active is an old one
  have hOld : ∀ row ∈ after.rotationJobs.rows,
    isActive row = true → row ∈ db.rotationJobs.rows ∧ row.id ≠ rotation.jobId := by
    intro row hMem hRowActive
    rcases hSucceeds.row_cases hMem with hOld | ⟨now, rfl⟩
    · exact hOld
    · simp [isActive, succeededJob] at hRowActive
  refine ⟨?_, ?_, ?_, ?_⟩
  · intro first second hFirst hSecond hOne hTwo
    exact hVersioned.oneActive first second (hOld first hFirst hOne).1 (hOld second hSecond hTwo).1
      hOne hTwo
  · intro credentialId before columns hBefore hColumns
    rw [hSucceeds.succeededCount hOwn]
    by_cases hId : credentialId = rotation.credentialId
    · subst hId
      cases Option.mem_unique hWritten hColumns
      have hVersion := hVersioned.version _ before _ hBefore hSucceeds.columns
      rw [if_pos rfl, hNext, ← Nat.add_assoc, ← hVersion]
      rfl
    · rw [if_neg hId]
      rw [hSucceeds.otherSecrets credentialId hId] at hColumns
      exact hVersioned.version credentialId before columns hBefore hColumns
  · intro row hMem hRowActive columns hColumns
    rcases hOld row hMem hRowActive with ⟨hWas, hOther⟩
    have hId : row.credentialId ≠ rotation.credentialId := by
      intro hSame
      apply hOther
      rw [← hJobId]
      exact hVersioned.oneActive row job hWas hRow hRowActive hActive (hSame.trans hOwn.symm)
    rw [hSucceeds.otherSecrets _ hId] at hColumns
    exact hVersioned.captured row hWas hRowActive columns hColumns
  · intro row hMem hSucceeded
    rcases hSucceeds.row_cases hMem with ⟨hWas, _⟩ | ⟨now, rfl⟩
    · exact hVersioned.gained row hWas hSucceeded
    · have hColumns := hSucceeds.columns
      rw [← hOwn] at hColumns
      have hCaptured := hVersioned.captured job hRow hActive _ hColumns
      unfold succeededJob
      rw [hCaptured]
      rfl

end Completing

end Databases

---- Steps

section Runs

variable {state after : RotationState} {before : CallState}

theorem Changes.get_eq_none {after : Database} {other : Uuid} {row : RotationJob}
    (hChanges : Changes jobId db after) (hRow : db.rotationJobs.get jobId = some row)
    (hNone : db.rotationJobs.get other = none) : after.rotationJobs.get other = none := by
  by_cases hId : other = jobId
  · subst hId
    exact nomatch hRow.symm.trans hNone
  · rw [hChanges.others other hId]
    exact hNone

variable {allowed : Site → Prop}

theorem RotationStep.queues_new (hStep : RotationStep allowed state label after)
    (hNone : state.db.rotationJobs.get jobId = none) :
    after.db.rotationJobs.get jobId = none ∨ ∃ site moment call result,
      queueRotation site moment call state.db = .ok (result, after.db) := by
  cases hStep.effect with
  | same hJobs _ =>
    left
    rw [hJobs]
    exact hNone
  | queued hQueue _ _ => exact .inr ⟨_, _, _, _, hQueue⟩
  | refused hJob _ hChanges => exact .inl (hChanges.get_eq_none hJob hNone)
  | started _ hBegin =>
    rcases beginRotation_eq_ok hBegin with ⟨_, hReturned, _⟩ | ⟨row, _, _, _, _, hRow, _⟩
    · exact nomatch hReturned
    · exact .inl ((changes_of_started hBegin).2.1.get_eq_none hRow hNone)
  | moved _ _ => exact .inl hNone
  | lost _ => exact .inl hNone
  | finished _ hJob hChanges => exact .inl (hChanges.get_eq_none hJob hNone)
  | completed _ hComplete =>
    rcases succeeds_of_complete hComplete with ⟨row, credential, hSucceeds⟩
    left
    rw [hSucceeds.otherJobs jobId ?_]
    · exact hNone
    · rintro rfl
      exact nomatch hSucceeds.hasJob.symm.trans hNone

theorem captures_of_queue {after : Database} {call : QueueCall} {result : RotationJob × Bool}
    (hQueue : queueRotation site moment call db = .ok (result, after))
    (jobId : Uuid) : Captures jobId db after := by
  intro hNone job hJob columns hColumns
  rcases queueRotation_eq_ok hQueue with
    rfl | ⟨credential, jobs, audit, hCredential, _, hInsert, rfl⟩
  · exact nomatch hNone.symm.trans hJob
  have hId : jobId = call.jobId := by
    by_contra hOther
    rw [get_insert_of_ne hInsert hOther] at hJob
    exact nomatch hNone.symm.trans hJob
  have hNew : jobs.get call.jobId = some (queuedJob moment.now call credential) :=
    get_insert_self hInsert
  rw [hId, hNew] at hJob
  cases hJob
  unfold secretColumns queuedJob at hColumns
  rw [(get_eq_some_iff.mp hCredential).2, hCredential, Option.map_some] at hColumns
  injection hColumns with hColumns
  rw [← hColumns]
  rfl

theorem RotationStep.captures (hStep : RotationStep allowed state label after) (jobId : Uuid) :
    Captures jobId state.db after.db := by
  intro hNone job hJob
  rcases hStep.queues_new hNone with hStill | ⟨_, _, _, _, hQueue⟩
  · exact nomatch hStill.symm.trans hJob
  · exact captures_of_queue hQueue jobId hNone job hJob

/-
  Versions hold, each job was called once at most and left the queue, and each worker has its job.
-/
structure Counted (start : Database) (state : CallState) : Prop where
  versioned : Versioned start state.rotations.db
  distinct : state.calls.Nodup
  hasLeft : ∀ jobId ∈ state.calls,
    ∃ job, state.rotations.db.rotationJobs.get jobId = some job ∧ job.status ≠ .pending
  hasJob : ∀ worker ∈ state.rotations.workers, ∃ job, state.rotations.db.rotationJobs.get
    worker.rotation.jobId = some job ∧
    job.credentialId = worker.rotation.credentialId

section

variable (hCounted : Counted start before)

include hCounted

theorem Counted.of_remains (hVersioned : Versioned start after.db)
    (hRemains : Remains before.rotations.db after.db)
    (hWorkers : ∀ rotation ∈ rotationsOf after, rotation ∈ rotationsOf before.rotations) :
    Counted start ⟨after, before.calls⟩ where
  versioned := hVersioned
  distinct := hCounted.distinct
  hasLeft := by
    intro jobId hMem
    rcases hCounted.hasLeft jobId hMem with ⟨job, hJob, hLeft⟩
    rcases hRemains jobId job hJob with ⟨later, hLater, _, hStays⟩
    exact ⟨later, hLater, hStays hLeft⟩
  hasJob := by
    intro worker hMem
    rcases List.mem_map.mp (hWorkers _ (List.mem_map_of_mem hMem)) with ⟨old, hOld, hSame⟩
    rcases hCounted.hasJob old hOld with ⟨job, hJob, hOwn⟩
    rcases hRemains _ job hJob with ⟨later, hLater, hKeeps, _⟩
    rw [← hSame]
    exact ⟨later, hLater, hKeeps.trans hOwn⟩

theorem Counted.other (hStep : RotationStep (fun _ => True) before.rotations label after)
    (hWorkers : after.workers.length ≤ before.rotations.workers.length) :
    Counted start ⟨after, before.calls⟩ := by
  have hOld : ∀ rotation ∈ rotationsOf after, rotation ∈ rotationsOf before.rotations := by
    rcases hStep.started_or_old with ⟨_, _, _, _, _, _, _, _, hMore⟩ | hOld
    · rw [hMore] at hWorkers
      exact absurd hWorkers (Nat.not_succ_le_self _)
    · exact hOld
  rcases hStep.cases_on_db with
    ⟨hJobs, hSecrets⟩ | ⟨jobId, hChanges⟩ | ⟨site, moment, rotation, result, _, hMem, hComplete, _⟩
  · exact hCounted.of_remains (hCounted.versioned.of_same hJobs hSecrets) (.of_same hJobs) hOld
  · exact hCounted.of_remains
      (hCounted.versioned.of_changes hChanges (hStep.captures jobId)) hChanges.remains hOld
  rcases succeeds_of_complete hComplete with ⟨job, credential, hSucceeds⟩
  have hOwn : job.credentialId = rotation.credentialId := by
    rcases hCounted.hasJob _ hMem with ⟨row, hRow, hOwn⟩
    cases Option.mem_unique hSucceeds.hasJob hRow
    exact hOwn
  exact hCounted.of_remains (hCounted.versioned.of_succeeds hSucceeds hOwn) hSucceeds.remains hOld

theorem Counted.called {registry : BackendRegistry} {fresh : Text}
    (hBegin : beginRotation site moment registry fresh jobId before.rotations.db =
      .ok (.started rotation, db)) :
    Counted start ⟨{ before.rotations with
        db := db
        workers := ⟨rotation, .calling⟩ :: before.rotations.workers },
        rotation.jobId :: before.calls⟩ := by
  have hStep :
    RotationStep (fun _ => True) before.rotations (.start site moment registry fresh jobId)
      { before.rotations with
        db := db
        workers := ⟨rotation, .calling⟩ :: before.rotations.workers } :=
    .started trivial hBegin
  have hCaptures := hStep.captures jobId
  rcases changes_of_started hBegin with ⟨hId, hChanges, _⟩
  subst hId
  have hStayed : Counted start ⟨{ before.rotations with db := db }, before.calls⟩ :=
    hCounted.of_remains (hCounted.versioned.of_changes hChanges hCaptures)
      hChanges.remains (fun _ hMem => hMem)
  rcases beginRotation_eq_ok hBegin with
    ⟨_, hReturned, _⟩ | ⟨job, current, candidate, token, hStarted, hJob, hPending, _, _⟩
  · exact nomatch hReturned
  injection hStarted with hRotation
  have hFresh : rotation.jobId ∉ before.calls := by
    intro hMem
    rcases hCounted.hasLeft _ hMem with ⟨row, hRow, hLeft⟩
    cases Option.mem_unique hJob hRow
    exact hLeft hPending
  rcases hChanges.remains _ job hJob with ⟨running, hRunning, hOwn, _⟩
  have hRow := hChanges.changed
  rw [hJob] at hRow
  rcases hRow.of_some with ⟨_, changed, hChanged, _, _, hLeft, _⟩
  refine ⟨hStayed.versioned, ?_, ?_, ?_⟩
  · exact List.nodup_cons.mpr ⟨hFresh, hCounted.distinct⟩
  · intro id hMem
    rcases List.mem_cons.mp hMem with rfl | hOld
    · exact ⟨changed, hChanged, hLeft⟩
    · exact hStayed.hasLeft id hOld
  · intro worker hMem
    rcases List.mem_cons.mp hMem with rfl | hOld
    · refine ⟨running, hRunning, hOwn.trans ?_⟩
      rw [hRotation]
    · exact hStayed.hasJob worker hOld

theorem Counted.step {later : CallState}
    (hStep : CallStep before label later) : Counted start later := by
  cases hStep with
  | called hBegin => exact hCounted.called hBegin
  | other hStep hWorkers => exact hCounted.other hStep hWorkers

end

---- At Most Once

/-
  After any run from a state without jobs: a credential has at most one active job, the backend was
  called at most once for a job, and key versions count the jobs that succeeded.
-/
theorem rotated_at_most_once {first last : CallState} {labels : List RotationLabel}
    (hInit : callSystem.init first) (hRun : callSystem.Run first labels last) :
    OneActive last.rotations.db ∧ last.calls.Nodup ∧ (∀ credentialId before after,
      first.rotations.db.credentials.get credentialId = some before →
        last.rotations.db.credentials.get credentialId = some after →
          after.keyVersion = before.keyVersion + succeededCount credentialId last.rotations.db) ∧
      ∀ job ∈ last.rotations.db.rotationJobs.rows,
        job.status = .succeeded → job.newKeyVersion = some (job.previousKeyVersion + 1) := by
  have hStart : Counted first.rotations.db first := by
    rcases hInit with ⟨hWorkers, hJobs, hCalls⟩
    refine ⟨⟨?_, ?_, ?_, ?_⟩, ?_, ?_, ?_⟩
    · intro job
      simp [hJobs]
    · intro credentialId before columns hBefore hColumns
      cases Option.mem_unique hBefore hColumns
      simp [succeededCount, hJobs]
    · simp [hJobs]
    · simp [hJobs]
    · simp [hCalls]
    · simp [hCalls]
    · simp [hWorkers]
  have hCounted : Counted first.rotations.db last := by
    refine hRun.invariant ?_ hStart
    intro before label after hBefore hStep
    exact hBefore.step hStep
  refine ⟨hCounted.versioned.oneActive, hCounted.distinct, ?_, hCounted.versioned.gained⟩
  intro credentialId before after hBefore hAfter
  apply hCounted.versioned.version credentialId (secretColumnsOf before) (secretColumnsOf after)
  · unfold secretColumns
    rw [hBefore, Option.map_some]
  · unfold secretColumns
    rw [hAfter, Option.map_some]

theorem exists_callRun
    {first last : RotationState} {labels : List RotationLabel} (calls : List Uuid)
    (hRun : (rotationSystem (fun _ => True)).Run first labels last) :
    ∃ made, callSystem.Run ⟨first, calls⟩ labels ⟨last, made⟩ := by
  induction hRun generalizing calls with
  | nil state => exact ⟨calls, .nil _⟩
  | @cons before middle last label labels hStep _ ih =>
    have hHere : RotationStep (fun _ => True) (CallState.mk before calls).rotations label
      middle := hStep
    rcases hHere.callStep with ⟨made, hCall⟩
    rcases ih made with ⟨total, hRest⟩
    exact ⟨total, .cons hCall hRest⟩

theorem rotated_at_most_once_sample :
    ∃ queued begun final labels calls credential, SampleRotation queued begun final ∧
      callSystem.init ⟨sampleStart, []⟩ ∧
      callSystem.Run ⟨sampleStart, []⟩ labels ⟨⟨final, sampleInstalled, []⟩, calls⟩ ∧
      OneActive final ∧ calls.Nodup ∧ succeededCount 2 final = 1 ∧
      final.credentials.get 2 = some credential ∧
      credential.keyVersion = sampleCredential.keyVersion + succeededCount 2 final := by
  have hSample : ∃ queued begun final job credential, SampleRotation queued begun final ∧
    beginRotation sampleSite sampleMoment sampleRegistry "again" 8 final =
      .ok (.returned job, final) ∧
    succeededCount 2 final = 1 ∧ final.credentials.get 2 = some credential :=
    ⟨_, _, _, _, _, ⟨⟨_, rfl⟩, rfl, ⟨_, rfl, rfl⟩, ⟨_, rfl⟩, ⟨_, rfl, rfl, rfl⟩⟩, rfl, rfl, rfl⟩
  rcases hSample with ⟨queued, begun, final, job, credential, hSample, hAgain, hCount, hCredential⟩
  have hBegun := @SampleRotation.run (fun _ => True) queued begun final hSample trivial
  have hRun := hBegun.append (.cons hSample.completed (.cons (.notStarted hAgain) (.nil _)))
  rcases exists_callRun [] hRun with ⟨calls, hCalls⟩
  have hInit : callSystem.init ⟨sampleStart, []⟩ := ⟨rfl, rfl, rfl⟩
  rcases rotated_at_most_once hInit hCalls with ⟨hOne, hNodup, hVersion, _⟩
  exact ⟨queued, begun, final, _, calls, credential, hSample,
    hInit, hCalls, hOne, hNodup, hCount, hCredential,
    hVersion 2 sampleCredential credential rfl hCredential⟩

end Runs

end PamOlive.Operations
