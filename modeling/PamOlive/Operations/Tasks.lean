import PamOlive.Operations.Rotation

/-
  Who asks for rotations, and the messages that start them.

  The scheduler queues a job for each due credential in its own transaction, and sends the messages
  of the new jobs at the end. The console queues one job and sends its message on commit. A job
  that was there already gets no message.
-/

---- The Scheduler

namespace PamOlive.Operations

open Foundations Table List

/- Ascending, with missing instants last. -/
def dueBefore (first second : Credential) : Bool :=
  match first.nextRotationAt, second.nextRotationAt with
  | some earlier, some later => decide (earlier ≤ later)
  | none, some _ => false
  | _, none => true

/- The first credentials that are rotated automatically, by `next_rotation_at` and creation. -/
def scheduledCredentials (limit : Nat) (db : Database) : List Credential :=
  ((db.credentials.rows.filter automaticRotationEnabled).insertionSort
    (fun first second => dueBefore first second = true)).take limit

/- The instant an interval gives to a rotated credential. -/
def plannedAt (credential : Credential) : Option Int :=
  match credential.lastRotatedAt, effectiveRotationIntervalDays credential with
  | some rotated, some interval =>
    if interval = 0 then none
    else some (rotated + days interval)
  | _, _ => none

def dueAt (credential : Credential) : Option Int :=
  match credential.nextRotationAt with
  | some instant => some instant
  | none => plannedAt credential

theorem nextRotationAt_id (instant : Int) (credential : Credential) : ({ credential with
    nextRotationAt := some instant }).id = credential.id :=
  rfl

def recordPlan (credential : Credential) (db : Database) : Database :=
  match credential.nextRotationAt, plannedAt credential with
  | none, some instant =>
    { db with
      credentials := db.credentials.modify credential.id (fun row =>
          { row with nextRotationAt := some instant })
        (nextRotationAt_id instant) }
  | _, _ => db

structure ScheduleCall where
  jobId : Uuid → Uuid
  nowText : Text

def scheduledCall
    (moment : Moment) (call : ScheduleCall) (credential : Credential) : QueueCall where
  credentialId := credential.id
  requestedBy := none
  reason := "Rotation périodique planifiée"
  scheduledFor := some moment.now
  scheduledText := call.nowText
  jobId := call.jobId credential.id

def scheduleOne (site : Site) (moment : Moment) (call : ScheduleCall) (credential : Credential)
    (db : Database) : Except Failure (List RotationJob) × Database :=
  if (dueAt credential).all (fun instant => decide (instant ≤ moment.now)) then
    andThen (commit (queueRotation site moment (scheduledCall moment call credential)))
      (fun queued =>
        reading (fun _ => .ok (if queued.2 then [queued.1] else [])))
      (recordPlan credential db)
  else (.ok [], recordPlan credential db)

def scheduleAll (site : Site) (moment : Moment) (call : ScheduleCall) :
    List Credential → Database → Except Failure (List RotationJob) × Database
| [] => reading (fun _ => .ok [])
| credential :: rest =>
  andThen (scheduleOne site moment call credential) fun queued =>
  andThen (scheduleAll site moment call rest) fun others =>
  reading (fun _ => .ok (queued ++ others))

def scheduleDueRotations
    (site : Site) (moment : Moment) (call : ScheduleCall) (limit : Nat) (db : Database) :
    Except Failure (List RotationJob) × Database :=
  scheduleAll site moment call (scheduledCredentials limit db) db

def messagesOf : Except Failure (List RotationJob) × Database → List Uuid × Database
| (.ok jobs, after) => (jobs.map RotationJob.id, after)
| (.error _, after) => ([], after)

/- `dispatch_due_rotation_jobs`. When the scheduler raises, no message is sent at all. -/
def dispatchDueRotationJobs (site : Site) (moment : Moment) (call : ScheduleCall)
    (db : Database) : List Uuid × Database :=
  messagesOf (scheduleDueRotations site moment call 100 db)

def consoleCall (user : UserId) (credentialId jobId : Uuid) (nowText : Text) : QueueCall where
  credentialId := credentialId
  requestedBy := some user
  reason := "Rotation manuelle depuis la console"
  scheduledFor := none
  scheduledText := nowText
  jobId := jobId

/- `rotate_credential`, with the message it sends. -/
def rotateCredential (site : Site) (moment : Moment) (call : QueueCall)
    (db : Database) : List Uuid × Database :=
  messagesOf (andThen (commit (queueRotation site moment call)) (fun queued =>
      reading (fun _ => .ok (if queued.2 then [queued.1] else []))) db)

---- Messages

/-
  Rotations, with the messages that were sent and not yet taken. A sender that is lost is a lost
  message.
-/
structure TaskState where
  rotations : RotationState
  messages : List Uuid

inductive TaskLabel where
  | request (site : Site) (moment : Moment) (user : UserId) (credentialId jobId : Uuid)
    (nowText : Text)
  | dispatch (site : Site) (moment : Moment) (call : ScheduleCall)
  | deliver (site : Site) (moment : Moment) (registry : BackendRegistry) (fresh : Text)
    (jobId : Uuid)
  | work (label : RotationLabel)
  | lose (jobId : Uuid)

/- What happens to a worker after its first transaction. -/
def RotationLabel.isWork : RotationLabel → Bool
| .rotate _ | .raise _ _ _ | .crash _ _ | .complete _ _ _
| .giveUp _ _ _ _ => true
| .queue _ _ _ | .start _ _ _ _ _ | .edit _ => false

/- The database and the messages after jobs were queued. -/
def TaskState.queued (state : TaskState) (result : List Uuid × Database) : TaskState where
  rotations := { state.rotations with db := result.2 }
  messages := state.messages ++ result.1

inductive TaskStep (allowed : Site → Prop) (state : TaskState) : TaskLabel → TaskState → Prop
  | requested {site : Site} {moment : Moment} {user : UserId}
    {credentialId jobId : Uuid}
    {nowText : Text} :
    TaskStep allowed state (.request site moment user credentialId jobId nowText) (state.queued
      (rotateCredential site moment (consoleCall user credentialId jobId nowText)
        state.rotations.db))
  | dispatched {site : Site} {moment : Moment} {call : ScheduleCall} :
    TaskStep allowed state (.dispatch site moment call)
      (state.queued (dispatchDueRotationJobs site moment call state.rotations.db))
  | delivered {site : Site} {moment : Moment} {registry : BackendRegistry}
    {fresh : Text} {jobId : Uuid} {left right : List Uuid} {after : RotationState}
    (hMessages : state.messages = left ++ jobId :: right)
    (hStep : RotationStep allowed state.rotations (.start site moment registry fresh jobId) after) :
    TaskStep allowed state (.deliver site moment registry fresh jobId) ⟨after, left ++ right⟩
  | worked {label : RotationLabel} {after : RotationState} (hWork : label.isWork = true)
    (hStep : RotationStep allowed state.rotations label after) :
    TaskStep allowed state (.work label) ⟨after, state.messages⟩
  | lost {jobId : Uuid} {left right : List Uuid}
    (hMessages : state.messages = left ++ jobId :: right) :
    TaskStep allowed state (.lose jobId) ⟨state.rotations, left ++ right⟩

def taskSystem (allowed : Site → Prop) : TransitionSystem TaskState TaskLabel where
  init := fun state =>
    (rotationSystem allowed).init state.rotations ∧ state.messages = []
  step := TaskStep allowed

/- Neither a worker nor a message is lost. -/
def TaskLabel.isSmooth : TaskLabel → Bool
| .work (.crash _ _) | .lose _ => false
| _ => true

---- What Queueing Does

section Queueing

variable {allowed : Site → Prop} {site : Site} {moment : Moment} {db after : Database}

theorem secretColumns_recordPlan (credential : Credential) (credentialId : Uuid) (db : Database) :
    secretColumns credentialId (recordPlan credential db) = secretColumns credentialId db := by
  unfold recordPlan
  split
  · rename_i instant _ _
    exact secretColumns_modify (nextRotationAt_id instant) (fun _ => rfl)
  · rfl

theorem rotationJobs_recordPlan (credential : Credential) (db : Database) :
    (recordPlan credential db).rotationJobs = db.rotationJobs := by
  unfold recordPlan
  split <;> rfl

/- Queueing is made of steps of the rotations. -/
def Queues (allowed : Site → Prop) (db after : Database) : Prop :=
  ∀ actual workers,
    ∃ labels, (rotationSystem allowed).Run ⟨db, actual, workers⟩ labels ⟨after, actual, workers⟩

theorem Queues.refl (db : Database) : Queues allowed db db := by
  intro actual workers
  exact ⟨[], .nil _⟩

theorem Queues.trans (first second third : Database) (hFirst : Queues allowed first second)
    (hSecond : Queues allowed second third) : Queues allowed first third := by
  intro actual workers
  rcases hFirst actual workers with ⟨labels, hRun⟩
  rcases hSecond actual workers with ⟨labels', hRun'⟩
  exact ⟨labels ++ labels', hRun.append hRun'⟩

theorem queues_queueRotation (site : Site) (moment : Moment) (call : QueueCall) (db : Database) :
    Queues allowed db (commit (queueRotation site moment call) db).2 := by
  intro actual workers
  exact ⟨[.queue site moment call], .cons .queued (.nil _)⟩

theorem queues_recordPlan (credential : Credential) (db : Database) :
    Queues allowed db (recordPlan credential db) := by
  intro actual workers
  refine ⟨[.edit (recordPlan credential db)], .cons (.edited ?_ ?_) (.nil _)⟩
  · exact rotationJobs_recordPlan credential db
  · intro credentialId
    exact secretColumns_recordPlan credential credentialId db

theorem queues_reported (site : Site) (moment : Moment) (call : QueueCall) (db : Database) :
    Queues allowed db (andThen (commit (queueRotation site moment call)) (fun queued =>
        reading (fun _ =>
          (.ok (if queued.2 then [queued.1] else []) :
            Except Failure (List RotationJob)))) db).2 := by
  refine andThen_relates Queues.trans (queues_queueRotation site moment call) ?_ db
  intro queued middle
  exact reading_relates Queues.refl _ middle

theorem queues_scheduleOne (call : ScheduleCall) (credential : Credential) (db : Database) :
    Queues allowed db (scheduleOne site moment call credential db).2 := by
  have hPlan : Queues allowed db (recordPlan credential db) := queues_recordPlan credential db
  unfold scheduleOne
  split
  · exact hPlan.trans _ _ _ (queues_reported site moment _ _)
  · exact hPlan

theorem queues_scheduleAll (call : ScheduleCall) (credentials : List Credential) (db : Database) :
    Queues allowed db (scheduleAll site moment call credentials db).2 := by
  induction credentials generalizing db with
  | nil => exact Queues.refl db
  | cons credential rest ih =>
    refine andThen_relates Queues.trans (queues_scheduleOne call credential) ?_ db
    intro queued middle
    refine andThen_relates Queues.trans ih ?_ middle
    intro others last
    exact reading_relates Queues.refl _ last

theorem messagesOf_snd (result : Except Failure (List RotationJob) × Database) :
    (messagesOf result).2 = result.2 := by
  rcases result with ⟨failure | jobs, after⟩ <;> rfl

theorem TaskStep.run {before later : TaskState} {label : TaskLabel}
    (hStep : TaskStep allowed before label later) :
    ∃ labels, (rotationSystem allowed).Run before.rotations labels later.rotations := by
  cases hStep with
  | requested =>
    unfold TaskState.queued rotateCredential
    rw [messagesOf_snd]
    exact queues_reported _ _ _ _ _ _
  | dispatched =>
    unfold TaskState.queued dispatchDueRotationJobs scheduleDueRotations
    rw [messagesOf_snd]
    exact queues_scheduleAll _ _ _ _ _
  | delivered _ hStep => exact ⟨[_], .cons hStep (.nil _)⟩
  | worked _ hStep => exact ⟨[_], .cons hStep (.nil _)⟩
  | lost _ => exact ⟨[], .nil _⟩

---- New Jobs

/- The jobs that were there stay, and the others are new. -/
structure Adds (made : List Uuid) (db after : Database) : Prop where
  keeps : ∀ id job, db.rotationJobs.get id = some job → after.rotationJobs.get id = some job
  isNew : ∀ id ∈ made, db.rotationJobs.get id = none

theorem Adds.of_same (hJobs : after.rotationJobs = db.rotationJobs) : Adds [] db after := by
  constructor
  · intro id job hJob
    rw [hJobs]
    exact hJob
  · exact forall_mem_nil _

theorem Adds.append {first second third : Database} {made others : List Uuid}
    (hFirst : Adds made first second)
    (hSecond : Adds others second third) : Adds (made ++ others) first third := by
  constructor
  · intro id job hJob
    exact hSecond.keeps id job (hFirst.keeps id job hJob)
  intro id hMem
  rcases mem_append.mp hMem with hIn | hIn
  · exact hFirst.isNew id hIn
  · cases hJob : first.rotationJobs.get id with
    | none => rfl
    | some job =>
      have hNone := hSecond.isNew id hIn
      rw [hFirst.keeps id job hJob] at hNone
      exact nomatch hNone

theorem Adds.forget {made : List Uuid} (hAdds : Adds made db after) : Adds [] db after := by
  refine ⟨hAdds.keeps, ?_⟩
  exact forall_mem_nil _

theorem adds_queueRotation {call : QueueCall} {queued : RotationJob × Bool}
    (hQueue : queueRotation site moment call db = .ok (queued, after)) :
    Adds ((if queued.2 then [queued.1] else []).map RotationJob.id) db after := by
  rcases found_bind_eq_ok_iff.mp hQueue with ⟨credential, _, hQueue⟩
  split at hQueue
  · rcases hQueue with ⟨rfl, rfl⟩
    exact .of_same rfl
  rcases found_bind_eq_ok_iff.mp hQueue with ⟨jobs, hInsert, hQueue⟩
  rcases bind_eq_ok_iff.mp hQueue with ⟨recorded, hRecord, hQueue⟩
  rcases hQueue with ⟨rfl, rfl⟩
  rcases Database.recordEvent_eq_ok hRecord with ⟨audit, rfl⟩
  have hFree : db.rotationJobs.get call.jobId = none :=
    get_eq_none_iff.mpr (insert_eq_some_iff.mp hInsert).1
  constructor
  · intro id job hJob
    have hOther : id ≠ call.jobId := by
      rintro rfl
      exact nomatch hJob.symm.trans hFree
    rw [get_insert_of_ne hInsert hOther]
    exact hJob
  · intro id hMem
    rw [mem_singleton.mp hMem]
    exact hFree

/- What a result says it made is new. -/
def AddsMessages (db : Database) (result : Except Failure (List RotationJob) × Database) : Prop :=
  Adds (messagesOf result).1 db (messagesOf result).2

theorem addsMessages_reported (call : QueueCall) (db : Database) :
    AddsMessages db (andThen (commit (queueRotation site moment call)) (fun queued =>
        reading (fun _ => .ok (if queued.2 then [queued.1] else []))) db) := by
  unfold AddsMessages andThen commit
  cases hQueue : queueRotation site moment call db with
  | error failure => exact .of_same rfl
  | ok result => exact adds_queueRotation hQueue

theorem addsMessages_scheduleOne (call : ScheduleCall) (credential : Credential) (db : Database) :
    AddsMessages db (scheduleOne site moment call credential db) := by
  have hPlan : Adds [] db (recordPlan credential db) :=
    .of_same (rotationJobs_recordPlan credential db)
  unfold scheduleOne
  split
  · exact hPlan.append (addsMessages_reported _ _)
  · exact hPlan

theorem addsMessages_scheduleAll
    (call : ScheduleCall) (credentials : List Credential) (db : Database) :
    AddsMessages db (scheduleAll site moment call credentials db) := by
  induction credentials generalizing db with
  | nil => exact .of_same rfl
  | cons credential rest ih =>
    have hOne := @addsMessages_scheduleOne site moment call credential db
    unfold scheduleAll andThen
    generalize scheduleOne site moment call credential db = first at hOne ⊢
    rcases first with ⟨failure | queued, middle⟩
    · exact hOne
    have hRest := ih middle
    dsimp only
    generalize scheduleAll site moment call rest middle = second at hRest ⊢
    rcases second with ⟨failure | others, last⟩
    · exact (hOne.append hRest).forget
    · unfold AddsMessages reading messagesOf
      dsimp only
      rw [map_append]
      exact hOne.append hRest

theorem adds_requested (call : QueueCall) (db : Database) :
    Adds (rotateCredential site moment call db).1 db (rotateCredential site moment call db).2 :=
  addsMessages_reported call db

theorem adds_dispatched (call : ScheduleCall) (db : Database) :
    Adds (dispatchDueRotationJobs site moment call db).1 db
      (dispatchDueRotationJobs site moment call db).2 :=
  addsMessages_scheduleAll call _ db

end Queueing

end PamOlive.Operations
