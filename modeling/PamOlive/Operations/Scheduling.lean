import PamOlive.Operations.Tasks

/-
  Which credentials the scheduler reaches.

  It takes the first credentials by `next_rotation_at` and tests afterwards which are due. Those
  without a date come after all with a date, which may fill the slice without being due.
-/

---- Due Credentials

namespace PamOlive.Operations

open Foundations Sessions Table List

def isDue (now : Int) (credential : Credential) : Bool :=
  (dueAt credential).all (fun instant => decide (instant ≤ now))

def dueCredentials (now : Int) (db : Database) : List Credential :=
  (db.credentials.rows.filter automaticRotationEnabled).filter (isDue now)

def HasActiveJob (credentialId : Uuid) (db : Database) : Prop :=
  ∃ job ∈ db.rotationJobs.rows, job.credentialId = credentialId ∧ isActive job = true

section Slice

variable {now : Int} {limit : Nat} {credential : Credential} {db : Database}

instance : Std.Total (fun first second => dueBefore first second = true) where
  total first second := by
    unfold dueBefore
    rcases first.nextRotationAt with _ | earlier <;> rcases second.nextRotationAt with _ | later
    · exact .inl rfl
    · exact .inr rfl
    · exact .inl rfl
    · rw [decide_eq_true_iff, decide_eq_true_iff]
      exact Int.le_total earlier later

instance : IsTrans Credential (fun first second => dueBefore first second = true) where
  trans first second third := by
    unfold dueBefore
    rcases first.nextRotationAt with _ | one <;> rcases second.nextRotationAt with _ | two <;>
      rcases third.nextRotationAt with _ | three <;> simp
    exact Int.le_trans

theorem mem_of_mem_scheduledCredentials (hMem : credential ∈ scheduledCredentials limit db) :
    credential ∈ db.credentials.rows.filter automaticRotationEnabled :=
  (mem_insertionSort _).mp (mem_of_mem_take hMem)

theorem isDue_of_dueBefore {other : Credential} (hBefore : dueBefore other credential = true)
    (hDue : isDue now credential = true) (hDated : credential.nextRotationAt ≠ none) :
    isDue now other = true := by
  unfold dueBefore at hBefore
  unfold isDue dueAt at hDue ⊢
  rcases Option.ne_none_iff_exists'.mp hDated with ⟨later, hLater⟩
  rw [hLater] at hBefore hDue
  rcases hOther : other.nextRotationAt with _ | earlier
  · rw [hOther] at hBefore
    exact absurd hBefore Bool.false_ne_true
  · rw [hOther] at hBefore
    have hEarlier : earlier ≤ later := of_decide_eq_true hBefore
    have hLate : later ≤ now := of_decide_eq_true hDue
    exact decide_eq_true (Int.le_trans hEarlier hLate)

theorem mem_scheduledCredentials_of_dated (hMem : credential ∈ dueCredentials now db)
    (hFew : (dueCredentials now db).length ≤ limit) (hDated : credential.nextRotationAt ≠ none) :
    credential ∈ scheduledCredentials limit db := by
  rcases mem_filter.mp hMem with ⟨hAutomatic, hDue⟩
  let before := fun first second => dueBefore first second = true
  let sorted := (db.credentials.rows.filter automaticRotationEnabled).insertionSort before
  have hSorted : sorted.Pairwise before := pairwise_insertionSort before _
  have hPerm : sorted.Perm _ := perm_insertionSort before _
  rcases append_of_mem (hPerm.mem_iff.mpr hAutomatic) with ⟨left, right, hSplit⟩
  have hLeft : (left ++ [credential]).Sublist (sorted.filter (isDue now)) := by
    have hAll : (left ++ [credential]).filter (isDue now) = left ++ [credential] := by
      rw [filter_eq_self]
      intro other hOther
      rcases mem_append.mp hOther with hOther | hOther
      · rw [hSplit] at hSorted
        have hBefore := (pairwise_append.mp hSorted).2.2 other hOther credential mem_cons_self
        exact isDue_of_dueBefore hBefore hDue hDated
      · rw [mem_singleton.mp hOther]
        exact hDue
    rw [← hAll, hSplit, append_cons left credential right]
    exact (sublist_append_left _ right).filter _
  have hShort : left.length < limit := by
    have hLength := hLeft.length_le
    rw [(hPerm.filter (isDue now)).length_eq, length_append] at hLength
    exact Nat.lt_of_lt_of_le hLength hFew
  change credential ∈ sorted.take limit
  rw [hSplit, take_append, mem_append, take_of_length_le hShort.le]
  refine .inr ?_
  rw [take_cons (Nat.sub_pos_of_lt hShort)]
  exact mem_cons_self

end Slice

---- One Pass

section

variable (now : Int) (call : ScheduleCall) (credentials : List Credential) (db after : Database)

/-
  While credentials are gone through no job goes away, and a new one belongs to a due credential.
-/
structure Scheduled : Prop where
  keeps : ∀ job ∈ db.rotationJobs.rows, job ∈ after.rotationJobs.rows
  made : ∀ job ∈ after.rotationJobs.rows, job ∈ db.rotationJobs.rows ∨
    ∃ credential ∈ credentials, isDue now credential = true ∧
      job.credentialId = credential.id ∧ job.id = call.jobId credential.id
  stored : ∀ id row, db.credentials.get id = some row → ∃ row', after.credentials.get id = some row'

/- The new job is the only active one, and a date is only written where there was none. -/
structure Passed : Prop extends Scheduled now call credentials db after where
  idle : ∀ job ∈ after.rotationJobs.rows, job ∈ db.rotationJobs.rows ∨
    isActive job = true ∧ ¬ HasActiveJob job.credentialId db
  planned : ∀ id row, db.credentials.get id = some row →
    ∃ next, after.credentials.get id = some { row with nextRotationAt := next } ∧
      (next = row.nextRotationAt ∨
        ∃ credential ∈ credentials, credential.id = id ∧ credential.nextRotationAt = none)

end

section Passes

variable {site : Site} {moment : Moment} {call : ScheduleCall} {limit : Nat}
variable {credential : Credential} {credentials : List Credential} {db after : Database}

theorem HasActiveJob.of_scheduled {now : Int} {credentialId : Uuid}
    (hActive : HasActiveJob credentialId db)
    (hScheduled : Scheduled now call credentials db after) :
    HasActiveJob credentialId after := by
  rcases hActive with ⟨job, hMem, hOwn⟩
  exact ⟨job, hScheduled.keeps job hMem, hOwn⟩

theorem Passed.refl {now : Int} (db : Database) : Passed now call credentials db db where
  keeps := fun _ hMem => hMem
  made := fun _ hMem => .inl hMem
  stored := fun _ row hGet => ⟨row, hGet⟩
  idle := fun _ hMem => .inl hMem
  planned := fun _ _ hGet => ⟨_, hGet, .inl rfl⟩

theorem Passed.trans {now : Int} (db middle after : Database)
    (hFirst : Passed now call credentials db middle)
    (hSecond : Passed now call credentials middle after) :
    Passed now call credentials db after where
  keeps := fun job hMem => hSecond.keeps job (hFirst.keeps job hMem)
  made := fun job hMem => (hSecond.made job hMem).elim (hFirst.made job) .inr
  stored := by
    intro id row hGet
    rcases hFirst.stored id row hGet with ⟨row', hGet'⟩
    exact hSecond.stored id row' hGet'
  idle := by
    intro job hMem
    rcases hSecond.idle job hMem with hMem | ⟨hActive, hNone⟩
    · exact hFirst.idle job hMem
    · exact .inr ⟨hActive, fun hOld => hNone (hOld.of_scheduled hFirst.toScheduled)⟩
  planned := by
    intro id row hGet
    rcases hFirst.planned id row hGet with ⟨next, hNext, hFrom⟩
    rcases hSecond.planned id _ hNext with ⟨last, hLast, rfl | hRead⟩
    · exact ⟨_, hLast, hFrom⟩
    · exact ⟨last, hLast, .inr hRead⟩

theorem get_recordPlan {id : Uuid} {row : Credential} (hGet : db.credentials.get id = some row) :
    ∃ next, (recordPlan credential db).credentials.get id =
        some { row with nextRotationAt := next } ∧
      (next = row.nextRotationAt ∨ credential.id = id ∧ credential.nextRotationAt = none) := by
  unfold recordPlan
  split
  · rename_i hNone _
    by_cases hSame : id = credential.id
    · subst hSame
      exact ⟨_, @Table.get_modify_self _ _ _ _ _ _ _ _ (nextRotationAt_id _) hGet,
        .inr ⟨rfl, hNone⟩⟩
    · rw [get_modify_of_ne hSame]
      exact ⟨_, hGet, .inl rfl⟩
  · exact ⟨_, hGet, .inl rfl⟩

section

variable (hIn : credential ∈ credentials)

include hIn

theorem passed_recordPlan {now : Int} (db : Database) :
    Passed now call credentials db (recordPlan credential db) := by
  have hJobs := rotationJobs_recordPlan credential db
  have hPlan := fun id row => @get_recordPlan credential db id row
  refine ⟨⟨?_, ?_, ?_⟩, ?_, ?_⟩
  · rw [hJobs]
    exact fun _ hMem => hMem
  · rw [hJobs]
    exact fun _ hMem => .inl hMem
  · intro id row hGet
    rcases hPlan id row hGet with ⟨next, hNext, _⟩
    exact ⟨_, hNext⟩
  · rw [hJobs]
    exact fun _ hMem => .inl hMem
  · intro id row hGet
    rcases hPlan id row hGet with ⟨next, hNext, hFrom⟩
    exact ⟨next, hNext, hFrom.imp_right fun hRead => ⟨credential, hIn, hRead⟩⟩

theorem passed_queueRotation (hDue : isDue moment.now credential = true) (db : Database) :
    Passed moment.now call credentials db
      (commit (queueRotation site moment (scheduledCall moment call credential)) db).2 := by
  rcases commit_snd_eq_or_ok (queueRotation site moment (scheduledCall moment call credential)) db
    with hSame | ⟨result, hQueue⟩
  · rw [hSame]
    exact .refl _
  rcases queueRotation_eq_ok hQueue with hSame | ⟨row, jobs, audit, hRow, hNone, hInsert, hAfter⟩
  · rw [hSame]
    exact .refl _
  rw [hAfter]
  have hRows := (insert_eq_some_iff.mp hInsert).2
  have hNew : ∀ job ∈ jobs.rows, job ∈ db.rotationJobs.rows ∨
    job = queuedJob moment.now (scheduledCall moment call credential) row := by
    intro job hMem
    rw [hRows] at hMem
    exact (mem_append.mp hMem).imp_right mem_singleton.mp
  refine ⟨⟨?_, ?_, fun _ row hGet => ⟨row, hGet⟩⟩, ?_, fun _ _ hGet => ⟨_, hGet, .inl rfl⟩⟩
  · intro job hMem
    rw [hRows]
    exact mem_append_left _ hMem
  · intro job hMem
    refine (hNew job hMem).imp_right ?_
    rintro rfl
    exact ⟨credential, hIn, hDue, (get_eq_some_iff.mp hRow).2, rfl⟩
  · intro job hMem
    refine (hNew job hMem).imp_right ?_
    rintro rfl
    refine ⟨rfl, ?_⟩
    rintro ⟨other, hOther, hOwn, hActive⟩
    exact absurd hActive (by simp [activeJob_eq_none_iff.mp hNone other hOther hOwn])

theorem passed_scheduleOne (db : Database) :
    Passed moment.now call credentials db (scheduleOne site moment call credential db).2 := by
  unfold scheduleOne
  split
  · rename_i hDue
    rw [andThen_reading_snd]
    exact (passed_recordPlan hIn db).trans _ _ _ (passed_queueRotation hIn hDue _)
  · exact passed_recordPlan hIn db

end

theorem passed_scheduleAll (rest : List Credential)
    (hIn : ∀ credential ∈ rest, credential ∈ credentials) (db : Database) :
    Passed moment.now call credentials db (scheduleAll site moment call rest db).2 := by
  induction rest generalizing db with
  | nil => exact .refl db
  | cons credential rest ih =>
    refine andThen_relates Passed.trans (passed_scheduleOne (hIn _ mem_cons_self)) ?_ db
    intro queued middle
    refine andThen_relates Passed.trans (ih fun _ hMem => hIn _ (mem_cons_of_mem _ hMem)) ?_ middle
    exact fun others last => reading_relates Passed.refl _ last

theorem passed_scheduleDueRotations (limit : Nat) (db : Database) :
    Passed moment.now call (scheduledCredentials limit db) db
      (scheduleDueRotations site moment call limit db).2 :=
  passed_scheduleAll _ (fun _ hMem => hMem) db

---- Whole Calls

theorem hasActiveJob_of_activeJob {credentialId : Uuid} {job : RotationJob}
    (hActive : activeJob credentialId db = some job) : HasActiveJob credentialId db := by
  rcases mem_filter.mp (mem_of_getLast? hActive) with ⟨hMem, hOwn⟩
  rw [Bool.and_eq_true, decide_eq_true_iff] at hOwn
  exact ⟨job, hMem, hOwn⟩

theorem exists_queueRotation (hSigns : site.CanSign) {call : QueueCall}
    (hStored : db.credentials.get call.credentialId = some credential)
    (hFree : db.rotationJobs.get call.jobId = none) :
    ∃ queued after, queueRotation site moment call db = .ok (queued, after) ∧
      HasActiveJob call.credentialId after := by
  have hId : credential.id = call.credentialId := (get_eq_some_iff.mp hStored).2
  cases hActive : activeJob credential.id db with
  | some existing =>
    refine ⟨(existing, false), db, ?_, hId ▸ hasActiveJob_of_activeJob hActive⟩
    apply found_bind_eq_ok_iff.mpr
    refine ⟨credential, hStored, ?_⟩
    rw [hActive]
    rfl
  | none =>
    rcases queueRotation_of_canSign hSigns call hStored hActive hFree moment with
      ⟨jobs, audit, hInsert, hQueue⟩
    refine ⟨_, _, hQueue, queuedJob moment.now call credential, ?_, hId, rfl⟩
    exact (get_eq_some_iff.mp (get_insert_self hInsert)).1

theorem scheduleOne_completes (hSigns : site.CanSign) {row : Credential}
    (hStored : db.credentials.get credential.id = some row)
    (hFree : db.rotationJobs.get (call.jobId credential.id) = none) :
    ∃ queued after, scheduleOne site moment call credential db = (.ok queued, after) ∧
      (isDue moment.now credential = true → HasActiveJob credential.id after) := by
  rcases @get_recordPlan credential db _ _ hStored with ⟨_, hPlanned, _⟩
  rw [← rotationJobs_recordPlan credential db] at hFree
  unfold scheduleOne
  split
  · rcases @exists_queueRotation site moment _ (recordPlan credential db) hSigns
        (scheduledCall moment call credential) hPlanned hFree with
      ⟨queued, after, hQueue, hActive⟩
    rw [andThen_of_ok (commit_eq_ok_iff.mpr hQueue)]
    exact ⟨_, after, rfl, fun _ => hActive⟩
  · rename_i hNot
    exact ⟨[], _, rfl, fun hDue => absurd hDue hNot⟩

theorem scheduleAll_completes (hSigns : site.CanSign) (hInjective : Function.Injective call.jobId)
    (credentials : List Credential) (db : Database)
    (hDistinct : (credentials.map Credential.id).Nodup)
    (hStored : ∀ credential ∈ credentials, ∃ row, db.credentials.get credential.id = some row)
    (hFree : ∀ credential ∈ credentials, db.rotationJobs.get (call.jobId credential.id) = none) :
    ∃ queued after, scheduleAll site moment call credentials db = (.ok queued, after) ∧
      ∀ credential ∈ credentials, isDue moment.now credential = true →
        HasActiveJob credential.id after := by
  induction credentials generalizing db with
  | nil => exact ⟨[], db, rfl, fun _ hMem => absurd hMem not_mem_nil⟩
  | cons credential rest ih =>
    rcases hStored credential mem_cons_self with ⟨row, hRow⟩
    rcases @scheduleOne_completes site moment call _ _ hSigns _ hRow
      (hFree credential mem_cons_self) with
      ⟨queued, middle, hOne, hActive⟩
    have hScheduled := @passed_scheduleOne site moment call _ _ (mem_singleton_self credential) db
    rw [hOne] at hScheduled
    rw [map_cons, nodup_cons] at hDistinct
    have hStored' : ∀ other ∈ rest, ∃ row, middle.credentials.get other.id = some row := by
      intro other hMem
      rcases hStored other (mem_cons_of_mem _ hMem) with ⟨row, hRow⟩
      exact hScheduled.stored _ row hRow
    have hFree' : ∀ other ∈ rest, middle.rotationJobs.get (call.jobId other.id) = none := by
      intro other hMem
      rw [Option.eq_none_iff_forall_ne_some]
      intro job hJob
      rcases get_eq_some_iff.mp hJob with ⟨hIn, hId⟩
      rcases hScheduled.made job hIn with hIn | ⟨_, hSame, _, _, hMade⟩
      · have hOld := get_eq_some_iff.mpr ⟨hIn, hId⟩
        exact nomatch hOld.symm.trans (hFree other (mem_cons_of_mem _ hMem))
      · rw [mem_singleton.mp hSame] at hMade
        have hEqual : other.id = credential.id := hInjective (hId.symm.trans hMade)
        exact hDistinct.1 (hEqual ▸ mem_map_of_mem hMem)
    rcases ih middle hDistinct.2 hStored' hFree' with ⟨others, last, hRest, hActives⟩
    refine ⟨queued ++ others, last, ?_, ?_⟩
    · unfold scheduleAll
      rw [andThen_of_ok hOne, andThen_of_ok hRest]
      rfl
    · intro other hMem hDue
      rcases mem_cons.mp hMem with rfl | hMem
      · have hRemaining := @passed_scheduleAll site moment call _ rest (fun _ hMem => hMem) middle
        rw [hRest] at hRemaining
        exact (hActive hDue).of_scheduled hRemaining.toScheduled
      · exact hActives other hMem hDue

theorem eq_of_id_eq {first second : Credential} (hFirst : first ∈ db.credentials.rows)
    (hSecond : second ∈ db.credentials.rows) (hId : first.id = second.id) : first = second := by
  have hGet := get_eq_some_iff.mpr ⟨hFirst, hId⟩
  exact Option.some.inj (hGet.symm.trans (get_eq_some_iff.mpr ⟨hSecond, rfl⟩))

theorem exists_due_of_made {job : RotationJob}
    (hMem : job ∈ (scheduleDueRotations site moment call limit db).2.rotationJobs.rows)
    (hNew : job ∉ db.rotationJobs.rows) :
    ∃ credential ∈ scheduledCredentials limit db, credential ∈ dueCredentials moment.now db ∧
      job.credentialId = credential.id := by
  rcases (passed_scheduleDueRotations limit db).made job hMem with
    hOld | ⟨credential, hIn, hDue, hOwn, _⟩
  · exact absurd hOld hNew
  · refine ⟨credential, hIn, mem_filter.mpr ⟨?_, hDue⟩, hOwn⟩
    exact mem_of_mem_scheduledCredentials hIn

theorem nodup_scheduledCredentials (limit : Nat) (db : Database) :
    ((scheduledCredentials limit db).map Credential.id).Nodup := by
  unfold scheduledCredentials
  have hRows : ((db.credentials.rows.filter automaticRotationEnabled).map Credential.id).Nodup :=
    db.credentials.nodup.sublist (filter_sublist.map _)
  rw [map_take]
  refine Nodup.sublist (take_sublist _ _) ?_
  exact ((perm_insertionSort _ _).map _).nodup_iff.mpr hRows

/-
  With at most `limit` due credentials, all of them have an active job afterwards if and only if
  those without a date are in the slice or had one. Others get no job.
-/
theorem due_credentials_scheduled_iff (hSigns : site.CanSign)
    (hInjective : Function.Injective call.jobId)
    (hFree : ∀ credentialId, db.rotationJobs.get (call.jobId credentialId) = none)
    (hFew : (dueCredentials moment.now db).length ≤ limit) :
    ((∀ credential ∈ dueCredentials moment.now db,
          HasActiveJob credential.id (scheduleDueRotations site moment call limit db).2) ↔
        ∀ credential ∈ dueCredentials moment.now db, credential.nextRotationAt = none →
          credential ∈ scheduledCredentials limit db ∨ HasActiveJob credential.id db) ∧
      ∀ credential ∈ db.credentials.rows, credential ∉ dueCredentials moment.now db →
        ∀ job ∈ (scheduleDueRotations site moment call limit db).2.rotationJobs.rows,
          job.credentialId = credential.id → job ∈ db.rotationJobs.rows := by
  have hRow : ∀ credential ∈ dueCredentials moment.now db, credential ∈ db.credentials.rows := by
    intro credential hMem
    exact mem_of_mem_filter (mem_of_mem_filter hMem)
  refine ⟨⟨?_, ?_⟩, ?_⟩
  · intro hAll credential hMem _
    rcases hAll credential hMem with ⟨job, hJob, hOwn, hActive⟩
    by_cases hOld : job ∈ db.rotationJobs.rows
    · exact .inr ⟨job, hOld, hOwn, hActive⟩
    · rcases exists_due_of_made hJob hOld with ⟨other, hIn, hDue, hOther⟩
      rw [eq_of_id_eq (hRow credential hMem) (hRow other hDue) (hOwn.symm.trans hOther)]
      exact .inl hIn
  · intro hUndated credential hMem
    have hReached : credential ∈ scheduledCredentials limit db ∨ HasActiveJob credential.id db := by
      by_cases hDated : credential.nextRotationAt = none
      · exact hUndated credential hMem hDated
      · exact .inl (mem_scheduledCredentials_of_dated hMem hFew hDated)
    rcases hReached with hIn | hActive
    · have hStored : ∀ other ∈ scheduledCredentials limit db,
        ∃ row, db.credentials.get other.id = some row := by
        intro other hOther
        have hStill := mem_of_mem_filter (mem_of_mem_scheduledCredentials hOther)
        exact ⟨other, get_eq_some_iff.mpr ⟨hStill, rfl⟩⟩
      rcases @scheduleAll_completes site moment call hSigns hInjective _ db
          (nodup_scheduledCredentials limit db) hStored (fun other _ => hFree other.id) with
        ⟨queued, after, hAll, hActives⟩
      unfold scheduleDueRotations
      rw [hAll]
      exact hActives credential hIn (mem_filter.mp hMem).2
    · exact hActive.of_scheduled (passed_scheduleDueRotations limit db).toScheduled
  · intro credential hMem hNot job hJob hOwn
    by_contra hNew
    rcases exists_due_of_made hJob hNew with ⟨other, _, hDue, hOther⟩
    rw [eq_of_id_eq hMem (hRow other hDue) (hOwn.symm.trans hOther)] at hNot
    exact hNot hDue

end Passes

---- A Filled Slice

def undatedCredential : Credential :=
  { sampleCredential with id := 3, rotationEnabled := true }

/- A credential that is due tomorrow, and one that was never rotated and has no date. -/
def filledSlice : Database :=
  { sampleDatabase sampleCredential samplePolicies with
    credentials := ⟨[{ sampleCredential with
      rotationEnabled := true
      nextRotationAt := some (days 1) }, undatedCredential], by decide⟩ }

def scheduleKeys : ScheduleCall where
  jobId := id
  nowText := "1970-01-01T00:00:00+00:00"

theorem dueCredentials_filledSlice :
    dueCredentials sampleMoment.now filledSlice = [undatedCredential] := by
  decide +kernel

theorem due_credentials_scheduled_sample : HasActiveJob undatedCredential.id
    (scheduleDueRotations sampleSite sampleMoment scheduleKeys 2 filledSlice).2 := by
  have hFew : (dueCredentials sampleMoment.now filledSlice).length ≤ 2 := by
    decide
  have hSigns : sampleSite.CanSign := fun text => ⟨115 :: text, rfl⟩
  have hAll := @due_credentials_scheduled_iff _ _ scheduleKeys _ _ hSigns Function.injective_id
    (fun _ => rfl) hFew
  refine hAll.1.mpr ?_ undatedCredential (mem_singleton_self _)
  intro credential hMem _
  rw [mem_singleton.mp hMem]
  exact .inl (by decide +kernel)

/- A slice of one is filled by the credential that is not due. -/
theorem undated_credential_starves :
    dueCredentials sampleMoment.now filledSlice = [undatedCredential] ∧
      ¬ HasActiveJob undatedCredential.id (scheduleDueRotations sampleSite
        sampleMoment scheduleKeys 1 filledSlice).2 := by
  refine ⟨dueCredentials_filledSlice, ?_⟩
  rintro ⟨job, hMem, _⟩
  have hRows : (scheduleDueRotations sampleSite sampleMoment scheduleKeys 1
    filledSlice).2.rotationJobs.rows = [] := by
    decide +kernel
  rw [hRows] at hMem
  exact absurd hMem not_mem_nil

---- The Gauge

/- The credentials `schedule_due_rotations` takes for due when its slice holds them all. -/
def scheduledAsDue (now : Int) (db : Database) : List Credential :=
  (scheduledCredentials db.credentials.rows.length db).filter (isDue now)

/- The filter of `pam_olive_credentials_rotation_due`. -/
def isCounted (now : Int) (credential : Credential) : Bool :=
  credential.rotationEnabled &&
    credential.nextRotationAt.any (fun instant => decide (instant ≤ now))

def credentialsRotationDue (now : Int) (db : Database) : Nat :=
  (db.credentials.rows.filter (isCounted now)).length

theorem scheduledAsDue_perm (now : Int) (db : Database) :
    (scheduledAsDue now db).Perm (dueCredentials now db) := by
  have hAll := perm_insertionSort (fun first second => dueBefore first second = true)
    (db.credentials.rows.filter automaticRotationEnabled)
  unfold scheduledAsDue scheduledCredentials
  rw [take_of_length_le (hAll.length_eq.trans_le (length_filter_le _ _))]
  exact hAll.filter _

theorem isCounted_eq (now : Int) (credential : Credential) : isCounted now credential =
    ((automaticRotationEnabled credential && isDue now credential) &&
      (credential.rotationEnabled && credential.nextRotationAt.isSome)) := by
  unfold isCounted automaticRotationEnabled isDue dueAt
  cases credential.nextRotationAt with
  | none => simp
  | some instant => cases credential.rotationEnabled <;> simp

/-
  The gauge counts what the scheduler takes for due exactly when each of these is enabled by its
  own flag and has a date.
-/
theorem rotation_due_gauge_agrees_iff (now : Int) (db : Database) :
    credentialsRotationDue now db = (scheduledAsDue now db).length ↔
      ∀ credential ∈ scheduledAsDue now db,
        credential.rotationEnabled = true ∧ credential.nextRotationAt ≠ none := by
  have hCounted : credentialsRotationDue now db = ((dueCredentials now db).filter (fun credential =>
      credential.rotationEnabled && credential.nextRotationAt.isSome)).length := by
    unfold credentialsRotationDue dueCredentials
    rw [filter_filter, filter_filter]
    congr 1
    refine filter_congr fun credential _ => ?_
    rw [isCounted_eq, Bool.and_comm, Bool.and_comm (automaticRotationEnabled credential),
      ← Bool.and_assoc]
  rw [hCounted, (scheduledAsDue_perm now db).length_eq, length_filter_eq_length_iff]
  simp [(scheduledAsDue_perm now db).mem_iff, Option.isSome_iff_ne_none]

/- The credential without a date is due, and not counted. -/
theorem undated_credential_not_counted :
    scheduledAsDue sampleMoment.now filledSlice = [undatedCredential] ∧
      credentialsRotationDue sampleMoment.now filledSlice = 0 :=
  ⟨by decide +kernel, by decide +kernel⟩

end PamOlive.Operations
