import PamOlive.Operations.Tasks

/-
  Whether a rotation can get stuck.

  A job that is pending without a message or running without a worker is never taken up again, and
  keeps others from being queued. A secret that is not ASCII is never rotated either. In all other
  states the backend can be called again.
-/

---- Preparing

namespace PamOlive.Operations

open Foundations Vault Sessions Table List
open Gateway (compareDigest)

/- What `hmac.compare_digest` accepts. -/
def IsAscii (text : Text) : Prop := text.all (fun point => decide (point.val < 128)) = true

variable {site : Site} {moment : Moment} {registry : BackendRegistry} {fresh : Text} {jobId : Uuid}
variable {db : Database} {job : RotationJob} {credential : Credential} {rotation : Rotation}

section Preparing

variable {after : Database}

theorem compareDigest_eq_some_iff {first second : Text} {result : Bool} :
    compareDigest first second = some result ↔
      IsAscii first ∧ IsAscii second ∧ result = decide (first = second) := by
  simp only [compareDigest, IsAscii, all_append, Bool.and_eq_true]
  split
  next hAscii => simp [hAscii, eq_comm]
  next hAscii =>
    simp only [reduceCtorEq, false_iff]
    rintro ⟨hFirst, hSecond, _⟩
    exact hAscii ⟨hFirst, hSecond⟩

theorem prepareRotation_eq_ok_iff {current candidate : Text} :
    prepareRotation site registry fresh job credential = .ok (current, candidate) ↔
      ∃ backend, getRotationBackend registry job.backend = .ok backend ∧
        decrypt site credential.encryptedSecret credential.secretEncryptionKeyId = .ok current ∧
        candidateSecret backend fresh credential = .ok candidate ∧
        IsAscii candidate ∧ IsAscii current ∧ candidate ≠ current := by
  unfold prepareRotation
  simp only [bind_eq_ok_iff, found_eq_ok_iff, exists_unit_iff, require_eq_ok_iff, return_eq_ok_iff,
    toOption_eq_some_iff, compareDigest_eq_some_iff]
  constructor
  · rintro ⟨backend, hBackend, _, hSecret, _, hGenerated, _, ⟨hAscii, hAscii', hEqual⟩, rfl, rfl,
      rfl⟩
    exact ⟨backend, hBackend, hSecret, hGenerated, hAscii, hAscii', of_decide_eq_false hEqual.symm⟩
  · rintro ⟨backend, hBackend, hSecret, hGenerated, hAscii, hAscii', hOther⟩
    exact ⟨backend, hBackend, current, hSecret, candidate, hGenerated, false,
      ⟨hAscii, hAscii', (decide_eq_false hOther).symm⟩, rfl, rfl, rfl⟩

theorem beginRotation_eq_started_iff :
    beginRotation site moment registry fresh jobId db = .ok (.started rotation, after) ↔
      ∃ job credential token, db.rotationJobs.get jobId = some job ∧
        db.credentials.get job.credentialId = some credential ∧ job.status = .pending ∧
        job.scheduledFor ≤ moment.now ∧ prepareRotation site registry fresh job credential =
          .ok (rotation.current, rotation.candidate) ∧
        encrypt site rotation.candidate = .ok token ∧ rotation.jobId = jobId ∧
        rotation.credentialId = job.credentialId ∧ after = { db with
            rotationJobs := db.rotationJobs.modify jobId (runningJob moment.now token)
              (runningJob_id moment.now token) } := by
  unfold beginRotation
  simp only [found_bind_eq_ok_iff]
  constructor
  · rintro ⟨job, hJob, credential, hCredential, hBegin⟩
    have hId : job.id = jobId := (get_eq_some_iff.mp hJob).2
    split at hBegin
    · cases (return_eq_ok_iff.mp hBegin).1
    rename_i hDue
    rw [not_or, not_not, not_lt] at hDue
    split at hBegin
    · rcases bind_eq_ok_iff.mp hBegin with ⟨_, _, hBegin⟩
      cases (return_eq_ok_iff.mp hBegin).1
    rename_i current candidate hPrepare
    rcases bind_eq_ok_iff.mp hBegin with ⟨token, hToken, hBegin⟩
    rw [hId] at hBegin
    rcases return_eq_ok_iff.mp hBegin with ⟨hRotation, hAfter⟩
    cases hRotation
    exact ⟨job, credential, token, hJob, hCredential, hDue.1, hDue.2, hPrepare, hToken, rfl, rfl,
      hAfter.symm⟩
  · rintro ⟨job, credential, token, hJob, hCredential, hPending, hDue, hPrepare, hToken, hId, hOwn,
      rfl⟩
    have hJobId : job.id = jobId := (get_eq_some_iff.mp hJob).2
    refine ⟨job, hJob, credential, hCredential, ?_⟩
    rw [if_neg (by simp [hPending, hDue]), hPrepare]
    refine bind_eq_ok_iff.mpr ⟨token, hToken, ?_⟩
    rw [return_eq_ok_iff, hJobId, ← hOwn, ← hId]
    exact ⟨rfl, rfl⟩

end Preparing

---- Workers And Their Secrets

def Reads (vault site : Site) : Prop :=
  ∀ token secret, site.services.keyring.decrypt token = .ok secret →
    vault.services.keyring.decrypt token = .ok secret

/- One keyring, which may fail at some of its calls. -/
structure Trusted (vault site : Site) : Prop where
  seals : Seals vault site
  reads : Reads vault site

variable {vault : Site}

theorem decrypt_of_reads {token keyId secret : Text} (hReads : Reads vault site)
    (hDecrypt : decrypt site token keyId = .ok secret) :
    decrypt vault token keyId = .ok secret := by
  rcases decrypt_eq_ok_iff.mp hDecrypt with ⟨hKey, hOpened⟩
  exact decrypt_eq_ok_iff.mpr ⟨hKey, hReads token secret hOpened⟩

/- The calls between their two transactions: each has its job, and could compare the secret. -/
structure Staffed (vault : Site) (state : RotationState) : Prop
    extends Manned vault state.db (rotationsOf state) where
  hasSecret : ∀ rotation ∈ rotationsOf state,
    storedSecret vault rotation.credentialId state.db = some rotation.current
  isAscii : ∀ rotation ∈ rotationsOf state, IsAscii rotation.current ∧ IsAscii rotation.candidate

variable {after : Database}

theorem stored_of_started (hReads : Reads vault site)
    (hBegin : beginRotation site moment registry fresh jobId db = .ok (.started rotation, after)) :
    storedSecret vault rotation.credentialId db = some rotation.current ∧
      IsAscii rotation.current ∧ IsAscii rotation.candidate := by
  rcases beginRotation_eq_started_iff.mp hBegin with
    ⟨job, credential, token, _, hCredential, _, _, hPrepare, _, _, hOwn, _⟩
  rcases prepareRotation_eq_ok_iff.mp hPrepare with ⟨_, _, hDecrypt, _, hCandidate, hCurrent, _⟩
  refine ⟨?_, hCurrent, hCandidate⟩
  unfold storedSecret secretColumns
  rw [hOwn, hCredential, Option.map_some, Option.bind_some]
  exact toOption_eq_some_iff.mpr (decrypt_of_reads hReads hDecrypt)

variable {allowed : Site → Prop} {before : TaskState}

section Staff

variable {state : RotationState} {label : RotationLabel}

theorem Effect.secretColumns_eq {later : RotationState}
    (hManned : Manned vault state.db (rotationsOf state))
    (hEffect : Effect allowed state label later) (hMem : rotation ∈ rotationsOf later)
    (hOld : rotation ∈ rotationsOf state) :
    secretColumns rotation.credentialId later.db =
      secretColumns rotation.credentialId state.db := by
  cases hEffect with
  | same _ hSecrets => exact hSecrets _
  | queued _ hChanges _ => exact hChanges.sameSecrets _
  | refused _ _ hChanges => exact hChanges.sameSecrets _
  | started _ hBegin => exact (changes_of_started hBegin).2.1.sameSecrets _
  | moved _ _ => rfl
  | lost _ => rfl
  | finished _ _ hChanges => exact hChanges.sameSecrets _
  | completed hWorkers hComplete =>
    refine (completes_of_complete vault hComplete).sameSecrets _ ?_
    intro hSame
    exact hManned.others_ne hWorkers rotation hMem
      (hManned.jobId_eq hOld (mem_rotationsOf_of_split hWorkers) hSame)

theorem Staffed.step {later : RotationState} (hStaffed : Staffed vault state)
    (hStep : RotationStep (Trusted vault) state label later) :
    Staffed vault later := by
  have hManned := hStaffed.toManned.step (fun _ hTrusted => hTrusted.seals) hStep.effect
  have hKnown : ∀ rotation ∈ rotationsOf later,
    storedSecret vault rotation.credentialId later.db = some rotation.current ∧
      IsAscii rotation.current ∧ IsAscii rotation.candidate := by
    intro rotation hMem
    -- a call that goes on knows what it knew
    have hOld : rotation ∈ rotationsOf state →
      storedSecret vault rotation.credentialId later.db = some rotation.current ∧
        IsAscii rotation.current ∧ IsAscii rotation.candidate := by
      intro hOld
      rw [storedSecret_congr (hStep.effect.secretColumns_eq hStaffed.toManned hMem hOld)]
      exact ⟨hStaffed.hasSecret rotation hOld, hStaffed.isAscii rotation hOld⟩
    rcases hStep.started_or_old with
      ⟨site, moment, registry, fresh, jobId, started, hTrusted, hBegin, hWorkers⟩ | hAll
    · unfold rotationsOf at hMem
      rw [hWorkers, map_cons, mem_cons] at hMem
      rcases hMem with rfl | hMem
      · rw [storedSecret_congr ((changes_of_started hBegin).2.1.sameSecrets _)]
        exact stored_of_started hTrusted.reads hBegin
      · exact hOld hMem
    · exact hOld (hAll rotation hMem)
  exact ⟨hManned, fun rotation hMem => (hKnown rotation hMem).1,
    fun rotation hMem => (hKnown rotation hMem).2⟩

theorem Staffed.task {later : TaskState} {label : TaskLabel}
    (hStaffed : Staffed vault before.rotations)
    (hStep : TaskStep (Trusted vault) before label later) :
    Staffed vault later.rotations := by
  rcases hStep.run with ⟨labels, hRun⟩
  exact hRun.invariant (fun _ _ _ hBefore hStep => Staffed.step hBefore hStep) hStaffed

theorem staffed_of_reachable {state : TaskState}
    (hReachable : (taskSystem (Trusted vault)).Reachable state) :
    Staffed vault state.rotations := by
  rcases hReachable with ⟨start, labels, ⟨⟨hWorkers, hOne⟩, -⟩, hRun⟩
  have hStart : Staffed vault start.rotations := by
    refine ⟨⟨hOne, ?_, ?_⟩, ?_, ?_⟩ <;> simp [rotationsOf, hWorkers]
  clear hWorkers hOne
  induction hRun with
  | nil => exact hStart
  | cons hStep _ ih => exact ih (hStart.task hStep)

end Staff

---- Blocked Credentials

/- The stored secret can be compared with a candidate. -/
def Comparable (vault : Site) (credentialId : Uuid) (db : Database) : Prop :=
  ∃ current, storedSecret vault credentialId db = some current ∧ IsAscii current

/- An active job that neither a message nor a worker has. -/
structure Orphan (jobId : Uuid) (job : RotationJob) (state : TaskState) : Prop where
  hasJob : state.rotations.db.rotationJobs.get jobId = some job
  isActive : isActive job = true
  noMessage : job.status = .pending → jobId ∉ state.messages
  noWorker : ∀ rotation ∈ rotationsOf state.rotations, rotation.jobId ≠ jobId

/- Nobody works on the credential, and nobody can start. -/
inductive Blocked (vault : Site) (credentialId : Uuid) (state : TaskState) : Prop
  | orphaned {jobId : Uuid} {job : RotationJob} (hOrphan : Orphan jobId job state)
    (hOwn : job.credentialId = credentialId)
  | incomparable (hNot : ¬ Comparable vault credentialId state.rotations.db)
    (hNone : ∀ rotation ∈ rotationsOf state.rotations, rotation.credentialId ≠ credentialId)

variable {credentialId : Uuid}

section Blocking

variable {later : TaskState} {label : TaskLabel}

theorem Orphan.queued {made : List Uuid} (hOrphan : Orphan jobId job before)
    (hAdds : Adds made before.rotations.db after) :
    Orphan jobId job (before.queued (made, after)) where
  hasJob := hAdds.keeps jobId job hOrphan.hasJob
  isActive := hOrphan.isActive
  noMessage := by
    intro hPending hMem
    rcases mem_append.mp hMem with hOld | hNew
    · exact hOrphan.noMessage hPending hOld
    · exact nomatch hOrphan.hasJob.symm.trans (hAdds.isNew jobId hNew)
  noWorker := hOrphan.noWorker

variable {after : RotationState}

theorem Orphan.delivered
    {delivered : Uuid} {left right : List Uuid} (hOrphan : Orphan jobId job before)
    (hMessages : before.messages = left ++ delivered :: right)
    (hStep :
      RotationStep allowed before.rotations (.start site moment registry fresh delivered) after) :
    Orphan jobId job ⟨after, left ++ right⟩ := by
  have hOther : ∀ row, before.rotations.db.rotationJobs.get delivered = some row →
    row.status = .pending → jobId ≠ delivered := by
    rintro row hRow hPending rfl
    cases Option.mem_unique hOrphan.hasJob hRow
    apply hOrphan.noMessage hPending
    rw [hMessages]
    simp
  have hFewer : job.status = .pending → jobId ∉ left ++ right := by
    intro hPending hMem
    apply hOrphan.noMessage hPending
    rw [hMessages]
    exact ((sublist_cons_self _ right).append_left left).subset hMem
  cases hStep with
  | @started _ _ _ _ _ rotation _ _ hBegin =>
    rcases beginRotation_eq_started_iff.mp hBegin with ⟨row, _, _, hRow, _, hPending, _⟩
    rcases changes_of_started hBegin with ⟨hId, hChanges, _⟩
    have hNe := hOther row hRow hPending
    refine ⟨?_, hOrphan.isActive, hFewer, ?_⟩
    · rw [hChanges.others jobId hNe]
      exact hOrphan.hasJob
    · intro other hMem
      rcases mem_cons.mp hMem with rfl | hOld
      · rw [hId]
        exact hNe.symm
      · exact hOrphan.noWorker other hOld
  | notStarted hBegin =>
    refine ⟨?_, hOrphan.isActive, hFewer, hOrphan.noWorker⟩
    rcases changes_of_notStarted hBegin with rfl | ⟨row, hRow, hPending, hChanges⟩
    · exact hOrphan.hasJob
    · rw [hChanges.others jobId (hOther row hRow hPending)]
      exact hOrphan.hasJob
  | startFailed _ => exact ⟨hOrphan.hasJob, hOrphan.isActive, hFewer, hOrphan.noWorker⟩

theorem Orphan.worked {label : RotationLabel} (hOrphan : Orphan jobId job before)
    (hWork : label.isWork = true) (hStep : RotationStep allowed before.rotations label after) :
    Orphan jobId job ⟨after, before.messages⟩ := by
  have hFewer : ∀ {worker : Worker} {left right : List Worker}, before.rotations.workers =
    left ++ worker :: right →
    ∀ rotation ∈ (left ++ right).map Worker.rotation, rotation.jobId ≠ jobId := by
    intro worker left right hWorkers rotation hMem
    exact hOrphan.noWorker rotation ((sublist_of_split hWorkers).subset hMem)
  cases hStep.effect with
  | same hJobs _ =>
    exact ⟨hJobs ▸ hOrphan.hasJob, hOrphan.isActive, hOrphan.noMessage, hOrphan.noWorker⟩
  | moved hWorkers _ =>
    refine ⟨hOrphan.hasJob, hOrphan.isActive, hOrphan.noMessage, ?_⟩
    rw [rotationsOf_of_moved hWorkers rfl]
    exact hOrphan.noWorker
  | lost hWorkers => exact ⟨hOrphan.hasJob, hOrphan.isActive, hOrphan.noMessage, hFewer hWorkers⟩
  | finished hWorkers _ hChanges =>
    refine ⟨?_, hOrphan.isActive, hOrphan.noMessage, hFewer hWorkers⟩
    rw [hChanges.others jobId (hOrphan.noWorker _ (mem_rotationsOf_of_split hWorkers)).symm]
    exact hOrphan.hasJob
  | @completed site _ _ _ _ _ _ hWorkers hComplete =>
    refine ⟨?_, hOrphan.isActive, hOrphan.noMessage, hFewer hWorkers⟩
    rw [(completes_of_complete site hComplete).others jobId
      (hOrphan.noWorker _ (mem_rotationsOf_of_split hWorkers)).symm]
    exact hOrphan.hasJob
  | _ => exact nomatch hWork

theorem Orphan.step (hOrphan : Orphan jobId job before)
    (hStep : TaskStep allowed before label later) : Orphan jobId job later := by
  cases hStep with
  | requested => exact hOrphan.queued (adds_requested _ _)
  | dispatched => exact hOrphan.queued (adds_dispatched _ _)
  | delivered hMessages hStep => exact hOrphan.delivered hMessages hStep
  | worked hWork hStep => exact hOrphan.worked hWork hStep
  | @lost lostId left right hMessages =>
    refine ⟨hOrphan.hasJob, hOrphan.isActive, ?_, hOrphan.noWorker⟩
    intro hPending hMem
    apply hOrphan.noMessage hPending
    rw [hMessages]
    exact ((sublist_cons_self _ right).append_left left).subset hMem

theorem incomparable_step {state : RotationState} {label : RotationLabel}
    (hNot : ¬ Comparable vault credentialId state.db)
    (hNone : ∀ rotation ∈ rotationsOf state, rotation.credentialId ≠ credentialId)
    (hStep : RotationStep (Trusted vault) state label after) :
    ¬ Comparable vault credentialId after.db ∧
      ∀ rotation ∈ rotationsOf after, rotation.credentialId ≠ credentialId := by
  have hSame : secretColumns credentialId after.db = secretColumns credentialId state.db := by
    rcases hStep.cases_on_db with
      ⟨_, hSecrets⟩ | ⟨_, hChanges⟩ | ⟨_, _, rotation, _, _, hMem, hComplete, _⟩
    · exact hSecrets credentialId
    · exact hChanges.sameSecrets credentialId
    · apply (completes_of_complete vault hComplete).sameSecrets
      exact (hNone rotation (mem_map_of_mem hMem)).symm
  have hStill : ¬ Comparable vault credentialId after.db := by
    unfold Comparable
    rw [storedSecret_congr hSame]
    exact hNot
  refine ⟨hStill, ?_⟩
  intro rotation hMem
  rcases hStep.started_or_old with
    ⟨site, moment, registry, fresh, jobId, started, hTrusted, hBegin, hWorkers⟩ | hOld
  · unfold rotationsOf at hMem
    rw [hWorkers, map_cons, mem_cons] at hMem
    rcases hMem with rfl | hOld
    · -- a call that begins has compared the secret
      rintro rfl
      rcases stored_of_started hTrusted.reads hBegin with ⟨hStored, hAscii, _⟩
      exact hNot ⟨_, hStored, hAscii⟩
    · exact hNone rotation hOld
  · exact hNone rotation (hOld rotation hMem)

theorem Blocked.step (hBlocked : Blocked vault credentialId before)
    (hStep : TaskStep (Trusted vault) before label later) : Blocked vault credentialId later := by
  cases hBlocked with
  | orphaned hOrphan hOwn => exact .orphaned (hOrphan.step hStep) hOwn
  | incomparable hNot hNone =>
    rcases hStep.run with ⟨labels, hRun⟩
    let incomparable : RotationState → Prop := fun state =>
      ¬ Comparable vault credentialId state.db ∧
      ∀ rotation ∈ rotationsOf state, rotation.credentialId ≠ credentialId
    have hLater : incomparable later.rotations :=
      hRun.invariant (fun _ _ _ hBefore => incomparable_step hBefore.1 hBefore.2) ⟨hNot, hNone⟩
    exact .incomparable hLater.1 hLater.2

theorem Blocked.no_worker (hBlocked : Blocked vault credentialId before)
    (hStaffed : Staffed vault before.rotations) :
    ∀ rotation ∈ rotationsOf before.rotations, rotation.credentialId ≠ credentialId := by
  cases hBlocked with
  | incomparable _ hNone => exact hNone
  | @orphaned jobId job hOrphan hOwn =>
    intro rotation hMem hSame
    rcases hStaffed.hasJob rotation hMem with ⟨row, hRow, hRunning, hRowOwn, _⟩
    rcases get_eq_some_iff.mp hRow with ⟨hRowMem, hRowId⟩
    rcases get_eq_some_iff.mp hOrphan.hasJob with ⟨hJobMem, hJobId⟩
    apply hOrphan.noWorker rotation hMem
    rw [← hRowId, ← hJobId]
    apply hStaffed.oneActive row job hRowMem hJobMem
      (isActive_iff.mpr (.inr hRunning)) hOrphan.isActive
    rw [hRowOwn, hSame, hOwn]

end Blocking

---- Resuming

def Calls (credentialId : Uuid) (before after : TaskState) : Prop :=
  ∃ rotation, rotation.credentialId = credentialId ∧
    after.rotations.workers = ⟨rotation, .calling⟩ :: before.rotations.workers

/- Without further losses the backend is called again. -/
def Resumes (vault : Site) (credentialId : Uuid) (state : TaskState) : Prop :=
  ∃ labels last middle after, (∀ label ∈ last :: labels, label.isSmooth = true) ∧
    (taskSystem (Trusted vault)).Run state labels middle ∧
    TaskStep (Trusted vault) middle last after ∧ Calls credentialId middle after

/- The keyring does not fail, and every backend is there and makes new secrets of a kind. -/
structure Working (vault : Site) (registry : BackendRegistry) (kind : CredentialKind) : Prop where
  signs : vault.CanSign
  seals : Seals vault vault
  encrypts : ∀ secret, IsAscii secret → ∃ token, encrypt vault secret = .ok token
  generates : ∀ name credential current, credential.kind = kind →
    ∃ backend fresh candidate, getRotationBackend registry name = .ok backend ∧
      candidateSecret backend fresh credential = .ok candidate ∧
      IsAscii candidate ∧
      candidate ≠ current

/- What a new rotation of a credential needs. -/
structure Ready (vault : Site) (credentialId : Uuid) (kind : CredentialKind)
    (db : Database) : Prop where
  hasCredential :
    ∃ credential, db.credentials.get credentialId = some credential ∧ credential.kind = kind
  comparable : Comparable vault credentialId db

def Idle (credentialId : Uuid) (db : Database) : Prop :=
  ∀ job ∈ db.rotationJobs.rows, job.credentialId = credentialId → isActive job = false

def momentAt (now : Int) : Moment := { sampleMoment with now := now }

section Resuming

variable {kind : CredentialKind} {state later : TaskState}

theorem Working.trusted (hWorking : Working vault registry kind) : Trusted vault vault :=
  ⟨hWorking.seals, fun _ _ hOpened => hOpened⟩

variable {label : TaskLabel}

theorem Resumes.of_step (hSmooth : label.isSmooth = true)
    (hStep : TaskStep (Trusted vault) state label later)
    (hResumes : Resumes vault credentialId later) : Resumes vault credentialId state := by
  rcases hResumes with ⟨labels, last, middle, after, hAll, hRun, hLast, hCalls⟩
  refine ⟨label :: labels, last, middle, after, ?_, .cons hStep hRun, hLast, hCalls⟩
  intro other hMem
  rcases mem_cons.mp hMem with rfl | hMem
  · exact hAll other mem_cons_self
  · rcases mem_cons.mp hMem with rfl | hMem
    · exact hSmooth
    · exact hAll other (mem_cons_of_mem _ hMem)

section

variable (hWorking : Working vault registry kind)
  (hReady : Ready vault credentialId kind state.rotations.db)

include hWorking hReady

theorem resumes_of_pending (hJob : state.rotations.db.rotationJobs.get jobId = some job)
    (hOwn : job.credentialId = credentialId) (hPending : job.status = .pending)
    (hMessage : jobId ∈ state.messages) : Resumes vault credentialId state := by
  subst hOwn
  rcases hReady.hasCredential with ⟨credential, hCredential, hKind⟩
  rcases hReady.comparable with ⟨current, hStored, hAscii⟩
  rcases hWorking.generates job.backend credential current hKind with
    ⟨backend, fresh, candidate, hBackend, hCandidate, hAscii', hOther⟩
  rcases hWorking.encrypts candidate hAscii' with ⟨token, hToken⟩
  rcases append_of_mem hMessage with ⟨left, right, hMessages⟩
  have hDecrypt :
    decrypt vault credential.encryptedSecret credential.secretEncryptionKeyId = .ok current := by
    unfold storedSecret secretColumns at hStored
    rw [hCredential, Option.map_some, Option.bind_some] at hStored
    exact toOption_eq_some_iff.mp hStored
  let rotation : Rotation :=
    { jobId := jobId
      credentialId := job.credentialId
      current := current
      candidate := candidate }
  have hBegin : ∃ after, beginRotation vault (momentAt job.scheduledFor)
    registry fresh jobId state.rotations.db = .ok (.started rotation, after) := by
    refine ⟨_, beginRotation_eq_started_iff.mpr
      ⟨job, credential, token, hJob, hCredential, hPending,
        Int.le_refl _, ?_, hToken, rfl, rfl, rfl⟩⟩
    exact prepareRotation_eq_ok_iff.mpr
      ⟨backend, hBackend, hDecrypt, hCandidate, hAscii', hAscii, hOther⟩
  rcases hBegin with ⟨after, hBegin⟩
  have hStep := TaskStep.delivered hMessages (.started hWorking.trusted hBegin)
  refine ⟨[], _, state, _, ?_, .nil _, hStep, rotation, rfl, rfl⟩
  intro label hMem
  rw [mem_singleton.mp hMem]
  rfl

theorem resumes_of_idle (hIdle : Idle credentialId state.rotations.db)
    (hSpare : state.rotations.db.rotationJobs.get jobId = none) :
    Resumes vault credentialId state := by
  rcases hReady.hasCredential with ⟨credential, hCredential, hKind⟩
  have hId : credential.id = credentialId := (get_eq_some_iff.mp hCredential).2
  let call := consoleCall sampleUser credentialId jobId []
  let job := queuedJob (momentAt 0).now call credential
  have hNone : activeJob credential.id state.rotations.db = none := by
    rw [activeJob_eq_none_iff, hId]
    exact hIdle
  rcases queueRotation_of_canSign hWorking.signs call hCredential hNone hSpare (momentAt 0) with
    ⟨jobs, audit, hInsert, hQueue⟩
  have hRequest : rotateCredential vault (momentAt 0) call state.rotations.db = ([jobId],
    { state.rotations.db with rotationJobs := jobs, audit := audit }) := by
    unfold rotateCredential andThen
    rw [commit_eq_ok_iff.mpr hQueue]
    rfl
  have hStep :=
    @TaskStep.requested (Trusted vault) state vault (momentAt 0) sampleUser credentialId jobId []
  rw [hRequest] at hStep
  refine Resumes.of_step rfl hStep ?_
  have hNew : jobs.get jobId = some job := get_insert_self hInsert
  refine @resumes_of_pending registry jobId job
    vault credentialId kind _ hWorking ?_ hNew hId rfl ?_
  · exact ⟨hReady.hasCredential, hReady.comparable⟩
  · exact mem_append_right _ (mem_singleton_self _)

end

/- How the only active job of a credential has ended. -/
structure Ended (rotation : Rotation) (kind : CredentialKind) (db after : Database) : Prop where
  isOver : ∀ row, after.rotationJobs.get rotation.jobId = some row → isActive row = false
  others :
    ∀ other, other ≠ rotation.jobId → after.rotationJobs.get other = db.rotationJobs.get other
  hasCredential : ∃ credential,
    after.credentials.get rotation.credentialId = some credential ∧ credential.kind = kind

theorem Ended.idle (hEnded : Ended rotation kind db after) (hOne : OneActive db)
    (hJob : HasJob vault rotation db) : Idle rotation.credentialId after := by
  rcases hJob with ⟨job, hJob, hRunning, hOwn, _⟩
  rcases get_eq_some_iff.mp hJob with ⟨hJobMem, hJobId⟩
  intro row hMem hRowOwn
  have hGet : after.rotationJobs.get row.id = some row := get_eq_some_iff.mpr ⟨hMem, rfl⟩
  by_cases hId : row.id = rotation.jobId
  · rw [hId] at hGet
    exact hEnded.isOver row hGet
  · rw [hEnded.others row.id hId] at hGet
    by_contra hStill
    rw [Bool.not_eq_false] at hStill
    apply hId
    rw [← hJobId]
    exact hOne row job (get_eq_some_iff.mp hGet).1 hJobMem hStill (isActive_iff.mpr (.inr hRunning))
      (hRowOwn.trans hOwn.symm)

theorem resumes_of_ended (hWorking : Working vault registry kind)
    (hStaffed : Staffed vault state.rotations)
    (hMem : rotation ∈ rotationsOf state.rotations) (hSmooth : label.isSmooth = true)
    (hStep : TaskStep (Trusted vault) state label later)
    (hEnded : Ended rotation kind state.rotations.db later.rotations.db)
    (hComparable : Comparable vault rotation.credentialId later.rotations.db)
    (hSpare : state.rotations.db.rotationJobs.get jobId = none) :
    Resumes vault rotation.credentialId state := by
  have hJob := hStaffed.hasJob rotation hMem
  have hOther : jobId ≠ rotation.jobId := by
    rintro rfl
    rcases hJob with ⟨job, hJob, _⟩
    exact nomatch hJob.symm.trans hSpare
  have hStillSpare : later.rotations.db.rotationJobs.get jobId = none := by
    rw [hEnded.others jobId hOther]
    exact hSpare
  exact Resumes.of_step hSmooth hStep (resumes_of_idle hWorking ⟨hEnded.hasCredential, hComparable⟩
    (hEnded.idle hStaffed.oneActive hJob) hStillSpare)

theorem exists_completeRotation (hSigns : vault.CanSign) (hJob : HasJob vault rotation db)
    (hCredential : ∃ credential,
      db.credentials.get rotation.credentialId = some credential ∧ credential.kind = kind)
    (moment : Moment) :
    ∃ result after, completeRotation vault moment rotation db = .ok (result, after) ∧
      Ended rotation kind db after := by
  rcases hJob with ⟨job, hGet, hRunning, _⟩
  rcases hCredential with ⟨credential, hCredential, hKind⟩
  rcases completeRotation_of_canSign hSigns hGet hCredential hRunning moment with ⟨audit, hComplete⟩
  have hCompletes := completes_of_complete vault hComplete
  refine ⟨_, _, hComplete, ?_, hCompletes.others,
    rotatedCredential moment.now job credential, ?_, hKind⟩
  · intro row hRow
    rcases hCompletes.hasJob with ⟨_, _, _, _, _, hSucceeded, _⟩
    cases Option.mem_unique hSucceeded hRow
    rfl
  · dsimp only [rotated]
    rw [(get_eq_some_iff.mp hCredential).2, get_modify_self hCredential]

theorem resumes_of_returned {left right : List Worker} (hWorking : Working vault registry kind)
    (hStaffed : Staffed vault state.rotations)
    (hWorkers : state.rotations.workers = left ++ ⟨rotation, .returned⟩ :: right)
    (hReady : Ready vault rotation.credentialId kind state.rotations.db)
    (hSpare : state.rotations.db.rotationJobs.get jobId = none) :
    Resumes vault rotation.credentialId state := by
  have hMem := mem_rotationsOf_of_split hWorkers
  have hHasJob := hStaffed.hasJob rotation hMem
  rcases exists_completeRotation hWorking.signs hHasJob hReady.hasCredential (momentAt 0) with
    ⟨result, after, hComplete, hEnded⟩
  have hStep : TaskStep (Trusted vault) state (.work (.complete vault (momentAt 0) rotation))
    ⟨⟨after, state.rotations.actual, left ++ right⟩, state.messages⟩ := by
    have hCompleted := @RotationStep.completed (Trusted vault) _ vault (momentAt 0) _ _ _ hWorkers
    rw [commit_eq_ok_iff.mpr hComplete] at hCompleted
    exact .worked rfl hCompleted
  refine resumes_of_ended hWorking hStaffed hMem rfl hStep hEnded ?_ hSpare
  rcases hHasJob with ⟨job, hJob, _, _, hCandidate⟩
  rcases (completes_of_complete vault hComplete).hasJob with ⟨row, _, _, hRow, _, _, hStored⟩
  cases Option.mem_unique hJob hRow
  exact ⟨rotation.candidate, hStored.trans hCandidate, (hStaffed.isAscii rotation hMem).2⟩

theorem exists_finishWithoutRotation (hSigns : vault.CanSign) (hJob : HasJob vault rotation db)
    (hCredential : ∃ credential,
        db.credentials.get rotation.credentialId = some credential ∧ credential.kind = kind)
    (moment : Moment) (error : BackendError) :
    ∃ result after, finishWithoutRotation vault moment rotation.jobId
          .failed error db = .ok (result, after) ∧
        Ended rotation kind db after ∧
        secretColumns rotation.credentialId after = secretColumns rotation.credentialId db := by
  rcases hJob with ⟨job, hGet, hRunning, hOwn, _⟩
  rcases hCredential with ⟨credential, hCredential, hKind⟩
  have hId : job.id = rotation.jobId := (get_eq_some_iff.mp hGet).2
  have hActive : isActive job = true := isActive_iff.mpr (.inr hRunning)
  rcases finishWithoutRotation_of_canSign hSigns hGet (hOwn ▸ hCredential) hActive moment .failed
      error with
    ⟨audit, hFinish⟩
  refine ⟨_, _, hFinish, ⟨?_, ?_, postponedCredential moment.now .failed credential, ?_, ?_⟩, ?_⟩
  · intro row hRow
    dsimp only [postponed] at hRow
    rw [hId, get_modify_self hGet] at hRow
    injection hRow with hSame
    rw [← hSame]
    rfl
  · intro other hOther
    dsimp only [postponed]
    rw [hId, get_modify_of_ne hOther]
  · dsimp only [postponed]
    rw [hOwn, get_modify_self hCredential]
  · exact hKind
  · exact secretColumns_modify (postponedCredential_id moment.now .failed)
      (secretColumnsOf_postponed moment.now .failed)

variable {left right : List Worker}

section

variable (hWorking : Working vault registry kind) (hStaffed : Staffed vault state.rotations)

include hWorking hStaffed

theorem resumes_of_raised {error : Option BackendError}
    (hWorkers : state.rotations.workers = left ++ ⟨rotation, .raised error⟩ :: right)
    (hReady : Ready vault rotation.credentialId kind state.rotations.db)
    (hSpare : state.rotations.db.rotationJobs.get jobId = none) :
    Resumes vault rotation.credentialId state := by
  have hMem := mem_rotationsOf_of_split hWorkers
  rcases exists_finishWithoutRotation hWorking.signs
    (hStaffed.hasJob rotation hMem) hReady.hasCredential
    (momentAt 0) (rotateReport error) with
    ⟨result, after, hFinish, hEnded, hSecrets⟩
  have hStep : TaskStep (Trusted vault) state (.work (.giveUp vault (momentAt 0) rotation error))
    ⟨⟨after, state.rotations.actual, left ++ right⟩, state.messages⟩ := by
    have hGaveUp := @RotationStep.gaveUp (Trusted vault) _ vault (momentAt 0) _ _ _ _ hWorkers
    rw [commit_eq_ok_iff.mpr hFinish] at hGaveUp
    exact .worked rfl hGaveUp
  refine resumes_of_ended hWorking hStaffed hMem rfl hStep hEnded ?_ hSpare
  have hComparable := hReady.comparable
  unfold Comparable at hComparable ⊢
  rw [storedSecret_congr hSecrets]
  exact hComparable

variable {worker : Worker}

theorem resumes_of_worker (hMem : worker ∈ state.rotations.workers)
    (hReady : Ready vault worker.rotation.credentialId kind state.rotations.db)
    (hSpare : state.rotations.db.rotationJobs.get jobId = none) :
    Resumes vault worker.rotation.credentialId state := by
  rcases worker with ⟨rotation, phase⟩
  rcases append_of_mem hMem with ⟨left, right, hWorkers⟩
  cases phase with
  | calling =>
    have hStep := @RotationStep.returned (Trusted vault) _ _ _ _ hWorkers
    have hTask : TaskStep (Trusted vault) state (.work (.rotate rotation)) _ := .worked rfl hStep
    refine Resumes.of_step rfl hTask ?_
    exact @resumes_of_returned registry jobId rotation vault kind _
      left right hWorking (hStaffed.step hStep)
      rfl hReady hSpare
  | returned => exact resumes_of_returned hWorking hStaffed hWorkers hReady hSpare
  | raised error => exact resumes_of_raised hWorking hStaffed hWorkers hReady hSpare

end

end Resuming

---- Progress

/- Every active job has its message or its worker, and the secret can be compared. -/
structure Resumable (vault : Site) (credentialId : Uuid) (state : TaskState) : Prop where
  delivered : ∀ job ∈ state.rotations.db.rotationJobs.rows,
    job.credentialId = credentialId → job.status = .pending → job.id ∈ state.messages
  worked : ∀ job ∈ state.rotations.db.rotationJobs.rows, job.credentialId = credentialId →
    job.status = .running → ∃ worker ∈ state.rotations.workers, worker.rotation.jobId = job.id
  comparable : Comparable vault credentialId state.rotations.db

section Progress

variable {state : TaskState}

theorem blocked_of_not_resumable (hStaffed : Staffed vault state.rotations)
    (hNot : ¬ Resumable vault credentialId state) : Blocked vault credentialId state := by
  by_contra hFree
  apply hNot
  refine ⟨?_, ?_, ?_⟩
  · intro job hMem hOwn hPending
    by_contra hLost
    have hGet : state.rotations.db.rotationJobs.get job.id = some job :=
      get_eq_some_iff.mpr ⟨hMem, rfl⟩
    refine hFree (.orphaned ⟨hGet, ?_, fun _ => hLost, ?_⟩ hOwn)
    · exact isActive_iff.mpr (.inl hPending)
    · intro rotation hIn
      exact hStaffed.toManned.jobId_ne (notRunning_of_pending hGet hPending) rotation hIn
  · intro job hMem hOwn hRunning
    by_contra hLost
    have hGet : state.rotations.db.rotationJobs.get job.id = some job :=
      get_eq_some_iff.mpr ⟨hMem, rfl⟩
    refine hFree (.orphaned ⟨hGet, ?_, ?_, ?_⟩ hOwn)
    · exact isActive_iff.mpr (.inr hRunning)
    · intro hPending
      exact nomatch hPending.symm.trans hRunning
    · intro rotation hIn hSame
      rcases mem_map.mp hIn with ⟨worker, hWorker, rfl⟩
      exact hLost ⟨worker, hWorker, hSame⟩
  · by_contra hIncomparable
    refine hFree (.incomparable hIncomparable ?_)
    rintro rotation hIn rfl
    exact hIncomparable ⟨rotation.current, hStaffed.hasSecret rotation hIn,
      (hStaffed.isAscii rotation hIn).1⟩

theorem Blocked.not_resumes (hBlocked : Blocked vault credentialId state)
    (hStaffed : Staffed vault state.rotations) :
    ¬ Resumes vault credentialId state := by
  rintro ⟨labels, last, middle, after, hSmooth, hRun, hStep, rotation, hOwn, hWorkers⟩
  have hMiddle : Blocked vault credentialId middle ∧ Staffed vault middle.rotations := by
    clear hStep hWorkers hSmooth
    induction hRun with
    | nil => exact ⟨hBlocked, hStaffed⟩
    | cons hStep _ ih => exact ih (hBlocked.step hStep) (hStaffed.task hStep)
  apply (hMiddle.1.step hStep).no_worker (hMiddle.2.task hStep) rotation ?_ hOwn
  unfold rotationsOf
  simp [hWorkers]

theorem Resumable.resumes (hResumable : Resumable vault credentialId state)
    (hStaffed : Staffed vault state.rotations)
    (hCredential : state.rotations.db.credentials.get credentialId = some credential)
    (hWorking : Working vault registry credential.kind)
    (hSpare : ∃ jobId, state.rotations.db.rotationJobs.get jobId = none) :
    Resumes vault credentialId state := by
  rcases hSpare with ⟨jobId, hSpare⟩
  have hReady : Ready vault credentialId credential.kind state.rotations.db :=
    ⟨⟨credential, hCredential, rfl⟩, hResumable.comparable⟩
  by_cases hIdle : Idle credentialId state.rotations.db
  · exact resumes_of_idle hWorking hReady hIdle hSpare
  unfold Idle at hIdle
  push Not at hIdle
  rcases hIdle with ⟨job, hMem, hOwn, hActive⟩
  rw [Bool.ne_false_iff] at hActive
  have hGet : state.rotations.db.rotationJobs.get job.id = some job :=
    get_eq_some_iff.mpr ⟨hMem, rfl⟩
  rcases isActive_iff.mp hActive with hPending | hRunning
  · exact resumes_of_pending hWorking hReady hGet hOwn
      hPending (hResumable.delivered job hMem hOwn hPending)
  rcases hResumable.worked job hMem hOwn hRunning with ⟨worker, hWorker, hSame⟩
  rcases hStaffed.hasJob worker.rotation (mem_map_of_mem hWorker) with
    ⟨row, hRow, _, hRowOwn, _⟩
  rw [hSame, hGet] at hRow
  cases hRow
  have hHere : worker.rotation.credentialId = credentialId := hRowOwn.symm.trans hOwn
  subst hHere
  exact resumes_of_worker hWorking hStaffed hWorker hReady hSpare

---- A Sample Of The Scheduler

def sampleDue : Credential :=
  { sampleCredential with rotationEnabled := true, nextRotationAt := some 0 }

def sampleTasks (credential : Credential) : TaskState where
  rotations :=
    { sampleStart with db := sampleDatabase credential samplePolicies }
  messages := []

def sampleDispatch : ScheduleCall where
  jobId := fun _ => 8
  nowText := "1970-01-01T00:00:00+00:00"

def sampleDispatched : TaskState :=
  (sampleTasks sampleDue).queued (dispatchDueRotationJobs sampleSite
    sampleMoment sampleDispatch (sampleTasks sampleDue).rotations.db)

def sampleJob : RotationJob :=
  queuedJob 0 (scheduledCall sampleMoment sampleDispatch sampleDue) sampleDue

theorem sampleTasks_init (credential : Credential) :
    (taskSystem (Trusted sampleSite)).init (sampleTasks credential) := by
  refine ⟨⟨rfl, ?_⟩, rfl⟩
  intro first second hFirst
  exact absurd hFirst not_mem_nil

theorem sampleDispatched_step : TaskStep (Trusted sampleSite) (sampleTasks sampleDue)
    (.dispatch sampleSite sampleMoment sampleDispatch)
    sampleDispatched :=
  .dispatched

theorem sampleSite_working : Working sampleSite sampleRegistry .password := by
  refine ⟨?_, sampleSite_seals, ?_, ?_⟩
  · intro text
    exact ⟨115 :: text, rfl⟩
  · intro secret _
    exact ⟨secret, rfl⟩
  intro name credential current hKind
  have hMakes : ∀ fresh, generatedSecret ⟨none⟩ fresh credential = .ok (some fresh) := by
    intro fresh
    exact if_pos hKind
  by_cases hOther : "rotated" = current
  · refine ⟨⟨none⟩, "again", "again", rfl, ?_, rfl, ?_⟩
    · unfold candidateSecret
      rw [hMakes]
      rfl
    · rw [← hOther]
      decide
  · refine ⟨⟨none⟩, "rotated", "rotated", rfl, ?_, rfl, hOther⟩
    unfold candidateSecret
    rw [hMakes]
    rfl

---- Rotations Resume

/-
  In every state that can be reached, whatever was lost: the backend can be called again for a
  credential exactly if the state is resumable.
-/
theorem rotation_resumes_iff {registry : BackendRegistry} {credential : Credential}
    (hReachable : (taskSystem (Trusted vault)).Reachable state)
    (hCredential : state.rotations.db.credentials.get credentialId = some credential)
    (hWorking : Working vault registry credential.kind)
    (hSpare : ∃ jobId, state.rotations.db.rotationJobs.get jobId = none) :
    Resumes vault credentialId state ↔ Resumable vault credentialId state := by
  have hStaffed := staffed_of_reachable hReachable
  constructor
  · intro hResumes
    by_contra hNot
    exact (blocked_of_not_resumable hStaffed hNot).not_resumes hStaffed hResumes
  · intro hResumable
    exact hResumable.resumes hStaffed hCredential hWorking hSpare

theorem rotation_resumes_sample : Resumable sampleSite 2 sampleDispatched ∧
    Resumes sampleSite 2 sampleDispatched := by
  have hResumable : Resumable sampleSite 2 sampleDispatched := by
    refine ⟨?_, ?_, ⟨"secret", rfl, rfl⟩⟩
    · intro job hMem _ _
      rw [mem_singleton.mp hMem]
      exact mem_singleton_self 8
    · intro job hMem _ hRunning
      rw [mem_singleton.mp hMem] at hRunning
      exact nomatch hRunning
  refine ⟨hResumable, ?_⟩
  have hReachable : (taskSystem (Trusted sampleSite)).Reachable sampleDispatched :=
    ⟨sampleTasks sampleDue, _, sampleTasks_init sampleDue, .cons sampleDispatched_step (.nil _)⟩
  exact (@rotation_resumes_iff sampleSite 2 sampleDispatched sampleRegistry sampleDue hReachable rfl
    sampleSite_working ⟨9, rfl⟩).mpr hResumable

/- A due credential of a working backend is stuck. -/
structure Stuck (state : TaskState) : Prop where
  reachable : (taskSystem (Trusted sampleSite)).Reachable state
  isDue : ∃ credential, state.rotations.db.credentials.get 2 = some credential ∧
    automaticRotationEnabled credential = true ∧
    dueAt credential = some 0 ∧
    Working sampleSite sampleRegistry credential.kind
  stays : ¬ Resumes sampleSite 2 state

theorem stuck_of_orphan {labels : List TaskLabel} {state : TaskState}
    (hRun : (taskSystem (Trusted sampleSite)).Run (sampleTasks sampleDue) labels state)
    (hCredential : state.rotations.db.credentials.get 2 = some credential)
    (hDue : automaticRotationEnabled credential = true ∧ dueAt credential = some 0 ∧
      credential.kind = .password)
    (hJob : state.rotations.db.rotationJobs.get 8 = some job) (hOwn : job.credentialId = 2)
    (hActive : isActive job = true) (hMessages : state.messages = [])
    (hWorkers : state.rotations.workers = []) : Stuck state := by
  have hReachable : (taskSystem (Trusted sampleSite)).Reachable state :=
    ⟨_, labels, sampleTasks_init sampleDue, hRun⟩
  refine ⟨hReachable, ⟨credential, hCredential, hDue.1, hDue.2.1, ?_⟩, ?_⟩
  · rw [hDue.2.2]
    exact sampleSite_working
  · refine Blocked.not_resumes (.orphaned ⟨hJob, hActive, ?_, ?_⟩ hOwn)
      (staffed_of_reachable hReachable)
    · simp [hMessages]
    · simp [rotationsOf, hWorkers]

theorem exists_begun :
    ∃ begun job credential, beginRotation sampleSite sampleMoment sampleRegistry "rotated" 8
      sampleDispatched.rotations.db = .ok (.started sampleRotation, begun) ∧
      begun.rotationJobs.get 8 = some job ∧ job.status = .running ∧ job.credentialId = 2 ∧
      begun.credentials.get 2 = some credential ∧ automaticRotationEnabled credential = true ∧
      dueAt credential = some 0 ∧ credential.kind = .password :=
  ⟨_, _, _, rfl, rfl, rfl, rfl, rfl, rfl, rfl, rfl⟩

/- The secret `é` is decrypted and never compared. -/
theorem stuck_incomparable : Stuck (sampleTasks { sampleDue with encryptedSecret := "é" }) := by
  refine ⟨⟨_, [], sampleTasks_init _, .nil _⟩, ⟨_, rfl, rfl, rfl, sampleSite_working⟩, ?_⟩
  refine Blocked.not_resumes (.incomparable ?_ ?_)
    (staffed_of_reachable ⟨_, [], sampleTasks_init _, .nil _⟩)
  · rintro ⟨current, hStored, hAscii⟩
    injection hStored with hSame
    rw [← hSame] at hAscii
    exact absurd hAscii Bool.false_ne_true
  · exact forall_mem_nil _

/- The message of a job is lost, or its worker. The scheduler finds the job and sends nothing. -/
theorem lost_work_blocks_rotation :
    ∃ lost crashed, (taskSystem (Trusted sampleSite)).Run (sampleTasks sampleDue)
      [.dispatch sampleSite sampleMoment sampleDispatch, .lose 8]
      lost ∧ (taskSystem (Trusted sampleSite)).Run (sampleTasks sampleDue)
        [.dispatch sampleSite sampleMoment sampleDispatch,
          .deliver sampleSite sampleMoment sampleRegistry "rotated" 8,
          .work (.crash ⟨sampleRotation, .calling⟩ false)]
        crashed ∧
      Stuck lost ∧ Stuck crashed ∧ Stuck (sampleTasks { sampleDue with
          encryptedSecret := "é" }) := by
  have hLost : (taskSystem (Trusted sampleSite)).Run (sampleTasks sampleDue) _
    ⟨sampleDispatched.rotations, [] ++ []⟩ :=
    .cons sampleDispatched_step (.cons (.lost rfl) (.nil _))
  rcases exists_begun with
    ⟨begun, job, credential, hBegin, hJob, hRunning, hOwn, hCredential, hDue⟩
  have hCrashed : (taskSystem (Trusted sampleSite)).Run (sampleTasks sampleDue) _
    ⟨⟨begun, install false sampleRotation sampleDispatched.rotations.actual, [] ++ []⟩, [] ++ []⟩ :=
    .cons sampleDispatched_step (.cons (.delivered rfl (.started sampleSite_working.trusted hBegin))
      (.cons (.worked rfl (.crashed rfl (absurd · Bool.false_ne_true))) (.nil _)))
  refine ⟨_, _, hLost, hCrashed, ?_, ?_, stuck_incomparable⟩
  · exact stuck_of_orphan hLost rfl ⟨rfl, rfl, rfl⟩ rfl rfl rfl rfl rfl
  · exact stuck_of_orphan hCrashed hCredential hDue hJob hOwn (isActive_iff.mpr (.inr hRunning)) rfl
      rfl

end Progress

end PamOlive.Operations
