import PamOlive.Gateway.Control
import PamOlive.Vault.Leases

/-
  Queueing and executing the rotation of a secret.

  `execute_rotation` runs two transactions around a call to a backend. The first, `beginRotation`,
  stores the encrypted candidate; the last is `completeRotation`, or `finishWithoutRotation` when
  the backend raised.
-/

---- Backends

namespace PamOlive.Operations

open Foundations Vault Database
open Gateway (compareDigest)

structure BackendError where
  code : Text
  safeMessage : Text
deriving DecidableEq

inductive PreparationError where
  | refused (error : BackendError)
  | unexpected
deriving DecidableEq

/- What the preparation uses of a backend. The generated value is `none` when it is not a text. -/
structure Backend where
  generateSecret : Option (Credential → Except PreparationError (Option Text))

/- What importing a dotted path and calling it gives. -/
inductive LoadedBackend where
  | unavailable | raised | withoutRotate
  | backend (backend : Backend)

/- The instances of a process, and the setting `PAMOLIVE_ROTATION_BACKENDS` with what it names. -/
structure BackendRegistry where
  instances : Text → Option Backend
  dottedPath : Text → Text
  load : Text → LoadedBackend

def backendNotConfigured : BackendError where
  code := "backend_not_configured"
  safeMessage := "Aucun fournisseur de rotation n’est configuré pour cet identifiant."

def backendUnavailable : BackendError where
  code := "backend_invalid"
  safeMessage := "Le fournisseur de rotation configuré est indisponible."

def backendWithoutContract : BackendError where
  code := "backend_invalid"
  safeMessage := "Le fournisseur de rotation ne respecte pas le contrat requis."

def getRotationBackend
    (registry : BackendRegistry) (name : Text) : Except PreparationError Backend :=
  match registry.instances name with
  | some backend => .ok backend
  | none =>
    if registry.dottedPath name = [] then .error (.refused backendNotConfigured)
    else
      match registry.load (registry.dottedPath name) with
      | .unavailable => .error (.refused backendUnavailable)
      | .raised => .error .unexpected
      | .withoutRotate => .error (.refused backendWithoutContract)
      | .backend backend => .ok backend

---- Candidate Secrets

/- The number of bytes of a code point in UTF-8. -/
def utf8Size (point : CodePoint) : Nat :=
  if point.val < 0x80 then 1
  else if point.val < 0x800 then 2
  else if point.val < 0x10000 then 3
  else 4

def utf8Length (text : Text) : Nat := text.foldr (fun point size => utf8Size point + size) 0

def secretGenerationUnsupported : BackendError where
  code := "secret_generation_unsupported"
  safeMessage := Text.ofString
    "Ce type de secret exige un générateur fourni par le connecteur de rotation."

def candidateSecretInvalid : BackendError where
  code := "candidate_secret_invalid"
  safeMessage := "Le fournisseur a produit un secret invalide."

def secretUnchanged : BackendError where
  code := "secret_unchanged"
  safeMessage := "Le nouveau secret doit être différent du secret actuel."

section

variable (backend : Backend) (fresh : Text) (credential : Credential)

def generatedSecret : Except PreparationError (Option Text) :=
  match backend.generateSecret with
  | some generator => generator credential
  | none =>
    if credential.kind = .password then .ok (some fresh)
    else .error (.refused secretGenerationUnsupported)

def candidateSecret : Except PreparationError Text := do
  let generated ← generatedSecret backend fresh credential
  let candidate ← found generated (.refused candidateSecretInvalid)
  require (candidate ≠ []) (.refused candidateSecretInvalid)
  let encoded ← found candidate.encode .unexpected
  require (utf8Length encoded ≤ 65536) (.refused candidateSecretInvalid)
  return candidate

end

/- The current secret and the candidate, under the first `try` of `execute_rotation`. -/
def prepareRotation (site : Site) (registry : BackendRegistry) (fresh : Text) (job : RotationJob)
    (credential : Credential) :
    Except PreparationError (Text × Text) := do
  let backend ← getRotationBackend registry job.backend
  let current ←
    found (decrypt site credential.encryptedSecret credential.secretEncryptionKeyId).toOption
      .unexpected
  let candidate ← candidateSecret backend fresh credential
  let unchanged ← found (compareDigest candidate current) .unexpected
  require (unchanged = false) (.refused secretUnchanged)
  return (current, candidate)

def preparationFailed : BackendError where
  code := "vault_preparation_failed"
  safeMessage := "La préparation sécurisée de la rotation a échoué."

/- The codes that call for an action of an operator. -/
def actionRequiredCodes : List Text :=
  [backendNotConfigured.code, backendUnavailable.code, secretGenerationUnsupported.code]

def PreparationError.status : PreparationError → JobStatus
| .refused error =>
  if actionRequiredCodes.contains error.code then .actionRequired
  else .failed
| .unexpected => .failed

def PreparationError.report : PreparationError → BackendError
| .refused error => error
| .unexpected => preparationFailed

/- What is reported of an exception of `backend.rotate`. -/
def rotateReport (raised : Option BackendError) : BackendError :=
  raised.getD
    { code := "backend_unexpected_failure"
      safeMessage := "Le fournisseur de rotation a échoué sans détail publiable." }

section

variable (credential : Credential)

def enabledRotationPolicy : Option SecretRotationPolicy :=
  credential.rotationPolicy.filter SecretRotationPolicy.enabled

def effectiveRotationIntervalDays : Option Nat :=
  match enabledRotationPolicy credential with
  | some policy => some policy.intervalDays
  | none => credential.rotationIntervalDays

def effectiveRotationBackend : Text :=
  match enabledRotationPolicy credential with
  | some policy => policy.connectorKey
  | none => credential.rotationBackend

def automaticRotationEnabled : Bool :=
  (enabledRotationPolicy credential).isSome || credential.rotationEnabled

end

def hours (count : Nat) : Int := minutes (60 * count)

def days (count : Nat) : Int := hours (24 * count)

---- Queueing

/- The statuses of which a credential has at most one job. -/
def isActive (job : RotationJob) : Bool :=
  decide (job.status = .pending ∨ job.status = .running)

def activeJob (credentialId : Uuid) (db : Database) : Option RotationJob :=
  (db.rotationJobs.rows.filter
    (fun job => decide (job.credentialId = credentialId) && isActive job)).getLast?

structure QueueCall where
  credentialId : Uuid
  requestedBy : Option UserId
  reason : Text
  scheduledFor : Option Int
  scheduledText : Text
  jobId : Uuid

def queuedJob (now : Int) (call : QueueCall) (credential : Credential) : RotationJob where
  id := call.jobId
  credentialId := credential.id
  requestedBy := call.requestedBy
  reason := call.reason.take 250
  backend := effectiveRotationBackend credential
  status := .pending
  scheduledFor := call.scheduledFor.getD now
  startedAt := none
  completedAt := none
  previousKeyVersion := credential.keyVersion
  newKeyVersion := none
  encryptedCandidateSecret := []
  candidateEncryptionKeyId := activeKeyId
  errorCode := []
  errorMessage := []

def jobResourceType : Text := "operations.rotationjob"

def queueMetadata (call : QueueCall) (credential : Credential) : Json :=
  .obj [("credential_id", .str (Uuid.str credential.id)), ("backend",
    .str (if effectiveRotationBackend credential = [] then "unconfigured"
      else effectiveRotationBackend credential)), ("scheduled_for", .str call.scheduledText)]

/- `queue_rotation`, with whether a job was created. -/
def queueRotation (site : Site) (moment : Moment) (call : QueueCall) (db : Database) :
    Except Failure ((RotationJob × Bool) × Database) := do
  let credential ← found (db.credentials.get call.credentialId) .doesNotExist
  match activeJob credential.id db with
  | some existing => return ((existing, false), db)
  | none =>
    let job := queuedJob moment.now call credential
    let jobs ← found (db.rotationJobs.insert job) .integrityError
    let after ← ({ db with rotationJobs := jobs }).recordEvent site moment call.requestedBy
      "credential.rotation_queued"
      jobResourceType (Uuid.str job.id)
      (queueMetadata call credential) none
    return ((job, true), after)

---- Finishing Without Rotation

def finishedJob (now : Int) (status : JobStatus) (error : BackendError)
    (job : RotationJob) : RotationJob :=
  { job with
    status := status
    completedAt := some now
    errorCode := error.code.take 80
    errorMessage := error.safeMessage.take 250 }

theorem finishedJob_id (now : Int) (status : JobStatus) (error : BackendError) (job : RotationJob) :
    (finishedJob now status error job).id = job.id :=
  rfl

def postponedCredential (now : Int) (status : JobStatus) (credential : Credential) : Credential :=
  if status = .failed then
    { credential with
      lastRotationStatus := .failed
      rotationFailureCount := credential.rotationFailureCount + 1
      nextRotationAt :=
        some (now + hours (min 24 (2 ^ min (credential.rotationFailureCount + 1) 5))) }
  else
    { credential with lastRotationStatus := .blocked, nextRotationAt := some (now + hours 24) }

theorem postponedCredential_id (now : Int) (status : JobStatus) (credential : Credential) :
    (postponedCredential now status credential).id = credential.id := by
  unfold postponedCredential
  split <;> rfl

def postponed (now : Int) (status : JobStatus) (error : BackendError) (job : RotationJob)
    (db : Database) : Database :=
  { db with
    rotationJobs :=
      db.rotationJobs.modify job.id (finishedJob now status error) (finishedJob_id now status error)
    credentials := db.credentials.modify job.credentialId (postponedCredential now status)
      (postponedCredential_id now status) }

def finishAction (status : JobStatus) : Text :=
  if status = .failed then "credential.rotation_failed"
  else "credential.rotation_action_required"

def finishWithoutRotation (site : Site) (moment : Moment) (jobId : Uuid) (status : JobStatus)
    (error : BackendError) (db : Database) :
    Except Failure (RotationJob × Database) := do
  let job ← found (db.rotationJobs.get jobId) .doesNotExist
  let credential ← found (db.credentials.get job.credentialId) .doesNotExist
  if isActive job = false then return (job, db)
  else
    let after ← (postponed moment.now status error job db).recordEvent site moment job.requestedBy
      (finishAction status) jobResourceType
      (Uuid.str job.id)
      (.obj [("credential_id", .str (Uuid.str credential.id)), ("error_code", .str error.code)])
      none
    return (finishedJob moment.now status error job, after)

---- Beginning

structure Rotation where
  jobId : Uuid
  credentialId : Uuid
  current : Text
  candidate : Text
deriving DecidableEq

inductive Begun where
  | returned (job : RotationJob)
  | started (rotation : Rotation)
deriving DecidableEq

def runningJob (now : Int) (token : Text) (job : RotationJob) : RotationJob :=
  { job with
    status := .running
    startedAt := some now
    encryptedCandidateSecret := token
    candidateEncryptionKeyId := activeKeyId }

theorem runningJob_id (now : Int) (token : Text) (job : RotationJob) :
    (runningJob now token job).id = job.id :=
  rfl

/- `VaultCipher().encrypt(secret)`. -/
def encrypt (site : Site) (secret : Text) : Except Failure Text :=
  match site.services.keyring.encrypt secret with
  | .ok token => .ok token
  | .error _ => .error .keyringError

/- The first transaction of `execute_rotation`. -/
def beginRotation (site : Site) (moment : Moment) (registry : BackendRegistry) (fresh : Text)
    (jobId : Uuid) (db : Database) : Except Failure (Begun × Database) := do
  let job ← found (db.rotationJobs.get jobId) .doesNotExist
  let credential ← found (db.credentials.get job.credentialId) .doesNotExist
  if job.status ≠ .pending ∨ job.scheduledFor > moment.now
  then return (.returned job, db)
  else
    match prepareRotation site registry fresh job credential with
    | .error error =>
      let (finished, after) ← finishWithoutRotation site moment job.id error.status error.report db
      return (.returned finished, after)
    | .ok (current, candidate) =>
      let token ← encrypt site candidate
      return (.started
        { jobId := job.id
          credentialId := job.credentialId
          current := current
          candidate := candidate },
        { db with
          rotationJobs := db.rotationJobs.modify job.id (runningJob moment.now token)
            (runningJob_id moment.now token) })

---- Completing

def rotatedCredential (now : Int) (job : RotationJob) (credential : Credential) : Credential :=
  { credential with
    encryptedSecret := job.encryptedCandidateSecret
    secretEncryptionKeyId := job.candidateEncryptionKeyId
    keyVersion := credential.keyVersion + 1
    lastRotatedAt := some now
    lastRotationStatus := .succeeded
    rotationFailureCount := 0
    nextRotationAt :=
      match effectiveRotationIntervalDays credential with
      | some interval =>
        if automaticRotationEnabled credential ∧ interval ≠ 0 then some (now + days interval)
        else none
      | none => none }

theorem rotatedCredential_id (now : Int) (job : RotationJob) (credential : Credential) :
    (rotatedCredential now job credential).id = credential.id :=
  rfl

def succeededJob (now : Int) (keyVersion : Nat) (job : RotationJob) : RotationJob :=
  { job with
    status := .succeeded
    completedAt := some now
    newKeyVersion := some keyVersion
    encryptedCandidateSecret := []
    errorCode := []
    errorMessage := [] }

theorem succeededJob_id (now : Int) (keyVersion : Nat) (job : RotationJob) :
    (succeededJob now keyVersion job).id = job.id :=
  rfl

def rotated (now : Int) (job : RotationJob) (credential : Credential) (db : Database) : Database :=
  { db with
    credentials :=
      db.credentials.modify credential.id (rotatedCredential now job) (rotatedCredential_id now job)
    rotationJobs := db.rotationJobs.modify job.id (succeededJob now (credential.keyVersion + 1))
      (succeededJob_id now (credential.keyVersion + 1)) }

def successMetadata (job : RotationJob) (credential : Credential) : Json :=
  .obj [("credential_id", .str (Uuid.str credential.id)),
    ("previous_key_version", .int job.previousKeyVersion),
    ("new_key_version", .int (credential.keyVersion + 1)), ("backend", .str job.backend)]

/- The last transaction of `execute_rotation`. -/
def completeRotation (site : Site) (moment : Moment) (rotation : Rotation) (db : Database) :
    Except Failure (RotationJob × Database) := do
  let job ← found (db.rotationJobs.get rotation.jobId) .doesNotExist
  let credential ← found (db.credentials.get rotation.credentialId) .doesNotExist
  require (job.status = .running) (.validationError "Rotation job is no longer running")
  let after ← (rotated moment.now job credential db).recordEvent site moment job.requestedBy
    "credential.rotation_succeeded"
    jobResourceType (Uuid.str job.id)
    (successMetadata job credential) none
  return (succeededJob moment.now (credential.keyVersion + 1) job, after)

---- What The Transactions Do

variable {site : Site} {moment : Moment} {db after : Database} {jobId : Uuid} {job : RotationJob}

theorem isActive_iff : isActive job = true ↔ job.status = .pending ∨ job.status = .running := by
  exact decide_eq_true_iff

theorem activeJob_eq_none_iff {credentialId : Uuid} : activeJob credentialId db = none ↔
    ∀ job ∈ db.rotationJobs.rows, job.credentialId = credentialId → isActive job = false := by
  unfold activeJob
  simp

theorem queueRotation_eq_ok {call : QueueCall} {result : RotationJob × Bool}
    (hQueue : queueRotation site moment call db = .ok (result, after)) :
    after = db ∨ ∃ credential jobs audit, db.credentials.get call.credentialId = some credential ∧
      activeJob credential.id db = none ∧
      db.rotationJobs.insert (queuedJob moment.now call credential) = some jobs ∧ after = { db with
          rotationJobs := jobs
          audit := audit } := by
  rcases found_bind_eq_ok_iff.mp hQueue with ⟨credential, hCredential, hQueue⟩
  split at hQueue
  · exact .inl (return_eq_ok_iff.mp hQueue).2.symm
  · rename_i hNone
    rcases found_bind_eq_ok_iff.mp hQueue with ⟨jobs, hJobs, hQueue⟩
    rcases recordEvent_bind_eq_ok hQueue with ⟨_, audit, hAfter⟩
    exact .inr ⟨credential, jobs, audit, hCredential, hNone, hJobs, hAfter⟩

variable {result : RotationJob}

theorem finishWithoutRotation_eq_ok {status : JobStatus} {error : BackendError}
    (hFinish : finishWithoutRotation site moment jobId status error db = .ok (result, after)) :
    after = db ∨ ∃ job audit, db.rotationJobs.get jobId = some job ∧ isActive job = true ∧ after =
      { postponed moment.now status error job db with audit := audit } := by
  unfold finishWithoutRotation at hFinish
  simp only [found_bind_eq_ok_iff] at hFinish
  rcases hFinish with ⟨job, hJob, _, _, hFinish⟩
  split at hFinish
  · exact .inl (return_eq_ok_iff.mp hFinish).2.symm
  · rename_i hActive
    rcases recordEvent_bind_eq_ok hFinish with ⟨_, audit, hAfter⟩
    exact .inr ⟨job, audit, hJob, by simpa using hActive, hAfter⟩

/- Beginning at most finishes the job, or stores the token of a candidate on a pending job. -/
theorem beginRotation_eq_ok {registry : BackendRegistry} {fresh : Text} {result : Begun}
    (hBegin : beginRotation site moment registry fresh jobId db = .ok (result, after)) :
    (∃ job, result = .returned job ∧ (after = db ∨
      ∃ error finished pending, db.rotationJobs.get jobId = some pending ∧
        pending.status = .pending ∧
        finishWithoutRotation site moment jobId (PreparationError.status error)
          (PreparationError.report error) db = .ok (finished, after))) ∨
      ∃ job current candidate token, result = .started
        { jobId := jobId
          credentialId := job.credentialId
          current := current
          candidate := candidate } ∧
        db.rotationJobs.get jobId = some job ∧
        job.status = .pending ∧
        encrypt site candidate = .ok token ∧
        after =
          { db with
            rotationJobs := db.rotationJobs.modify jobId (runningJob moment.now token)
              (runningJob_id moment.now token) } := by
  rcases found_bind_eq_ok_iff.mp hBegin with ⟨job, hJob, hBegin⟩
  rcases found_bind_eq_ok_iff.mp hBegin with ⟨credential, _, hBegin⟩
  have hId : job.id = jobId := (Table.get_eq_some_iff.mp hJob).2
  split at hBegin
  · rw [return_eq_ok_iff] at hBegin
    exact .inl ⟨job, hBegin.1.symm, .inl hBegin.2.symm⟩
  rename_i hDue
  have hPending : job.status = .pending := by
    by_contra hOther
    exact hDue (.inl hOther)
  split at hBegin
  · rename_i error hError
    rcases bind_eq_ok_iff.mp hBegin with ⟨⟨finished, written⟩, hFinish, hBegin⟩
    rcases hBegin with ⟨rfl, rfl⟩
    rw [hId] at hFinish
    exact .inl ⟨finished, rfl, .inr ⟨error, finished, job, hJob, hPending, hFinish⟩⟩
  · rename_i current candidate hPrepare
    rcases bind_eq_ok_iff.mp hBegin with ⟨token, hToken, hBegin⟩
    rw [return_eq_ok_iff] at hBegin
    rw [hId] at hBegin
    exact .inr ⟨job, current, candidate, token, hBegin.1.symm, hJob, hPending, hToken,
      hBegin.2.symm⟩

variable {rotation : Rotation}

theorem completeRotation_eq_ok
    (hComplete : completeRotation site moment rotation db = .ok (result, after)) :
    ∃ job credential audit, db.rotationJobs.get rotation.jobId = some job ∧
      db.credentials.get rotation.credentialId = some credential ∧ job.status = .running ∧ after =
        { rotated moment.now job credential db with audit := audit } := by
  unfold completeRotation at hComplete
  simp only [found_bind_eq_ok_iff, require_bind_eq_ok_iff] at hComplete
  rcases hComplete with ⟨job, hJob, credential, hCredential, hRunning, hComplete⟩
  rcases recordEvent_bind_eq_ok hComplete with ⟨_, audit, hAfter⟩
  exact ⟨job, credential, audit, hJob, hCredential, hRunning, hAfter⟩

---- While Events Can Be Signed

section Signing

variable {credential : Credential} (hSigns : site.CanSign)
include hSigns

theorem queueRotation_of_canSign (call : QueueCall)
    (hCredential : db.credentials.get call.credentialId = some credential)
    (hNone : activeJob credential.id db = none) (hFree : db.rotationJobs.get call.jobId = none)
    (moment : Moment) :
    ∃ jobs audit, db.rotationJobs.insert (queuedJob moment.now call credential) = some jobs ∧
      queueRotation site moment call db = .ok ((queuedJob moment.now call credential, true),
        { db with rotationJobs := jobs, audit := audit }) := by
  rcases (@Table.exists_insert_iff _ _ _ _ db.rotationJobs
    (queuedJob moment.now call credential)).mpr hFree with ⟨jobs, hInsert⟩
  refine ⟨jobs, ?_⟩
  unfold queueRotation
  simp only [hCredential, found_some_bind, hNone, hInsert, true_and]
  exact recordEvent_bind_of_canSign hSigns _

theorem completeRotation_of_canSign (hJob : db.rotationJobs.get rotation.jobId = some job)
    (hCredential : db.credentials.get rotation.credentialId = some credential)
    (hRunning : job.status = .running) (moment : Moment) :
    ∃ audit, completeRotation site moment rotation db =
      .ok (succeededJob moment.now (credential.keyVersion + 1) job,
        { rotated moment.now job credential db with audit := audit }) := by
  unfold completeRotation
  rw [hJob, hCredential, found_some_bind, found_some_bind, require_bind_of hRunning]
  exact recordEvent_bind_of_canSign hSigns _

theorem finishWithoutRotation_of_canSign (hJob : db.rotationJobs.get jobId = some job)
    (hCredential : db.credentials.get job.credentialId = some credential)
    (hActive : isActive job = true) (moment : Moment) (status : JobStatus) (error : BackendError) :
    ∃ audit, finishWithoutRotation site moment jobId status error db =
      .ok (finishedJob moment.now status error job,
        { postponed moment.now status error job db with audit := audit }) := by
  unfold finishWithoutRotation
  rw [hJob, found_some_bind, hCredential, found_some_bind, if_neg (by simp [hActive])]
  exact recordEvent_bind_of_canSign hSigns _

end Signing

end PamOlive.Operations
