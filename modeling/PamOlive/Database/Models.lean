import PamOlive.Audit.Services
import PamOlive.Foundations.Outcome
import PamOlive.Foundations.Table

/-
  The tables that access decisions and sessions work on.

  Many-to-many columns are given with their rows or keys. Instants are in microseconds. Only the
  columns that some function of this development reads or writes are kept.
-/

---- Targets And Credentials

namespace PamOlive

open Foundations Audit

inductive Protocol where
  | ssh | rdp | web | vnc | telnet | rawTcp
deriving DecidableEq

def Protocol.text : Protocol → Text
| .ssh => "ssh"
| .rdp => "rdp"
| .web => "web"
| .vnc => "vnc"
| .telnet => "telnet"
| .rawTcp => "raw_tcp"

inductive SSHHostKeyPolicy where
  | trustOnFirstUse | strict
deriving DecidableEq

def SSHHostKeyPolicy.text : SSHHostKeyPolicy → Text
| .trustOnFirstUse => "tofu"
| .strict => "strict"

structure Target where
  id : Uuid
  hostname : Text
  port : Nat
  protocol : Protocol
  sshHostKeyPolicy : SSHHostKeyPolicy
  enabled : Bool
  rdpSecurity : Text
  rdpCertificateFingerprints : Text
  rdpServerLayout : Text
  rdpResizeMethod : Text
deriving DecidableEq

structure TargetHostKey where
  targetId : Uuid
  publicKey : Text
  revokedAt : Option Int
  id : Uuid := 0
  keyType : Text := []
  fingerprintSha256 : Text := []
  comment : Text := []
  trustedBy : Option UserId := none
  revokedBy : Option UserId := none
deriving DecidableEq

structure TargetGroup where
  enabled : Bool
  targets : List Uuid
deriving DecidableEq

inductive CredentialKind where
  | password | sshKey | totp
deriving DecidableEq

def CredentialKind.text : CredentialKind → Text
| .password => "password"
| .sshKey => "ssh_key"
| .totp => "totp"

/- The names of the domain of a credential. -/
structure Domain where
  name : Text
  dnsName : Text
deriving DecidableEq

inductive AccountType where
  | localAccount | domain | service | application
deriving DecidableEq

inductive RotationStatus where
  | never | succeeded | failed | blocked
deriving DecidableEq

structure SecretRotationPolicy where
  id : Uuid
  enabled : Bool
  intervalDays : Nat
  connectorKey : Text
deriving DecidableEq

structure Credential where
  id : Uuid
  targetId : Uuid
  domain : Option Domain
  username : Text
  kind : CredentialKind
  encryptedSecret : Text
  secretEncryptionKeyId : Text
  encryptedTotpSecret : Option Text
  totpEncryptionKeyId : Text
  checkoutEnabled : Bool
  lastCheckedOutAt : Option Int
  name : Text := []
  accountType : AccountType := .localAccount
  keyVersion : Nat := 1
  rotationEnabled : Bool := false
  rotationIntervalDays : Option Nat := none
  rotationBackend : Text := []
  rotationPolicy : Option SecretRotationPolicy := none
  lastRotatedAt : Option Int := none
  nextRotationAt : Option Int := none
  lastRotationStatus : RotationStatus := .never
  rotationFailureCount : Nat := 0
deriving DecidableEq

inductive JobStatus where
  | pending | running | succeeded | failed | actionRequired | cancelled
deriving DecidableEq

structure RotationJob where
  id : Uuid
  credentialId : Uuid
  requestedBy : Option UserId
  reason : Text
  backend : Text
  status : JobStatus
  scheduledFor : Int
  startedAt : Option Int
  completedAt : Option Int
  previousKeyVersion : Nat
  newKeyVersion : Option Nat
  encryptedCandidateSecret : Text
  candidateEncryptionKeyId : Text
  errorCode : Text
  errorMessage : Text
deriving DecidableEq

---- Policies And Approvals

structure UserGroup where
  enabled : Bool
  users : List UserId
deriving DecidableEq

inductive Action where
  | requestAccess | startSession | viewSecret | revealTotp | approveRequest | manageTargets
deriving DecidableEq

/- A weekday is counted from Monday, a time from midnight. -/
structure TimeFrame where
  enabled : Bool
  weekdays : List Nat
  startTime : Option Nat
  endTime : Option Nat
  validFrom : Option Int
  validUntil : Option Int
deriving DecidableEq

structure AccessPolicy where
  id : Uuid
  enabled : Bool
  userGroups : List UserGroup
  targets : List Uuid
  targetGroups : List TargetGroup
  credentials : List Uuid
  timeFrames : List TimeFrame
  actions : List Action
  protocols : List Protocol
  requiresApproval : Bool
  requiresMfa : Bool
  maxDurationMinutes : Nat
  maxConcurrentSessions : Nat
  allowClipboardCopy : Bool
  allowClipboardPaste : Bool
  commandDenyPatterns : List Text
  commandAlertPatterns : List Text
  validFrom : Option Int
  validUntil : Option Int
  weekdays : List Nat
  accessStartTime : Option Nat
  accessEndTime : Option Nat
  sourceCidrs : List Text
  approverGroups : List UserGroup := []
  approvalQuorum : Nat := 1
deriving DecidableEq

inductive RequestStatus where
  | pending | approved | rejected | cancelled | expired
deriving DecidableEq

def RequestStatus.text : RequestStatus → Text
| .pending => "pending"
| .approved => "approved"
| .rejected => "rejected"
| .cancelled => "cancelled"
| .expired => "expired"

structure AccessRequest where
  id : Uuid
  requesterId : UserId
  targetId : Uuid
  policyId : Uuid
  requestedDurationMinutes : Nat
  status : RequestStatus
  decidedAt : Option Int
  updatedAt : Int
  decidedBy : Option UserId := none
  decisionComment : Text := []
deriving DecidableEq

inductive Decision where
  | approve | reject
deriving DecidableEq

structure ApprovalDecision where
  id : Uuid
  accessRequestId : Uuid
  approverId : UserId
  decision : Decision
  comment : Text
deriving DecidableEq

/- An approver decides a request at most once. -/
def ApprovalDecision.key (decision : ApprovalDecision) : Uuid × UserId :=
  (decision.accessRequestId, decision.approverId)

inductive MFAKind where
  | totp | webauthn
deriving DecidableEq

structure MFADevice where
  id : Uuid
  userId : UserId
  kind : MFAKind
  confirmed : Bool
  name : Text := []
  encryptedConfiguration : Text := []
  encryptionKeyId : Text := []
  lastUsedAt : Option Int := none
  lastAcceptedTotpCounter : Option Int := none
deriving DecidableEq

structure MFARecoveryCode where
  id : Uuid
  userId : UserId
  deviceId : Uuid
  codeHash : Text
  usedAt : Option Int
deriving DecidableEq

inductive Capability where
  | consoleAccess | configurationView | usersView | usersManage | groupsView | groupsManage
  | rolesView | rolesManage | identitySourcesView | identitySourcesManage | identitySourcesSync
  | targetsView | targetsManage | targetGroupsView | targetGroupsManage | domainsView
  | domainsManage | credentialsViewMetadata | credentialsManage | credentialsReveal
  | credentialsRotate | policiesView | policiesManage | approvalsView | approvalsDecide
  | auditView | auditExport | sessionsView | sessionsTerminate | sessionsJoin | systemView
  | systemManage
deriving DecidableEq

structure Role where
  id : Uuid
  enabled : Bool
  capabilities : List Capability
  userGroups : List UserGroup
deriving DecidableEq

structure RoleAssignment where
  userId : UserId
  roleId : Uuid
  validFrom : Int
  validUntil : Option Int
deriving DecidableEq

inductive SessionStatus where
  | created | active | terminating | closed | failed
deriving DecidableEq

def SessionStatus.text : SessionStatus → Text
| .created => "created"
| .active => "active"
| .terminating => "terminating"
| .closed => "closed"
| .failed => "failed"

structure PrivilegedSession where
  id : Uuid
  userId : UserId
  targetId : Uuid
  credentialId : Option Uuid
  policyId : Option Uuid
  accessRequestId : Option Uuid
  status : SessionStatus
  expiresAt : Option Int
  startedAt : Option Int
  endedAt : Option Int
  lastActivityAt : Option Int
  clientIp : Option IpText
  justification : Text
  recordingReference : Text
  terminationReason : Text
  terminationRequestedAt : Option Int
  terminationRequestedBy : Option UserId
  updatedAt : Int
deriving DecidableEq

/- A ticket belongs to one session, which is its key here. -/
structure SessionTicket where
  sessionId : Uuid
  tokenHash : Text
  expiresAt : Int
  consumedAt : Option Int
  revokedAt : Option Int
  sourceIp : Option IpText
deriving DecidableEq

inductive LeasePurpose where
  | reveal | session | rotation
deriving DecidableEq

def LeasePurpose.text : LeasePurpose → Text
| .reveal => "reveal"
| .session => "session"
| .rotation => "rotation"

/- A lease is looked up by its unique token hash. -/
structure SecretLease where
  id : Uuid
  credentialId : Uuid
  userId : UserId
  policyId : Uuid
  accessRequestId : Option Uuid
  purpose : LeasePurpose
  tokenHash : Text
  expiresAt : Int
  maxUses : Nat
  useCount : Nat
  consumedAt : Option Int
  revokedAt : Option Int
  sourceIp : Option IpText
  justification : Text
deriving DecidableEq

structure Database where
  targets : Table Target.id
  credentials : Table Credential.id
  policies : Table AccessPolicy.id
  hostKeys : List TargetHostKey
  accessRequests : List AccessRequest
  mfaDevices : List MFADevice
  sensitiveWindowMinutes : Option Nat
  sessions : Table PrivilegedSession.id
  tickets : Table SessionTicket.sessionId
  leases : Table SecretLease.tokenHash
  audit : AuditLog
  roles : List Role := []
  roleAssignments : List RoleAssignment := []
  decisions : Table ApprovalDecision.key := .empty
  rotationJobs : Table RotationJob.id := .empty
  recoveryCodes : List MFARecoveryCode := []
  requireMfaForAllUsers : Bool := true

/-
  The exceptions of requests. `valueError` is also `GatewayProtocolError`, and `doesNotExist`
  `Http404`.
-/
inductive Failure where
  | permissionDenied (message : Text)
  | validationError (message : Text)
  | valueError | doesNotExist | integrityError | keyringError | vaultError
  | runtimeError (message : Text)
  | multipleObjectsReturned | typeError
deriving DecidableEq

structure IpAddress where
  version : Nat
  value : Nat
deriving DecidableEq

/- A network: addresses that agree above the host bits. -/
structure IpNetwork where
  version : Nat
  value : Nat
  hostBits : Nat
deriving DecidableEq

def dayLength : Nat := 24 * 60 * 60 * 1000000

/- `timezone.localtime`: the number of the day, and the time in it. -/
structure LocalTime where
  toordinal : Nat
  time : Nat
deriving DecidableEq

/- Monday is 0. -/
def LocalTime.weekday (localAt : LocalTime) : Nat := (localAt.toordinal + 6) % 7

/- Two local times of one time zone are compared as the clock shows them, not as instants. -/
def LocalTime.wallClock (localAt : LocalTime) : Int :=
  localAt.toordinal * dayLength + localAt.time

/- Settings of an installation and what it calls outside. -/
structure Site where
  services : Services
  parseAddress : Text → Option IpAddress
  parseNetwork : Text → Option IpNetwork
  localTime : Int → LocalTime
  rdpEnabled : Bool
  sharedKey : Text
  encryptToken : Text → Text

/- The clock, and for each number of the audit chain the key and timestamp of its event. -/
structure Moment where
  now : Int
  eventKey : Nat → Uuid
  eventTime : Nat → DateTime

def seconds (count : Nat) : Int := count * 1000000

def minutes (count : Nat) : Int := seconds (60 * count)

---- Audit

/- Every signature the keyring is asked for is made. -/
def Site.CanSign (site : Site) : Prop :=
  ∀ text, ∃ signature, site.services.keyring.sign text = .ok signature

namespace Database

/- `record_event(...)` in a transaction on the database. -/
def recordEvent (site : Site) (moment : Moment) (actor : Option UserId)
    (action resourceType resourceId : Text) (metadata : Json) (sourceIp : Option IpText)
    (db : Database) : Except Failure Database :=
  let number := db.audit.chain.lastSequence + 1
  match Audit.recordEvent site.services
    { id := moment.eventKey number
      occurredAt := moment.eventTime number
      actor := actor
      action := action
      resourceType := resourceType
      resourceId := resourceId
      sourceIp := sourceIp
      metadata := metadata }
    db.audit with
  | .ok (_, audit) => .ok { db with audit := audit }
  | .error _ => .error .keyringError

variable {site : Site} {moment : Moment} {actor : Option UserId}
variable {action resourceType resourceId : Text} {metadata : Json} {sourceIp : Option IpText}
variable {db after : Database}

theorem recordEvent_eq_ok (hRecord : db.recordEvent site moment actor action resourceType
    resourceId metadata sourceIp = .ok after) :
    ∃ audit, after = { db with audit := audit } := by
  unfold recordEvent at hRecord
  dsimp only at hRecord
  split at hRecord
  · rename_i event audit hOk
    cases hRecord
    exact ⟨audit, rfl⟩
  · cases hRecord

theorem recordEvent_bind_eq_ok {α : Type} {value result : α}
    (hEnd : (db.recordEvent site moment actor action resourceType resourceId metadata sourceIp >>=
      fun recorded => pure (value, recorded)) = .ok (result, after)) :
    value = result ∧ ∃ audit, after = { db with audit := audit } := by
  rcases bind_eq_ok_iff.mp hEnd with ⟨recorded, hRecord, hReturn⟩
  rcases return_eq_ok_iff.mp hReturn with ⟨hValue, rfl⟩
  exact ⟨hValue, recordEvent_eq_ok hRecord⟩

theorem recordEvent_eq_error {failure : Failure}
    (hRecord : db.recordEvent site moment actor action resourceType
      resourceId metadata sourceIp = .error failure) :
    failure = .keyringError := by
  unfold recordEvent at hRecord
  dsimp only at hRecord
  split at hRecord
  · cases hRecord
  · cases hRecord
    rfl

theorem recordEvent_ne_denied {message : Text} : db.recordEvent site moment actor action
    resourceType resourceId metadata sourceIp ≠ .error (.permissionDenied message) :=
  fun hDenied => nomatch recordEvent_eq_error hDenied

/- The event can be recorded: the keyring signs it. -/
def CanRecord (site : Site) (moment : Moment) (actor : Option UserId)
    (action resourceType resourceId : Text) (metadata : Json) (sourceIp : Option IpText)
    (db : Database) : Prop :=
  ∃ after,
    db.recordEvent site moment actor action resourceType resourceId metadata sourceIp = .ok after

variable {db' : Database}

theorem CanRecord.recordEvent (hAudit : db'.audit = db.audit)
    (hCan : db.CanRecord site moment actor action resourceType resourceId metadata sourceIp) :
    ∃ after, db'.recordEvent site moment actor action resourceType
      resourceId metadata sourceIp = .ok after := by
  rcases hCan with ⟨after, hRecord⟩
  unfold Database.recordEvent at hRecord ⊢
  rw [hAudit]
  dsimp only at hRecord ⊢
  split at hRecord
  · exact ⟨_, rfl⟩
  · cases hRecord

theorem CanRecord.of_recordEvent (hRecord : db'.recordEvent site moment actor action resourceType
      resourceId metadata sourceIp = .ok after)
    (hAudit : db.audit = db'.audit) :
    db.CanRecord site moment actor action resourceType resourceId metadata sourceIp :=
  CanRecord.recordEvent hAudit ⟨after, hRecord⟩

theorem recordEvent_of_canSign (hSign : site.CanSign)
    (moment : Moment) (actor : Option UserId) (action resourceType resourceId : Text)
    (metadata : Json) (sourceIp : Option IpText) (db : Database) :
    ∃ audit, db.recordEvent site moment actor action resourceType resourceId metadata sourceIp =
      .ok { db with audit := audit } := by
  unfold recordEvent Audit.recordEvent
  dsimp only
  generalize EventCall.eventHash _ _ _ = hash
  rcases hSign hash with ⟨signature, hSignature⟩
  rw [hSignature]
  exact ⟨_, rfl⟩

theorem recordEvent_bind_of_canSign {α : Type} (hSign : site.CanSign) (value : α) :
    ∃ audit, (db.recordEvent site moment actor action resourceType resourceId metadata sourceIp >>=
      fun recorded => pure (value, recorded)) = .ok (value, { db with audit := audit }) := by
  rcases recordEvent_of_canSign hSign moment actor action resourceType resourceId metadata
    sourceIp db with ⟨audit, hRecord⟩
  exact ⟨audit, bind_eq_ok_iff.mpr ⟨_, hRecord, rfl⟩⟩

end Database

end PamOlive
