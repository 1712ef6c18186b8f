import PamOlive.Sessions.Services

/-
  The internal endpoints the gateway calls.

  Each step of a request commits what it wrote. The exceptions of the `except` clauses are answered
  with status 403, the others are not caught. A request holds the outcome of
  `_authenticated_payload`, and an encrypted envelope is kept with its key and the second it was
  sealed at.
-/

---- Envelopes

namespace PamOlive.Api

open Foundations Vault Sessions

/- What depends on the protocol of the target. -/
inductive EnvelopeDetails where
  | ssh (knownHosts hostKeyPolicy : Text) (commandDenyPatterns commandAlertPatterns : List Text)
  | rdp (domain rdpSecurity rdpCertificateFingerprints : Text)
    (rdpServerLayout rdpResizeMethod : Text)
    (allowClipboardCopy allowClipboardPaste : Bool)
deriving DecidableEq

structure Envelope where
  sessionId : Text
  pamUserId : Text
  protocol : Text
  host : Text
  port : Nat
  username : Text
  credentialKind : Text
  secret : Text
  expiresAt : Option Int
  leaseId : Text
  details : EnvelopeDetails
deriving DecidableEq

/- An encrypted envelope, with its Fernet timestamp. -/
structure SealedEnvelope where
  sharedKey : Text
  sealedAt : Int
  content : Envelope
deriving DecidableEq

/- `encrypt_envelope`; a short key is refused. -/
def encryptEnvelope (sharedKey : Text) (now : Int)
    (content : Envelope) : Except Failure SealedEnvelope := do
  require (32 ≤ sharedKey.length) .valueError
  return ⟨sharedKey, now / 1000000, content⟩

/- `decrypt_envelope`, with its time to live of 60 seconds. -/
def decryptEnvelope (sharedKey : Text) (now : Int)
    (envelope : SealedEnvelope) : Except Failure Envelope := do
  require (32 ≤ sharedKey.length) .valueError
  require (sharedKey = envelope.sharedKey) .valueError
  require (now / 1000000 ≤ envelope.sealedAt + 60 ∧ envelope.sealedAt ≤ now / 1000000 + 60)
    .valueError
  return envelope.content

structure AuthorizePayload where
  sessionId : Text
  ticket : Text
  sourceIp : Option IpText

/- A request, with the address it comes from and the fresh values its lease uses. -/
structure AuthorizeRequest where
  payload : Except Failure AuthorizePayload
  clientIp : Option IpText
  leaseId : Uuid
  leaseToken : Text

inductive Response (α : Type) where
  | success (content : α)
  | forbidden
  | raised (failure : Failure)
deriving DecidableEq

def isCaught : Failure → Bool
| .permissionDenied _ => true
| .validationError _ => true
| .valueError => true
| _ => false

def refuse {α : Type} (failure : Failure) : Response α :=
  if isCaught failure then .forbidden else .raised failure

---- Opening An Envelope

section

variable (session : PrivilegedSession) (db : Database)

def heldCredential : Except Failure Credential := do
  let credentialId ← found session.credentialId
    (.permissionDenied "Aucun identifiant n’est lié à cette session.")
  found (db.credentials.get credentialId) .doesNotExist

/- `session.policy`. -/
def heldPolicy : Except Failure AccessPolicy := do
  let policyId ← found session.policyId .doesNotExist
  found (db.policies.get policyId) .doesNotExist

end

/- The pattern of a host in a `known_hosts` file. -/
def hostPattern (target : Target) : Text :=
  if target.port = 22 then target.hostname
  else 91 :: (target.hostname ++ 93 :: 58 :: Text.decimal target.port)

def knownHosts (target : Target) (db : Database) : Text :=
  (db.hostKeys.filter
    (fun hostKey => decide (hostKey.targetId = target.id ∧ hostKey.revokedAt = none))).flatMap
    (fun hostKey => hostPattern target ++ 32 :: (hostKey.publicKey ++ [10]))

def sshDetails (session : PrivilegedSession) (target : Target)
    (db : Database) : Except Failure EnvelopeDetails := do
  require (knownHosts target db = [] → target.sshHostKeyPolicy ≠ .strict)
    (.permissionDenied "Aucune clé d’hôte active n’est disponible.")
  let policy ← heldPolicy session db
  return .ssh (knownHosts target db) target.sshHostKeyPolicy.text policy.commandDenyPatterns
    policy.commandAlertPatterns

/- `(domain.dns_name or domain.name) if domain else ""`. -/
def domainName : Option Domain → Text
| some domain =>
  if domain.dnsName = [] then domain.name
  else domain.dnsName
| none => []

section

variable (session : PrivilegedSession) (target : Target) (credential : Credential) (db : Database)

def rdpDetails : Except Failure EnvelopeDetails := do
  require (credential.kind = .password)
    (.permissionDenied "RDP requiert un identifiant de type mot de passe.")
  let policy ← heldPolicy session db
  return .rdp (domainName credential.domain) target.rdpSecurity target.rdpCertificateFingerprints
    target.rdpServerLayout target.rdpResizeMethod
    policy.allowClipboardCopy policy.allowClipboardPaste

def envelopeDetails : Except Failure EnvelopeDetails :=
  match target.protocol with
  | .ssh => sshDetails session target db
  | .rdp => rdpDetails session target credential db
  | _ =>
    .error (.permissionDenied "Le protocole de session n'est pas pris en charge.")

end

def sealEnvelope (site : Site) (now : Int) (session : PrivilegedSession) (credential : Credential)
    (leaseId : Uuid) (secret : Text) (db : Database) : Except Failure SealedEnvelope := do
  let target ← found (db.targets.get session.targetId) .doesNotExist
  let details ← envelopeDetails session target credential db
  encryptEnvelope site.sharedKey now
    { sessionId := Uuid.str session.id
      pamUserId := Text.decimal session.userId
      protocol := target.protocol.text
      host := target.hostname
      port := target.port
      username := credential.username
      credentialKind := credential.kind.text
      secret := secret
      expiresAt := session.expiresAt
      leaseId := Uuid.str leaseId
      details := details }

/- The lease an authorization asks for: no MFA timestamp. -/
def sessionLeaseCall
    (request : AuthorizeRequest) (sourceIp : Option IpText) (session : PrivilegedSession)
    (credential : Credential) : LeaseCall where
  user := session.userId
  credentialId := credential.id
  justification := session.justification
  purpose := .session
  lifetimeSeconds := 30
  sourceIp := sourceIp
  mfaVerifiedAt := none
  leaseId := request.leaseId
  token := request.leaseToken

section

variable (site : Site) (moment : Moment)

/- The steps after the ticket was consumed. -/
def openEnvelope (request : AuthorizeRequest)
    (sourceIp : Option IpText) (session : PrivilegedSession) :
    Database → Except Failure SealedEnvelope × Database :=
  andThen (reading (heldCredential session)) fun credential =>
  andThen (issueSecretLease site moment (sessionLeaseCall request sourceIp session credential))
    fun lease =>
  andThen (commit
    (consumeSecretLease site moment request.leaseToken (some session.userId) (some .session)))
    fun consumed =>
  reading (sealEnvelope site moment.now session credential lease.id consumed.2)

---- Authorization

def closeRefused (sessionId : Uuid) (db : Database) : Response SealedEnvelope × Database :=
  match commit (closeSession site moment sessionId none "gateway_authorization_failed" true) db with
  | (.ok _, after) => (.forbidden, after)
  | (.error failure, after) => (.raised failure, after)

def answerConsumed (request : AuthorizeRequest)
    (sourceIp : Option IpText) (session : PrivilegedSession)
    (db : Database) : Response SealedEnvelope × Database :=
  match openEnvelope site moment request sourceIp session db with
  | (.ok envelope, after) => (.success envelope, after)
  | (.error failure, after) =>
    if isCaught failure then closeRefused site moment session.id after
    else (.raised failure, after)

end

def redemptionAddress (request : AuthorizeRequest) (payload : AuthorizePayload) : Option IpText :=
  payload.sourceIp.or request.clientIp

def gatewayAuthorize (site : Site) (moment : Moment) (request : AuthorizeRequest)
    (db : Database) : Response SealedEnvelope × Database :=
  match request.payload with
  | .error failure => (refuse failure, db)
  | .ok payload =>
    match Uuid.parse payload.sessionId with
    | none => (.forbidden, db)
    | some sessionId =>
      match db.sessions.get sessionId with
      | none => (.raised .doesNotExist, db)
      | some row =>
        match commit (consumeSessionTicket site moment sessionId payload.ticket row.userId
          (redemptionAddress request payload))
          db with
        | (.error failure, after) => (refuse failure, after)
        | (.ok session, after) =>
          answerConsumed site moment request (redemptionAddress request payload) session after

variable {failure : Failure}

theorem refuse_ne_success {α : Type} {content : α} : refuse failure ≠ Response.success content := by
  unfold refuse
  split <;> simp

variable {site : Site} {moment : Moment} {request : AuthorizeRequest} {db : Database}
variable {payload : AuthorizePayload} {sessionId : Uuid} {row session : PrivilegedSession}
variable {after : Database}

section

variable (hPayload : request.payload = .ok payload)
  (hParse : Uuid.parse payload.sessionId = some sessionId)
  (hRow : db.sessions.get sessionId = some row)

include hPayload hParse hRow

theorem gatewayAuthorize_of_consumed
    (hConsume : consumeSessionTicket site moment sessionId payload.ticket row.userId
      (redemptionAddress request payload) db = .ok (session, after)) :
    gatewayAuthorize site moment request db =
      answerConsumed site moment request (redemptionAddress request payload) session after := by
  unfold gatewayAuthorize
  simp only [hPayload, hParse, hRow, commit_eq_ok_iff.mpr hConsume]

theorem gatewayAuthorize_of_refused
    (hConsume : consumeSessionTicket site moment sessionId payload.ticket row.userId
      (redemptionAddress request payload) db = .error failure) :
    gatewayAuthorize site moment request db = (refuse failure, db) := by
  unfold gatewayAuthorize
  simp only [hPayload, hParse, hRow, commit_eq_error_iff.mpr ⟨hConsume, rfl⟩]

end

theorem answerConsumed_eq_success_iff {sourceIp : Option IpText} {envelope : SealedEnvelope} :
    answerConsumed site moment request sourceIp session db = (.success envelope, after) ↔
      openEnvelope site moment request sourceIp session db = (.ok envelope, after) := by
  unfold answerConsumed
  rcases openEnvelope site moment request sourceIp session db with ⟨failure | opened, middle⟩
  · dsimp only
    unfold closeRefused
    split
    · split <;> simp
    · simp
  · simp

---- Close Reports

/- The fields of a close report, after their defaults. -/
structure CloseReport where
  sessionId : Text
  outcome : Text
  reason : Text
  recordingReference : Text
  recordingSha256 : Text
  bytesIn : Int
  bytesOut : Int

structure CloseRequest where
  payload : Except Failure CloseReport
  clientIp : Option IpText

/- `[0-9a-fA-F-]`. -/
def isHexOrDash (point : CodePoint) : Bool :=
  decide (point = 45) || (Uuid.hexDigitValue point).isSome

/- `[0-9a-fA-F-]{36}\.pamrec`, on the whole text. -/
def isRecordingReference (reference : Text) : Bool :=
  decide ((reference.take 36).length = 36) && (reference.take 36).all isHexOrDash &&
    decide (reference.drop 36 = ".pamrec")

/- `[0-9a-f]{64}`, on the whole text. -/
def isSha256 (digest : Text) : Bool :=
  decide (digest.length = 64) && digest.all Text.isLowerHex

def recordedSession (now : Int) (reference : Text)
    (session : PrivilegedSession) : PrivilegedSession :=
  { session with recordingReference := reference, updatedAt := now }

theorem recordedSession_id (now : Int) (reference : Text) (session : PrivilegedSession) :
    (recordedSession now reference session).id = session.id :=
  rfl

def saveReference (now : Int) (reference : Text) (sessionId : Uuid) (db : Database) : Database :=
  { db with
    sessions := db.sessions.modify sessionId (recordedSession now reference)
      (recordedSession_id now reference) }

section

variable (site : Site) (moment : Moment)

/-
  Store a recording. The reference is saved before the digest is checked, and the sizes are
  converted once it is accepted.
-/
def sealRecording (clientIp : Option IpText) (reference sha256 : Text)
    (sizes : Except Failure (Int × Int)) (sessionId : Uuid) (db : Database) :
    Except Failure Unit × Database :=
  if reference = [] then (.ok (), db)
  else if isRecordingReference reference = false then
    (.error (.validationError "Référence d’enregistrement invalide."), db)
  else
    let saved := saveReference moment.now reference sessionId db
    if isSha256 sha256 = false then
      (.error (.validationError "Empreinte d’enregistrement invalide."), saved)
    else
      match sizes with
      | .error failure => (.error failure, saved)
      | .ok (bytesIn, bytesOut) =>
        match saved.recordEvent site moment none "session.recording_sealed"
          sessionResourceType (Uuid.str sessionId)
          (.obj [("sha256", .str sha256), ("bytes_in", .int (max 0 bytesIn)),
            ("bytes_out", .int (max 0 bytesOut))])
          clientIp with
        | .ok after => (.ok (), after)
        | .error failure => (.error failure, saved)

variable (request : CloseRequest)

def sealReport (report : CloseReport) : Uuid → Database → Except Failure Unit × Database :=
  sealRecording site moment request.clientIp (report.recordingReference.take 500)
    report.recordingSha256 (.ok (report.bytesIn, report.bytesOut))

def gatewayClose (db : Database) : Response Unit × Database :=
  match request.payload with
  | .error failure => (refuse failure, db)
  | .ok report =>
    match Uuid.parse report.sessionId with
    | none => (.forbidden, db)
    | some sessionId =>
      match db.sessions.get sessionId with
      | none => (.raised .doesNotExist, db)
      | some _ =>
        match andThen (sealReport site moment request report sessionId) (fun _ =>
            commit (closeSession site moment sessionId none (report.reason.take 255)
              (decide (report.outcome = "failed"))))
          db with
        | (.ok _, after) => (.success (), after)
        | (.error failure, after) => (refuse failure, after)

end

end PamOlive.Api
