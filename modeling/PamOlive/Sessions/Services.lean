import PamOlive.Vault.Leases

/-
  Privileged sessions and their tickets.

  Each function is one transaction: a result with the new database, or a failure. Rows that the
  caller looks up are looked up here.
-/

---- Counting Sessions

namespace PamOlive.Sessions

open Foundations Vault

structure QuotaKey where
  user : UserId
  targetId : Uuid
  policyId : Uuid
deriving DecidableEq

def QuotaKey.includes (key : QuotaKey) (session : PrivilegedSession) : Bool :=
  decide (session.userId = key.user ∧ session.targetId = key.targetId ∧
    session.policyId = some key.policyId)

def isOpen (session : PrivilegedSession) : Bool :=
  decide (session.status = .active ∨ session.status = .terminating)

/- An unexpired, unconsumed and unrevoked ticket. -/
def isLive (now : Int) (ticket : SessionTicket) : Bool :=
  decide (now < ticket.expiresAt ∧ ticket.consumedAt = none ∧ ticket.revokedAt = none)

/- A session that waits for a live ticket. -/
def isReserved (tickets : Table SessionTicket.sessionId) (now : Int)
    (session : PrivilegedSession) : Bool :=
  decide (session.status = .created) && (tickets.get session.id).any (isLive now)

/- The sessions `_active_session_count` counts. -/
def occupies (key : QuotaKey) (tickets : Table SessionTicket.sessionId) (now : Int)
    (session : PrivilegedSession) : Bool :=
  key.includes session && (isOpen session || isReserved tickets now session)

def activeSessionCount (key : QuotaKey) (now : Int) (db : Database) : Nat :=
  db.sessions.rows.countP (occupies key db.tickets now)

def quotaReached : Failure :=
  .permissionDenied "Le nombre maximal de sessions simultanées est atteint."

/- The same refusal as `start_web_session` spells it. -/
def webQuotaReached : Failure :=
  .permissionDenied "Le nombre maximal de sessions simultanÃ©es est atteint."

---- Opening Sessions

def sessionResourceType : Text := "privileged_sessions.privilegedsession"

def openingMetadata (credential : Credential) (target : Target) (policyId : Uuid)
    (justification : Text) : Json :=
  .obj [("credential_id", .str (Uuid.str credential.id)), ("policy_id", .str (Uuid.str policyId)),
    ("protocol", .str target.protocol.text), ("justification", .str justification)]

/- The arguments of an opening, with the fresh values. -/
structure OpenCall where
  user : UserId
  credentialId : Uuid
  justification : Text
  lifetimeSeconds : Nat
  sourceIp : Option IpText
  mfaVerifiedAt : Option Int
  sessionId : Uuid
  token : Text

def hasActiveHostKey (targetId : Uuid) (db : Database) : Bool :=
  db.hostKeys.any (fun hostKey => decide (hostKey.targetId = targetId ∧ hostKey.revokedAt = none))

/- The minutes a policy and an approval allow. -/
def allowedDuration (policy : AccessPolicy) (accessRequest : Option AccessRequest) : Nat :=
  match accessRequest with
  | some request => min policy.maxDurationMinutes request.requestedDurationMinutes
  | none => policy.maxDurationMinutes

/- The authorizing policy with a free place under its quota, and the duration it allows. -/
def reservePlace (site : Site) (moment : Moment) (call : OpenCall) (refusal : Failure)
    (credential : Credential) (target : Target) (db : Database) :
    Except Failure (AccessPolicy × Option AccessRequest × Nat) := do
  let (authorizing, accessRequest) ←
    authorizingPolicyFor site moment.now call.user credential target .startSession call.sourceIp
      call.mfaVerifiedAt db
  let policy ← found (db.policies.get authorizing.id) .doesNotExist
  require (activeSessionCount ⟨call.user, target.id, policy.id⟩
    moment.now db < policy.maxConcurrentSessions)
    refusal
  return (policy, accessRequest, allowedDuration policy accessRequest)

def newSession (moment : Moment) (call : OpenCall) (credential : Credential) (policy : AccessPolicy)
    (accessRequest : Option AccessRequest) (duration : Nat)
    (justification : Text) : PrivilegedSession where
  id := call.sessionId
  userId := call.user
  targetId := credential.targetId
  credentialId := some credential.id
  policyId := some policy.id
  accessRequestId := accessRequest.map AccessRequest.id
  status := .created
  expiresAt := some (moment.now + minutes duration)
  startedAt := none
  endedAt := none
  lastActivityAt := none
  clientIp := call.sourceIp
  justification := justification
  recordingReference := []
  terminationReason := []
  terminationRequestedAt := none
  terminationRequestedBy := none
  updatedAt := moment.now

def openedSession (now : Int) (session : PrivilegedSession) : PrivilegedSession :=
  { session with
    status := .active
    startedAt := some now
    lastActivityAt := some now
    updatedAt := now }

theorem openedSession_id (now : Int) (session : PrivilegedSession) :
    (openedSession now session).id = session.id :=
  rfl

def newTicket (site : Site) (moment : Moment) (call : OpenCall) : SessionTicket where
  sessionId := call.sessionId
  tokenHash := site.services.sha256 call.token
  expiresAt := moment.now + seconds call.lifetimeSeconds
  consumedAt := none
  revokedAt := none
  sourceIp := call.sourceIp

def insertTicket (ticket : SessionTicket) (db : Database) :
    Except Failure (Table SessionTicket.sessionId) := do
  require (∀ other ∈ db.tickets.rows, other.tokenHash ≠ ticket.tokenHash) .integrityError
  found (db.tickets.insert ticket) .integrityError

def checkInteractive (site : Site) (call : OpenCall) (target : Target)
    (db : Database) : Except Failure Unit := do
  require (target.protocol = .ssh ∨ target.protocol = .rdp) (.permissionDenied (Text.ofString
    "Cette cible ne prend pas en charge les sessions interactives."))
  require (target.protocol = .rdp → site.rdpEnabled = true)
    (.permissionDenied "Le courtage RDP n'est pas activé sur cette installation.")
  require (target.protocol = .ssh →
    target.sshHostKeyPolicy = .strict → hasActiveHostKey target.id db = true)
    (.permissionDenied (Text.ofString
      "Aucune clé d’hôte SSH approuvée n’est disponible pour cette cible."))
  require (15 ≤ call.lifetimeSeconds ∧ call.lifetimeSeconds ≤ 120) (.validationError (Text.ofString
    "La durée du ticket doit être comprise entre 15 et 120 secondes."))

def issueSessionTicket (site : Site) (moment : Moment) (call : OpenCall) (db : Database) :
    Except Failure ((PrivilegedSession × SessionTicket) × Database) := do
  let justification ← normalizeJustification call.justification
  let credential ← found (db.credentials.get call.credentialId) .doesNotExist
  let target ← found (db.targets.get credential.targetId) .doesNotExist
  checkInteractive site call target db
  let (policy, accessRequest, duration) ←
    reservePlace site moment call quotaReached credential target db
  let session := newSession moment call credential policy accessRequest duration justification
  let ticket := newTicket site moment call
  let sessions ← found (db.sessions.insert session) .integrityError
  let tickets ← insertTicket ticket db
  let after ← { db with
      sessions := sessions
      tickets := tickets }.recordEvent site moment (some call.user) "session.ticket_issued"
        sessionResourceType (Uuid.str session.id)
        (openingMetadata credential target policy.id justification) call.sourceIp
  return ((session, ticket), after)

def startWebSession (site : Site) (moment : Moment) (call : OpenCall) (db : Database) :
    Except Failure (PrivilegedSession × Database) := do
  let justification ← normalizeJustification call.justification
  let credential ← found (db.credentials.get call.credentialId) .doesNotExist
  let target ← found (db.targets.get credential.targetId) .doesNotExist
  require (target.protocol = .web) (.permissionDenied "Cette cible n'est pas une application web.")
  let (policy, accessRequest, duration) ←
    reservePlace site moment call webQuotaReached credential target db
  let session := openedSession moment.now
    (newSession moment call credential policy accessRequest duration justification)
  let sessions ← found (db.sessions.insert session) .integrityError
  let after ← { db with sessions := sessions }.recordEvent site moment
    (some call.user) "session.web_opened"
    sessionResourceType (Uuid.str session.id)
    (openingMetadata credential target policy.id justification) call.sourceIp
  return (session, after)

---- Redeeming Tickets

def otherOpenCount (key : QuotaKey) (sessionId : Uuid) (db : Database) : Nat :=
  db.sessions.rows.countP (fun session =>
      key.includes session && isOpen session && decide (session.id ≠ sessionId))

/- Both addresses are known and differ. -/
def addressChanged : Option IpText → Option IpText → Bool
| some issued, some used => decide (issued ≠ used)
| _, _ => false

def checkTicket (now : Int) (user : UserId) (sourceIp : Option IpText) (ticket : SessionTicket)
    (session : PrivilegedSession) : Except Failure Unit := do
  require (isLive now ticket = true)
    (.permissionDenied "Ce ticket de session a expiré ou a déjà été consommé.")
  require (session.userId = user) (.permissionDenied "Ce ticket appartient à un autre utilisateur.")
  require (session.status = .created) (.permissionDenied "Cette session ne peut plus être ouverte.")
  require (session.expiresAt.all (fun instant => decide (now < instant)) = true)
    (.permissionDenied "L’autorisation de session a expiré.")
  require (addressChanged ticket.sourceIp sourceIp = false)
    (.permissionDenied "L’adresse d’origine de la session a changé.")

def consumedTicket (now : Int) (ticket : SessionTicket) : SessionTicket :=
  { ticket with consumedAt := some now }

theorem consumedTicket_sessionId (now : Int) (ticket : SessionTicket) :
    (consumedTicket now ticket).sessionId = ticket.sessionId :=
  rfl

def redeemed (now : Int) (sessionId : Uuid) (db : Database) : Database :=
  { db with
    tickets := db.tickets.modify sessionId (consumedTicket now) (consumedTicket_sessionId now)
    sessions := db.sessions.modify sessionId (openedSession now) (openedSession_id now) }

def consumeSessionTicket
    (site : Site) (moment : Moment) (sessionId : Uuid) (token : Text) (user : UserId)
    (sourceIp : Option IpText) (db : Database) :
    Except Failure (PrivilegedSession × Database) := do
  let ticket ← found ((db.tickets.get sessionId).filter
    (fun ticket => decide (ticket.tokenHash = site.services.sha256 token)))
    (.permissionDenied "Ticket de session invalide.")
  let session ← found (db.sessions.get sessionId) .doesNotExist
  let target ← found (db.targets.get session.targetId) .doesNotExist
  checkTicket moment.now user sourceIp ticket session
  let policyId ← found session.policyId .doesNotExist
  let policy ← found (db.policies.get policyId) .doesNotExist
  require (otherOpenCount ⟨session.userId, session.targetId, policy.id⟩
    sessionId db < policy.maxConcurrentSessions)
    quotaReached
  let after ← (redeemed moment.now sessionId db).recordEvent site
    moment (some user) "session.opened"
    sessionResourceType (Uuid.str session.id)
    (.obj [("protocol", .str target.protocol.text)]) sourceIp
  return (openedSession moment.now session, after)

---- Ending Sessions

def isOver (session : PrivilegedSession) : Bool :=
  decide (session.status = .closed ∨ session.status = .failed)

def endedSession (now : Int) (reason : Text) (failed : Bool)
    (session : PrivilegedSession) : PrivilegedSession :=
  { session with
    status := if failed then .failed else .closed
    endedAt := some now
    lastActivityAt := some now
    terminationReason := reason.take 255
    updatedAt := now }

theorem endedSession_id (now : Int) (reason : Text) (failed : Bool) (session : PrivilegedSession) :
    (endedSession now reason failed session).id = session.id :=
  rfl

def closeSession (site : Site) (moment : Moment) (sessionId : Uuid) (actor : Option UserId)
    (reason : Text) (failed : Bool) (db : Database) :
    Except Failure (PrivilegedSession × Database) := do
  let locked ← found (db.sessions.get sessionId) .doesNotExist
  if isOver locked then return (locked, db)
  else do
    -- the UPDATE raises `UnicodeEncodeError`, which is a `ValueError`
    require (Text.isStorable (reason.take 255) = true) .valueError
    let after ← { db with
        sessions := db.sessions.modify sessionId (endedSession moment.now reason failed)
          (endedSession_id moment.now reason failed) }.recordEvent site moment actor
            (if failed then "session.failed" else "session.closed")
            sessionResourceType (Uuid.str locked.id)
            (.obj [("reason", .str (reason.take 255))]) none
    return (endedSession moment.now reason failed locked, after)

def terminatedSession
    (now : Int) (actor : UserId) (session : PrivilegedSession) : PrivilegedSession :=
  if session.status = .created then
    { session with
      status := .closed
      endedAt := some now
      terminationReason := "admin_terminated_before_start"
      terminationRequestedAt := some now
      terminationRequestedBy := some actor
      updatedAt := now }
  else
    { session with
      status := .terminating
      terminationReason := "admin_termination_requested"
      terminationRequestedAt := some now
      terminationRequestedBy := some actor
      updatedAt := now }

theorem terminatedSession_id (now : Int) (actor : UserId) (session : PrivilegedSession) :
    (terminatedSession now actor session).id = session.id := by
  unfold terminatedSession
  split <;> rfl

def revokeTicket (now : Int) (ticket : SessionTicket) : SessionTicket :=
  if ticket.consumedAt = none ∧ ticket.revokedAt = none then
    { ticket with revokedAt := some now }
  else ticket

theorem revokeTicket_sessionId (now : Int) (ticket : SessionTicket) :
    (revokeTicket now ticket).sessionId = ticket.sessionId := by
  unfold revokeTicket
  split <;> rfl

/-
  `request_session_termination`. `seenStatus` is that of the object the caller holds, which may be
  stale; the second result says whether the gateway has to be notified.
-/
def requestSessionTermination
    (site : Site) (moment : Moment) (sessionId : Uuid) (seenStatus : SessionStatus)
    (actor : UserId) (db : Database) :
    Except Failure ((PrivilegedSession × Bool) × Database) := do
  let locked ← found (db.sessions.get sessionId) .doesNotExist
  if isOver locked then return ((locked, false), db)
  else do
    let tickets :=
      if locked.status = .created then
        db.tickets.modify sessionId (revokeTicket moment.now) (revokeTicket_sessionId moment.now)
      else db.tickets
    let after ← { db with
        tickets := tickets
        sessions := db.sessions.modify sessionId (terminatedSession moment.now actor)
          (terminatedSession_id moment.now actor) }.recordEvent site moment (some actor)
            "session.termination_requested"
            sessionResourceType (Uuid.str locked.id)
            (.obj [("previous_status", .str seenStatus.text)]) none
    return ((terminatedSession moment.now actor locked, decide (locked.status ≠ .created)), after)

end PamOlive.Sessions
