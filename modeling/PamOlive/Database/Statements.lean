import PamOlive.Approvals.Services
import PamOlive.Foundations.LockTrace
import PamOlive.Foundations.Script
import PamOlive.Operations.Services
import PamOlive.Sessions.Services

/-
  The operations that record an event, statement by statement.

  Each script makes the writes of one function in order, and every write can fail. Without faults
  it does what the function does; `authorizing_policy_for` also creates the row of
  `PlatformSecurityPolicy` if there is none. The scripts of transactions note the rows that their
  statements lock, in the order of the joins, and the rows they refer to. New sessions, tickets,
  decisions and jobs are not noted: nobody else sees them before the commit.

  Main declarations:
    * the scripts, under the names of their functions
    * `transaction_issueSessionTicket` and its like: what they do without faults
-/

---- Tables

namespace PamOlive.Statements

open Foundations Vault Sessions Approvals Operations Script

/- A write is named by its table. -/
inductive Point where
  | platformSecurityPolicy | secretLease | credential | privilegedSession | sessionTicket
  | approvalDecision | accessRequest | rotationJob | auditEvent | auditChainState
deriving DecidableEq

inductive Row where
  | auditChain
  | user (id : UserId)
  | target (id : Uuid)
  | credential (id : Uuid)
  | policy (id : Uuid)
  | accessRequest (id : Uuid)
  | session (id : Uuid)
  | ticket (sessionId : Uuid)
  | lease (tokenHash : Text)
deriving DecidableEq

abbrev Procedure (α : Type) : Type := Script (Demand Row) Point Database Failure α

/- `SELECT ... FOR UPDATE`: the rows of all joined tables. -/
def forUpdate (rows : List Row) : Procedure Unit :=
  demand (.lock (rows.map (fun row => ⟨row, .update⟩)))

/- The rows that a foreign key was written for. -/
def references (rows : List Row) : Procedure Unit :=
  demand (.refer (rows.map (fun row => ⟨row, .keyShare⟩)))

/- `record_event`. The signature is made between the lock of the chain and the insertion. -/
def recordEvent (site : Site) (moment : Moment) (actor : Option UserId)
    (action resourceType resourceId : Text) (metadata : Json)
    (sourceIp : Option IpText) : Procedure Unit := do
  forUpdate [.auditChain]
  .get fun db =>
    let number := db.audit.chain.lastSequence + 1
    match Audit.recordEvent site.services
      { id := moment.eventKey number
        occurredAt := moment.eventTime number
        actor := actor
        action := action
        resourceType := resourceType
        resourceId := resourceId
        sourceIp := sourceIp
        metadata := metadata }
      db.audit with
    | .error _ => .raise .keyringError
    | .ok (event, _) =>
      .block [⟨.auditEvent, fun db =>
          .ok { db with
            audit :=
              { db.audit with
                events := db.audit.events ++ [event] } }⟩, ⟨.auditChainState, fun db =>
            .ok { db with
              audit :=
                { db.audit with chain := event.head } }⟩]
        (references (actor.toList.map .user))

/- `PlatformSecurityPolicy.objects.get_or_create(pk=1)`. -/
def ensurePolicy : Procedure Unit :=
  .get fun db =>
    if db.sensitiveWindowMinutes = none then
      .write .platformSecurityPolicy (fun db => .ok { db with sensitiveWindowMinutes := some 5 })
    else .done ()

def ensured (db : Database) : Database :=
  { db with sensitiveWindowMinutes := some (sensitiveWindow db) }

/- `PrivilegedSession.objects.create`. -/
def insertSession (session : PrivilegedSession) : Procedure Unit :=
  .write .privilegedSession fun db => do
    let sessions ← found (db.sessions.insert session) .integrityError
    return { db with sessions := sessions }

---- Leases

/- `SecretLease.objects.create`. -/
def insertLease (lease : SecretLease) : Procedure Unit :=
  .write .secretLease fun db => do
    let leases ← found (db.leases.insert lease) .integrityError
    return { db with leases := leases }

section

variable (site : Site) (moment : Moment)

/- The rest of `issue_secret_lease`, after its checks. -/
def createLease (call : LeaseCall) (justification : Text)
    (credential : Credential) (target : Target) : Procedure SecretLease := do
  let db ← .read
  let (policy, accessRequest) ← .check (authorizingPolicyFor site moment.now call.user
    credential target (leaseAction call.purpose) call.sourceIp call.mfaVerifiedAt db)
  let lease := leaseRow site moment call credential policy accessRequest justification
  insertLease lease
  recordEvent site moment (some call.user) "credential.secret_lease.issued"
    leaseResourceType (Uuid.str lease.id)
    (leaseMetadata lease) call.sourceIp
  return lease

def issueSecretLease (call : LeaseCall) : Procedure SecretLease := do
  let db ← .read
  let (justification, credential, target) ← .check (leaseChecks call db)
  ensurePolicy
  createLease site moment call justification credential target

/- A lease is read with its credential, the target of the credential, and its user. -/
def joinedLease (lease : SecretLease) (db : Database) : List Row :=
  match db.credentials.get lease.credentialId with
  | some credential =>
    [.lease lease.tokenHash, .credential credential.id,
      .target credential.targetId, .user lease.userId]
  | none => []

/- `consume_secret_lease`, in its transaction. -/
def consumeSecretLease (token : Text) (expectedUser : Option UserId)
    (expectedPurpose : Option LeasePurpose) :
    Procedure (SecretLease × Text) := do
  let db ← .read
  let tokenHash := site.services.sha256 token
  let lease ← .check (found (db.leases.get tokenHash)
    (.permissionDenied "Bail de secret invalide."))
  forUpdate (joinedLease lease db)
  .check (require
    (lease.revokedAt = none ∧ moment.now < lease.expiresAt ∧ lease.useCount < lease.maxUses)
    (.permissionDenied "Ce bail de secret a expiré ou a déjà été consommé."))
  .check (require (expectedUser.all (fun user => decide (user = lease.userId)) = true)
    (.permissionDenied "Ce bail appartient à un autre utilisateur."))
  .check (require (expectedPurpose.all (fun purpose => decide (purpose = lease.purpose)) = true)
    (.permissionDenied "Ce bail ne permet pas cette opération."))
  let credential ← .check (found (db.credentials.get lease.credentialId) .doesNotExist)
  .write .secretLease (fun db =>
      .ok { db with leases := (checkedOut moment.now tokenHash credential.id db).leases })
  .write .credential (fun db =>
      .ok { db with credentials := (checkedOut moment.now tokenHash credential.id db).credentials })
  recordEvent site moment (some lease.userId) "credential.secret_lease.consumed"
    leaseResourceType (Uuid.str lease.id)
    (leaseMetadata lease) lease.sourceIp
  let secret ← .check (decrypt site credential.encryptedSecret credential.secretEncryptionKeyId)
  return (lease, secret)

end

/- `lease.save(update_fields=("revoked_at", ...))`. -/
def saveRevoked (moment : Moment) (held : SecretLease) : Procedure Unit :=
  let now := moment.now
  .write .secretLease fun db =>
    match db.leases.get held.tokenHash with
    | none =>
      .error (.runtimeError "Save with update_fields did not affect any rows.")
    | some _ =>
      .ok { db with
        leases := db.leases.modify held.tokenHash (revokedLease now) (revokedLease_tokenHash now) }

section

variable (site : Site) (moment : Moment)

/- `revoke_secret_lease`, of an object that may be stale. -/
def revokeSecretLease (held : SecretLease) (actor : UserId) : Procedure SecretLease :=
  if held.revokedAt ≠ none then .done held
  else do
    saveRevoked moment held
    recordEvent site moment (some actor) "credential.secret_lease.revoked"
      leaseResourceType (Uuid.str held.id) .null none
    return revokedLease moment.now held

---- Sessions

def sessionReferences (session : PrivilegedSession) : List Row :=
  .user session.userId :: .target session.targetId ::
    (session.credentialId.toList.map .credential ++ session.policyId.toList.map .policy ++
      session.accessRequestId.toList.map .accessRequest)

/- The quota is counted under the lock of the policy. -/
def reservePlace (call : OpenCall) (refusal : Failure) (credential : Credential)
    (target : Target) : Procedure (AccessPolicy × Option AccessRequest × Nat) := do
  let db ← .read
  let (authorizing, accessRequest) ← .check (authorizingPolicyFor site moment.now call.user
    credential target .startSession call.sourceIp call.mfaVerifiedAt db)
  let policy ← .check (found (db.policies.get authorizing.id) .doesNotExist)
  forUpdate [.policy policy.id]
  .check (require (activeSessionCount ⟨call.user, target.id, policy.id⟩
    moment.now db < policy.maxConcurrentSessions) refusal)
  return (policy, accessRequest, allowedDuration policy accessRequest)

/- `issue_session_ticket`, in its transaction. -/
def issueSessionTicket (call : OpenCall) : Procedure (PrivilegedSession × SessionTicket) := do
  let db ← .read
  let justification ← .check (normalizeJustification call.justification)
  let credential ← .check (found (db.credentials.get call.credentialId) .doesNotExist)
  let target ← .check (found (db.targets.get credential.targetId) .doesNotExist)
  .check (checkInteractive site call target db)
  ensurePolicy
  let (policy, accessRequest, duration) ←
    reservePlace site moment call quotaReached credential target
  let session := newSession moment call credential policy accessRequest duration justification
  let ticket := newTicket site moment call
  insertSession session
  references (sessionReferences session)
  .write .sessionTicket fun db => do
    let tickets ← insertTicket ticket db
    return { db with tickets := tickets }
  recordEvent site moment (some call.user) "session.ticket_issued"
    sessionResourceType (Uuid.str session.id)
    (openingMetadata credential target policy.id justification) call.sourceIp
  return (session, ticket)

/- `start_web_session`, in its transaction. -/
def startWebSession (call : OpenCall) : Procedure PrivilegedSession := do
  let db ← .read
  let justification ← .check (normalizeJustification call.justification)
  let credential ← .check (found (db.credentials.get call.credentialId) .doesNotExist)
  let target ← .check (found (db.targets.get credential.targetId) .doesNotExist)
  .check (require (target.protocol = .web)
    (.permissionDenied "Cette cible n'est pas une application web."))
  ensurePolicy
  let (policy, accessRequest, duration) ←
    reservePlace site moment call webQuotaReached credential target
  let session := openedSession moment.now
    (newSession moment call credential policy accessRequest duration justification)
  insertSession session
  references (sessionReferences session)
  recordEvent site moment (some call.user) "session.web_opened"
    sessionResourceType (Uuid.str session.id)
    (openingMetadata credential target policy.id justification) call.sourceIp
  return session

/-
  `consume_session_ticket`, in its transaction. The ticket is read with its session, user and
  target.
-/
def consumeSessionTicket (sessionId : Uuid) (token : Text) (user : UserId)
    (sourceIp : Option IpText) :
    Procedure PrivilegedSession := do
  let db ← .read
  let ticket ← .check (found ((db.tickets.get sessionId).filter
    (fun ticket => decide (ticket.tokenHash = site.services.sha256 token)))
    (.permissionDenied "Ticket de session invalide."))
  let session ← .check (found (db.sessions.get sessionId) .doesNotExist)
  let target ← .check (found (db.targets.get session.targetId) .doesNotExist)
  forUpdate [.ticket sessionId, .session sessionId, .user session.userId, .target session.targetId]
  .check (checkTicket moment.now user sourceIp ticket session)
  let policyId ← .check (found session.policyId .doesNotExist)
  let policy ← .check (found (db.policies.get policyId) .doesNotExist)
  forUpdate [.policy policy.id]
  .check (require (otherOpenCount ⟨session.userId, session.targetId, policy.id⟩
    sessionId db < policy.maxConcurrentSessions) quotaReached)
  .write .sessionTicket (fun db =>
      .ok { db with
        tickets := db.tickets.modify sessionId (consumedTicket moment.now)
          (consumedTicket_sessionId moment.now) })
  .write .privilegedSession (fun db =>
      .ok { db with
        sessions :=
          db.sessions.modify sessionId (openedSession moment.now) (openedSession_id moment.now) })
  recordEvent site moment (some user) "session.opened" sessionResourceType (Uuid.str session.id)
    (.obj [("protocol", .str target.protocol.text)])
    sourceIp
  return openedSession moment.now session

/- `close_session`, in its transaction. -/
def closeSession (sessionId : Uuid) (actor : Option UserId)
    (reason : Text) (failed : Bool) : Procedure PrivilegedSession := do
  let db ← .read
  let locked ← .check (found (db.sessions.get sessionId) .doesNotExist)
  forUpdate [.session sessionId]
  if isOver locked then return locked
  else do
    let now := moment.now
    .check (require (Text.isStorable (reason.take 255) = true) .valueError)
    .write .privilegedSession (fun db =>
        .ok { db with
          sessions := db.sessions.modify sessionId (endedSession now reason failed)
            (endedSession_id now reason failed) })
    recordEvent site moment actor (if failed then "session.failed" else "session.closed")
      sessionResourceType (Uuid.str locked.id)
      (.obj [("reason", .str (reason.take 255))])
      none
    return endedSession now reason failed locked

/- The open ticket that the `UPDATE` finds is locked. -/
def ticketDemand (sessionId : Uuid) (db : Database) : Procedure Unit :=
  if (db.tickets.get sessionId).any
      (fun ticket => decide (ticket.consumedAt = none ∧ ticket.revokedAt = none)) then
    demand (.lock [⟨.ticket sessionId, .noKeyUpdate⟩])
  else .done ()

def revokeTickets (sessionId : Uuid) (db : Database) : Procedure Unit := do
  let now := moment.now
  ticketDemand sessionId db
  .write .sessionTicket (fun db =>
      .ok { db with
        tickets :=
          db.tickets.modify sessionId (revokeTicket now) (revokeTicket_sessionId now) })

/- `request_session_termination`, in its transaction. -/
def requestSessionTermination (sessionId : Uuid) (seenStatus : SessionStatus) (actor : UserId) :
    Procedure (PrivilegedSession × Bool) := do
  let db ← .read
  let locked ← .check (found (db.sessions.get sessionId) .doesNotExist)
  forUpdate [.session sessionId]
  if isOver locked then return (locked, false)
  else do
    let now := moment.now
    if locked.status = .created then revokeTickets moment sessionId db
    .write .privilegedSession (fun db =>
        .ok { db with
          sessions := db.sessions.modify sessionId (terminatedSession now actor)
            (terminatedSession_id now actor) })
    references [.user actor]
    recordEvent site moment (some actor) "session.termination_requested"
      sessionResourceType (Uuid.str locked.id)
      (.obj [("previous_status", .str seenStatus.text)]) none
    return (terminatedSession now actor locked, decide (locked.status ≠ .created))

---- Decisions And Jobs

/- `decided_by` is written when the request is closed. -/
def deciderReferences (call : DecideCall) (status : RequestStatus) : List Row :=
  if status = .pending then [] else [.user call.actor.id]

/-
  `decide_access_request`, in its transaction. The request is read with its requester and its
  policy.
-/
def decideAccessRequest (call : DecideCall) : Procedure AccessRequest := do
  let db ← .read
  let locked ← .check (found (requestOf call.accessRequestId db) .doesNotExist)
  let policy ← .check (found (db.policies.get locked.policyId) .doesNotExist)
  forUpdate [.accessRequest call.accessRequestId, .user locked.requesterId, .policy policy.id]
  .check (require (locked.status = .pending) (.validationError (Text.ofString
    "Seules les demandes en attente peuvent recevoir une décision.")))
  .check (require (call.actor.id ≠ locked.requesterId)
    (.permissionDenied "Un demandeur ne peut pas approuver sa propre demande."))
  .check (require (actorMayDecide moment.now policy call.actor db = true)
    (.permissionDenied "Vous n’êtes pas approbateur pour cette politique."))
  .check (require (db.decisions.get (call.accessRequestId, call.actor.id) = none)
    (.validationError "Vous avez déjà rendu une décision pour cette demande."))
  .write .approvalDecision fun db => do
    let decisions ← createDecision call.row db
    return { db with decisions := decisions }
  references [.accessRequest call.accessRequestId, .user call.actor.id]
  let db ← .read
  let approvals := approvalCount call.accessRequestId db
  let quorum := quorumOf policy
  let status := statusAfter call.approve approvals quorum
  if status ≠ .pending then
    .write .accessRequest
      (fun db => .ok (saveRequest call.accessRequestId (closedRequest moment.now call status) db))
  references (deciderReferences call status)
  recordEvent site moment (some call.actor.id) (decisionAction status) "approvals.accessrequest"
    (Uuid.str call.accessRequestId)
    (decisionMetadata call approvals quorum) none
  return settledRequest moment.now call status locked

/- `queue_rotation`, in its transaction. -/
def queueRotation (call : QueueCall) : Procedure (RotationJob × Bool) := do
  let db ← .read
  let credential ← .check (found (db.credentials.get call.credentialId) .doesNotExist)
  forUpdate [.credential credential.id]
  match activeJob credential.id db with
  | some existing => return (existing, false)
  | none =>
    let job := queuedJob moment.now call credential
    .write .rotationJob fun db => do
      let jobs ← found (db.rotationJobs.insert job) .integrityError
      return { db with rotationJobs := jobs }
    references (.credential credential.id :: call.requestedBy.toList.map .user)
    recordEvent site moment call.requestedBy "credential.rotation_queued"
      jobResourceType (Uuid.str job.id)
      (queueMetadata call credential) none
    return (job, true)

end

---- Without Faults

variable {site : Site} {moment : Moment} {α : Type} {db : Database}

theorem run_recordEvent
    (actor : Option UserId) (action resourceType resourceId : Text) (metadata : Json)
    (sourceIp : Option IpText) :
    run noFaults
      (recordEvent site moment actor action resourceType resourceId metadata sourceIp) db =
      match db.recordEvent site moment actor action resourceType resourceId metadata sourceIp with
      | .ok after => (.ok (), after)
      | .error failure => (.error failure, db) := by
  unfold recordEvent Database.recordEvent Audit.recordEvent
  rw [forUpdate, run_demand_bind]
  unfold run
  dsimp only
  generalize Audit.EventCall.eventHash _ _ _ = hash
  cases site.services.keyring.sign hash with
  | error failure => rfl
  | ok signature => rfl

@[simp]
theorem transaction_recordEvent_bind
    (actor : Option UserId) (action resourceType resourceId : Text) (metadata : Json)
    (sourceIp : Option IpText) (next : Unit → Procedure α) :
    transaction noFaults (recordEvent site moment actor action resourceType
      resourceId metadata sourceIp >>= next) db =
      db.recordEvent site moment actor action resourceType resourceId metadata sourceIp >>=
        fun after =>
          transaction noFaults (next ()) after := by
  rw [transaction_bind]
  unfold transaction
  rw [run_recordEvent]
  cases db.recordEvent site moment actor action resourceType resourceId metadata sourceIp with
  | error failure => rfl
  | ok after => rfl

@[simp]
theorem transaction_ensurePolicy_bind (next : Unit → Procedure α) :
    transaction noFaults (ensurePolicy >>= next) db =
      transaction noFaults (next ()) (ensured db) := by
  rcases db with ⟨_, _, _, _, _, _, window, _, _, _, _, _, _, _, _, _, _⟩
  cases window with
  | none => rfl
  | some minutes => rfl

@[simp]
theorem transaction_forUpdate_bind (rows : List Row) (next : Unit → Procedure α) :
    transaction noFaults (forUpdate rows >>= next) db = transaction noFaults (next ()) db :=
  rfl

@[simp]
theorem transaction_references_bind (rows : List Row) (next : Unit → Procedure α) :
    transaction noFaults (references rows >>= next) db = transaction noFaults (next ()) db :=
  rfl

@[simp]
theorem transaction_reservePlace_bind
    (call : OpenCall) (refusal : Failure) (credential : Credential) (target : Target)
    (next : AccessPolicy × Option AccessRequest × Nat → Procedure α) :
    transaction noFaults (reservePlace site moment call refusal credential target >>= next) db =
      Sessions.reservePlace site moment call refusal credential target db >>= fun reserved =>
        transaction noFaults (next reserved) db := by
  rw [transaction_bind]
  unfold reservePlace Sessions.reservePlace
  simp only [transaction_read_bind, transaction_check_bind, transaction_forUpdate_bind,
    transaction_pure, bind_assoc, pure_bind]
  rfl

@[simp]
theorem transaction_revokeTickets_bind (sessionId : Uuid) (next : Unit → Procedure α) :
    transaction noFaults (revokeTickets moment sessionId db >>= next) db =
      transaction noFaults (next ()) { db with
        tickets := db.tickets.modify sessionId (revokeTicket moment.now)
          (revokeTicket_sessionId moment.now) } := by
  unfold revokeTickets ticketDemand
  split <;> rfl

theorem transaction_issueSessionTicket (call : OpenCall) :
    transaction noFaults (issueSessionTicket site moment call) db =
      Sessions.issueSessionTicket site moment call (ensured db) := by
  unfold issueSessionTicket Sessions.issueSessionTicket insertSession
  simp only [transaction_read_bind, transaction_check_bind, transaction_references_bind,
    transaction_ensurePolicy_bind, transaction_reservePlace_bind,
    transaction_write_bind, transaction_recordEvent_bind, transaction_pure, bind_assoc, pure_bind]
  rfl

theorem transaction_startWebSession (call : OpenCall) :
    transaction noFaults (startWebSession site moment call) db =
      Sessions.startWebSession site moment call (ensured db) := by
  unfold startWebSession Sessions.startWebSession insertSession
  simp only [transaction_read_bind, transaction_check_bind, transaction_references_bind,
    transaction_ensurePolicy_bind, transaction_reservePlace_bind,
    transaction_write_bind, transaction_recordEvent_bind, transaction_pure, bind_assoc, pure_bind]
  rfl

theorem transaction_consumeSessionTicket
    (sessionId : Uuid) (token : Text) (user : UserId) (sourceIp : Option IpText) :
    transaction noFaults (consumeSessionTicket site moment sessionId token user sourceIp) db =
      Sessions.consumeSessionTicket site moment sessionId token user sourceIp db := by
  unfold consumeSessionTicket Sessions.consumeSessionTicket
  simp only [transaction_read_bind, transaction_check_bind, transaction_forUpdate_bind,
    transaction_write_bind, transaction_recordEvent_bind, transaction_pure]
  rfl

theorem transaction_closeSession
    (sessionId : Uuid) (actor : Option UserId) (reason : Text) (failed : Bool) :
    transaction noFaults (closeSession site moment sessionId actor reason failed) db =
      Sessions.closeSession site moment sessionId actor reason failed db := by
  unfold closeSession Sessions.closeSession
  simp only [transaction_read_bind, transaction_check_bind, transaction_forUpdate_bind]
  refine bind_congr fun locked => ?_
  split
  · rfl
  · simp only [transaction_check_bind, transaction_write_bind, transaction_recordEvent_bind,
      transaction_pure]
    rfl

theorem transaction_requestSessionTermination
    (sessionId : Uuid) (seenStatus : SessionStatus) (actor : UserId) :
    transaction noFaults (requestSessionTermination site moment sessionId seenStatus actor) db =
      Sessions.requestSessionTermination site moment sessionId seenStatus actor db := by
  unfold requestSessionTermination Sessions.requestSessionTermination
  simp only [transaction_read_bind, transaction_check_bind, transaction_forUpdate_bind]
  refine bind_congr fun locked => ?_
  split
  · rfl
  · split
    all_goals
      simp only [transaction_revokeTickets_bind, transaction_write_bind,
        transaction_references_bind, transaction_recordEvent_bind, transaction_pure]
      rfl

theorem transaction_consumeSecretLease (token : Text) (expectedUser : Option UserId)
    (expectedPurpose : Option LeasePurpose) :
    transaction noFaults (consumeSecretLease site moment token expectedUser expectedPurpose) db =
      Vault.consumeSecretLease site moment token expectedUser expectedPurpose db := by
  unfold consumeSecretLease Vault.consumeSecretLease
  simp only [transaction_read_bind, transaction_check_bind, transaction_forUpdate_bind,
    transaction_write_bind, transaction_recordEvent_bind, transaction_pure]
  rfl

theorem transaction_decideAccessRequest (call : DecideCall) :
    transaction noFaults (decideAccessRequest site moment call) db =
      Approvals.decideAccessRequest site moment call db := by
  unfold decideAccessRequest Approvals.decideAccessRequest
  simp only [transaction_read_bind, transaction_check_bind, transaction_forUpdate_bind,
    transaction_references_bind, transaction_write_bind, bind_assoc, pure_bind]
  refine bind_congr fun locked => ?_
  refine bind_congr fun policy => ?_
  refine bind_congr fun _ => ?_
  refine bind_congr fun _ => ?_
  refine bind_congr fun _ => ?_
  refine bind_congr fun _ => ?_
  refine bind_congr fun decisions => ?_
  unfold settle
  split
  · simp only [transaction_write_bind, transaction_references_bind, transaction_recordEvent_bind,
      transaction_pure]
    rfl
  · rename_i hPending
    simp only [transaction_references_bind, transaction_recordEvent_bind, transaction_pure]
    rw [if_pos (not_not.mp hPending)]
    rfl

theorem transaction_queueRotation (call : QueueCall) :
    transaction noFaults (queueRotation site moment call) db =
      Operations.queueRotation site moment call db := by
  unfold queueRotation Operations.queueRotation
  simp only [transaction_read_bind, transaction_check_bind, transaction_forUpdate_bind]
  refine bind_congr fun credential => ?_
  cases activeJob credential.id db with
  | some existing => rfl
  | none =>
    simp only [transaction_write_bind, transaction_references_bind, transaction_recordEvent_bind,
      bind_assoc, pure_bind, transaction_pure]
    rfl

theorem run_recordEvent_bind
    (actor : Option UserId) (action resourceType resourceId : Text) (metadata : Json)
    (sourceIp : Option IpText) (value : α) :
    run noFaults
      (do
        recordEvent site moment actor action resourceType resourceId metadata sourceIp
        return value) db =
      match db.recordEvent site moment actor action resourceType resourceId metadata sourceIp with
      | .error failure => (.error failure, db)
      | .ok after => (.ok value, after) := by
  rw [run_bind]
  unfold andThen
  rw [run_recordEvent]
  cases db.recordEvent site moment actor action resourceType resourceId metadata sourceIp with
  | error failure => rfl
  | ok after => rfl

theorem run_revokeSecretLease (held : SecretLease) (actor : UserId) :
    (revokeSecretLease site moment held actor).run noFaults db =
      Vault.revokeSecretLease site moment held actor db := by
  unfold revokeSecretLease Vault.revokeSecretLease saveRevoked
  split
  · rfl
  · rw [run_write_bind]
    cases db.leases.get held.tokenHash with
    | none => rfl
    | some row => exact run_recordEvent_bind _ _ _ _ _ _ _

theorem newLease_of_checks
    {call : LeaseCall} {justification : Text} {credential : Credential} {target : Target}
    (hChecks : leaseChecks call db = .ok (justification, credential, target)) :
    newLease site moment call db =
      (authorizingPolicyFor site moment.now call.user credential target (leaseAction call.purpose)
        call.sourceIp call.mfaVerifiedAt db >>= fun authorized =>
          return leaseRow site moment call credential authorized.1 authorized.2 justification) := by
  unfold newLease
  rw [hChecks]
  rfl

theorem run_ensurePolicy {faults : Point → Option Failure}
    (hNot : db.sensitiveWindowMinutes = none → faults .platformSecurityPolicy = none) :
    ensurePolicy.run faults db = (.ok (), ensured db) := by
  unfold ensurePolicy ensured sensitiveWindow
  rw [run]
  cases hWindow : db.sensitiveWindowMinutes with
  | none =>
    exact run_write_of_ok (hNot hWindow) rfl
  | some minutes =>
    rcases db
    subst hWindow
    rfl

theorem run_issueSecretLease (call : LeaseCall) :
    (issueSecretLease site moment call).run noFaults db =
      match leaseChecks call db with
      | .error failure => (.error failure, db)
      | .ok _ =>
        Vault.issueSecretLease site moment call (ensured db) := by
  unfold issueSecretLease
  rw [run_bind_of_ok run_read]
  cases hChecks : leaseChecks call db with
  | error failure => exact run_bind_of_error (run_check _)
  | ok checked =>
    rcases checked with ⟨justification, credential, target⟩
    have hEnsured : leaseChecks call (ensured db) = .ok (justification, credential, target) :=
      hChecks
    rw [run_bind_of_ok (run_check _)]
    rw [run_bind_of_ok (run_ensurePolicy (fun _ => rfl))]
    unfold createLease Vault.issueSecretLease insertLease
    rw [newLease_of_checks hEnsured, run_bind_of_ok run_read]
    cases authorizingPolicyFor site moment.now call.user
      credential target (leaseAction call.purpose)
      call.sourceIp call.mfaVerifiedAt (ensured db) with
    | error failure => exact run_bind_of_error (run_check _)
    | ok authorized =>
      rw [run_bind_of_ok (run_check _)]
      rw [run_write_bind]
      dsimp only [bind, Except.bind, pure, Except.pure]
      cases (ensured db).leases.insert
        (leaseRow site moment call credential authorized.1 authorized.2 justification) with
      | none => rfl
      | some leases => exact run_recordEvent_bind _ _ _ _ _ _ _

end PamOlive.Statements
