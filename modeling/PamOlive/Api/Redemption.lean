import PamOlive.Api.Gateway
import PamOlive.Sessions.Quota

/-
  Redeeming a ticket right after it was issued.

  Both are authorization passes. The second one hands out a secret lease, asks for more, and does
  so without the MFA timestamp of the first; `redemption_agrees_iff` says when both agree.
-/

---- The Ticket

namespace PamOlive.Api

open Foundations Policies Vault Sessions Table

variable {site : Site} {moment : Moment} {call : OpenCall} {request : AuthorizeRequest}
variable {db after : Database} {session : PrivilegedSession} {ticket : SessionTicket}
variable {credential : Credential} {target : Target} {policy : AccessPolicy}
variable {accessRequest : Option AccessRequest}

theorem isLive_newTicket (hLifetime : 15 ≤ call.lifetimeSeconds) :
    isLive moment.now (newTicket site moment call) = true := by
  unfold isLive newTicket seconds
  simp only [and_self, and_true, decide_eq_true_eq]
  omega

theorem addressChanged_or (first second : Option IpText) :
    addressChanged first (first.or second) = false := by
  cases first with
  | none => rfl
  | some address => simp [addressChanged]

variable {clientIp : Option IpText}

section

variable (hIssued :
  TicketIssued site moment call db session ticket after credential target policy accessRequest)

include hIssued

theorem otherOpenCount_issued_lt :
    otherOpenCount ⟨call.user, target.id, policy.id⟩ call.sessionId after <
      policy.maxConcurrentSessions := by
  rcases reservePlace_eq_ok_iff.mp hIssued.place with ⟨_, _, hCount, _⟩
  apply Nat.lt_of_le_of_lt ?_ hCount
  rcases insert_eq_some_iff.mp hIssued.hasSessions with ⟨_, hRows⟩
  unfold otherOpenCount activeSessionCount
  rw [hRows, List.countP_append]
  have hNew : session.id = call.sessionId := by
    rw [hIssued.hasSession]
    rfl
  have hLast : [session].countP (fun session =>
      (QuotaKey.mk call.user target.id policy.id).includes session && isOpen session &&
        decide (session.id ≠ call.sessionId)) =
    0 := by
    simp [hNew]
  rw [hLast, Nat.add_zero]
  apply List.countP_mono_left
  intro row _ hOpen
  simp only [Bool.and_eq_true] at hOpen
  exact occupies_of_isOpen hOpen.1.1 hOpen.1.2

theorem checkTicket_issued_iff :
    checkTicket moment.now call.user (call.sourceIp.or clientIp) ticket session = .ok () ↔
      0 < allowedDuration policy accessRequest := by
  rcases checkInteractive_eq_ok_iff.mp hIssued.interactive with ⟨_, _, _, hLifetime, _⟩
  have hAddress := addressChanged_or call.sourceIp clientIp
  have hLive : isLive moment.now (newTicket site moment call) = true :=
    isLive_newTicket hLifetime
  rw [checkTicket_eq_ok_iff, hIssued.hasSession, hIssued.hasTicket, hLive]
  simp only [newTicket, newSession, hAddress, true_and,
    and_true, Option.all_some, decide_eq_true_eq]
  unfold minutes seconds
  omega

theorem ticket_issued_get : after.tickets.get call.sessionId = some ticket := by
  have hInsert := (insertTicket_eq_ok_iff.mp hIssued.hasTickets).2
  have hGet := get_insert_self hInsert
  have hId : ticket.sessionId = call.sessionId := by
    rw [hIssued.hasTicket]
    rfl
  rw [hId] at hGet
  exact hGet

theorem session_issued_get : after.sessions.get call.sessionId = some session := by
  have hGet := get_insert_self hIssued.hasSessions
  have hId : session.id = call.sessionId := by
    rw [hIssued.hasSession]
    rfl
  rw [hId] at hGet
  exact hGet

theorem consumeSessionTicket_issued (hSign : site.CanSign)
    (hDuration : 0 < allowedDuration policy accessRequest) (clientIp : Option IpText) :
    ∃ audit, consumeSessionTicket site moment call.sessionId
      call.token call.user (call.sourceIp.or clientIp)
      after = .ok (openedSession moment.now session, { redeemed moment.now call.sessionId after with
          audit := audit }) := by
  rcases Database.recordEvent_of_canSign hSign moment (some call.user) "session.opened"
    sessionResourceType (Uuid.str session.id)
    (.obj [("protocol", .str target.protocol.text)])
    (call.sourceIp.or clientIp)
    (redeemed moment.now call.sessionId after) with
    ⟨audit, hRecord⟩
  refine ⟨audit, ?_⟩
  rcases reservePlace_eq_ok_iff.mp hIssued.place with ⟨_, hPolicy, _, _⟩
  have hTargetId : session.targetId = target.id := by
    rw [hIssued.hasSession]
    exact (get_eq_some_iff.mp hIssued.hasTarget).2.symm
  have hUser : session.userId = call.user := by
    rw [hIssued.hasSession]
    rfl
  apply consumeSessionTicket_eq_ok_iff.mpr
  refine ⟨ticket, session, target, policy.id, policy, ?_, session_issued_get hIssued, ?_,
    (checkTicket_issued_iff hIssued).mpr hDuration, ?_, ?_, ?_, hRecord, rfl⟩
  · rw [ticket_issued_get hIssued, hIssued.hasTicket]
    simp [newTicket]
  · rw [hIssued.frame, hIssued.hasSession]
    exact hIssued.hasTarget
  · rw [hIssued.hasSession]
    rfl
  · rw [hIssued.frame]
    exact hPolicy
  · rw [hUser, hTargetId]
    exact otherOpenCount_issued_lt hIssued

theorem duration_of_consumeSessionTicket {result : PrivilegedSession × Database}
    (hConsume : consumeSessionTicket site moment call.sessionId
      call.token call.user (call.sourceIp.or clientIp) after = .ok result) :
    0 < allowedDuration policy accessRequest := by
  rcases consumeSessionTicket_eq_ok_iff.mp hConsume with
    ⟨ticket', session', _, _, _, hTicket, hSession, _, hCheck, _⟩
  cases Option.mem_unique (session_issued_get hIssued) hSession
  rcases Option.filter_eq_some_iff.mp hTicket with ⟨hTicket, _⟩
  cases Option.mem_unique (ticket_issued_get hIssued) hTicket
  exact (checkTicket_issued_iff hIssued).mp hCheck

end

---- The Envelope

variable {sourceIp : Option IpText} {envelope : SealedEnvelope} {now : Int} {secret : Text}
variable {leaseId : Uuid}

theorem openEnvelope_eq_ok_iff :
    openEnvelope site moment request sourceIp session db = (.ok envelope, after) ↔
      ∃ credential lease issued consumed, heldCredential session db = .ok credential ∧
        issueSecretLease site moment (sessionLeaseCall request sourceIp session credential) db =
          (.ok lease, issued) ∧
        consumeSecretLease site moment request.leaseToken (some session.userId) (some .session)
          issued = .ok (consumed, after) ∧
        sealEnvelope site moment.now session credential lease.id consumed.2 after =
          .ok envelope := by
  unfold openEnvelope
  simp only [andThen_eq_ok_iff, reading_eq_ok_iff, commit_eq_ok_iff]
  constructor
  · rintro ⟨credential, _, ⟨hHeld, rfl⟩, lease, issued, hIssue, consumed, _, hConsume, hSeal, rfl⟩
    exact ⟨credential, lease, issued, consumed, hHeld, hIssue, hConsume, hSeal⟩
  · rintro ⟨credential, lease, issued, consumed, hHeld, hIssue, hConsume, hSeal⟩
    exact ⟨credential, db, ⟨hHeld, rfl⟩, lease, issued,
      hIssue, consumed, after, hConsume, hSeal, rfl⟩

theorem openEnvelope_frame
    (sourceIp : Option IpText) (session : PrivilegedSession) (db : Database) :
    LeaseFrame db (openEnvelope site moment request sourceIp session db).2 := by
  apply andThen_relates LeaseFrame.trans
  · exact reading_relates LeaseFrame.refl _
  intro credential
  apply andThen_relates LeaseFrame.trans
  · exact issueSecretLease_frame _
  · intro lease
    apply andThen_relates LeaseFrame.trans
    · apply commit_relates LeaseFrame.refl
      intro before consumed after hConsume
      exact consumeSecretLease_frame hConsume
    · intro consumed
      exact reading_relates LeaseFrame.refl _

theorem openEnvelope_frame_of_ok
    (hOpen : openEnvelope site moment request sourceIp session db = (.ok envelope, after)) :
    LeaseFrame db after := by
  have hFrame : LeaseFrame db (openEnvelope site moment request sourceIp session db).2 :=
    openEnvelope_frame sourceIp session db
  rw [hOpen] at hFrame
  exact hFrame

structure Fillable
    (site : Site) (credential : Credential) (target : Target) (db : Database) : Prop where
  interactive : target.protocol = .ssh ∨ target.protocol = .rdp
  hostKeys : target.protocol = .ssh → knownHosts target db = [] → target.sshHostKeyPolicy ≠ .strict
  password : target.protocol = .rdp → credential.kind = .password
  sharedKey : 32 ≤ site.sharedKey.length

theorem encryptEnvelope_eq_ok_iff {sharedKey : Text} {content : Envelope} :
    encryptEnvelope sharedKey now content = .ok envelope ↔
      32 ≤ sharedKey.length ∧ envelope = ⟨sharedKey, now / 1000000, content⟩ := by
  unfold encryptEnvelope
  rw [require_bind_eq_ok_iff, pure_eq_ok_iff, eq_comm]

theorem envelopeDetails_ok_iff (hPolicy : heldPolicy session db = .ok policy) :
    (∃ details, envelopeDetails session target credential db = .ok details) ↔
      (target.protocol = .ssh ∨ target.protocol = .rdp) ∧
        (target.protocol = .ssh → knownHosts target db = [] → target.sshHostKeyPolicy ≠ .strict) ∧
        (target.protocol = .rdp → credential.kind = .password) := by
  unfold envelopeDetails
  cases hProtocol : target.protocol with
  | ssh =>
    unfold sshDetails
    simp only [require_bind_eq_ok_iff, hPolicy]
    simp [bind, Except.bind, pure, Except.pure]
  | rdp =>
    unfold rdpDetails
    simp only [require_bind_eq_ok_iff, hPolicy]
    simp [bind, Except.bind, pure, Except.pure]
  | _ => simp

theorem sealEnvelope_ok_iff (hTarget : db.targets.get session.targetId = some target)
    (hPolicy : heldPolicy session db = .ok policy) :
    (∃ envelope, sealEnvelope site now session credential leaseId secret db = .ok envelope) ↔
      Fillable site credential target db := by
  unfold sealEnvelope
  rw [hTarget]
  simp only [found_bind_eq_ok_iff, Option.some.injEq, exists_eq_left']
  simp only [bind_eq_ok_iff, encryptEnvelope_eq_ok_iff]
  constructor
  · rintro ⟨envelope, details, hDetails, hKey, _⟩
    rcases (envelopeDetails_ok_iff hPolicy).mp ⟨details, hDetails⟩ with ⟨hInteractive, hKeys, hKind⟩
    exact ⟨hInteractive, hKeys, hKind, hKey⟩
  · intro hFillable
    rcases (envelopeDetails_ok_iff hPolicy).mpr
      ⟨hFillable.interactive, hFillable.hostKeys, hFillable.password⟩ with ⟨details, hDetails⟩
    exact ⟨_, details, hDetails, hFillable.sharedKey, rfl⟩

theorem sealEnvelope_frame (hFrame : LeaseFrame db after) :
    sealEnvelope site now session credential leaseId secret after =
      sealEnvelope site now session credential leaseId secret db := by
  unfold sealEnvelope envelopeDetails sshDetails rdpDetails knownHosts heldPolicy
  rw [hFrame.targets, hFrame.policies, hFrame.hostKeys]

theorem secret_of_sealEnvelope
    (hSeal : sealEnvelope site now session credential leaseId secret db = .ok envelope) :
    envelope.content.secret = secret := by
  rcases found_bind_eq_ok_iff.mp hSeal with ⟨_, _, hSeal⟩
  rcases bind_eq_ok_iff.mp hSeal with ⟨_, _, hSeal⟩
  rcases encryptEnvelope_eq_ok_iff.mp hSeal with ⟨_, rfl⟩
  rfl

/- When a session that was just opened gets its envelope: no MFA timestamp comes with the lease. -/
structure Opens (site : Site) (now : Int) (user : UserId) (sourceIp : Option IpText)
    (credential : Credential) (target : Target) (db : Database) : Prop where
  available : credential.checkoutEnabled = true ∧ target.enabled = true
  authorized : ∃ policy ∈ candidatePolicies site now user target.id .startSession sourceIp db,
    scopeSatisfied now user credential target policy db = true ∧ policy.requiresMfa = false
  keyId : credential.secretEncryptionKeyId = [] ∨ credential.secretEncryptionKeyId = activeKeyId
  fillable : Fillable site credential target db

/- The rows of an open session, and a working keyring. -/
structure Prepared (site : Site) (request : AuthorizeRequest) (session : PrivilegedSession)
    (credential : Credential) (target : Target) (policy : AccessPolicy) (secret : Text)
    (db : Database) : Prop where
  hasCredential : heldCredential session db = .ok credential
  stored : db.credentials.get credential.id = some credential
  hasTarget : db.targets.get credential.targetId = some target
  sameTarget : session.targetId = credential.targetId
  hasPolicy : heldPolicy session db = .ok policy
  normal : normalizeJustification session.justification = .ok session.justification
  canSign : site.CanSign
  decrypts : site.services.keyring.decrypt credential.encryptedSecret = .ok secret
  fresh : db.leases.get (site.services.sha256 request.leaseToken) = none

theorem sessionLease_purpose
    (request : AuthorizeRequest) (sourceIp : Option IpText) (session : PrivilegedSession)
    (credential : Credential) :
    (some LeasePurpose.session).all (fun purpose =>
        decide (purpose = (sessionLeaseCall request sourceIp session credential).purpose)) = true :=
  rfl

section

variable (hPrepared : Prepared site request session credential target policy secret db)

include hPrepared

theorem opens_of_openEnvelope
    (hOpen : openEnvelope site moment request sourceIp session db = (.ok envelope, after)) :
    Opens site moment.now session.userId sourceIp credential target db := by
  rcases openEnvelope_eq_ok_iff.mp hOpen with
    ⟨held, lease, issued, ⟨consumed, _⟩, hHeld, hIssue, hConsume, hSeal⟩
  cases hPrepared.hasCredential.symm.trans hHeld
  have hFrame := openEnvelope_frame_of_ok hOpen
  rcases (leaseSecret_iff hPrepared.stored
    (sessionLease_purpose request sourceIp session credential)).mp
    ⟨lease, issued, _, _, hIssue, hConsume⟩ with
    ⟨⟨_, hNew, _⟩, hDecrypt⟩
  rcases newLease_eq_ok_iff.mp hNew with
    ⟨_, read, leased, _, _, _, hRead, hLeased, hAvailable, _, hPolicy, _⟩
  cases Option.mem_unique hRead hPrepared.stored
  cases Option.mem_unique hLeased hPrepared.hasTarget
  have hTarget : db.targets.get session.targetId = some target := by
    rw [hPrepared.sameTarget]
    exact hPrepared.hasTarget
  rw [sealEnvelope_frame hFrame] at hSeal
  have hFillable := (sealEnvelope_ok_iff hTarget hPrepared.hasPolicy).mp ⟨envelope, hSeal⟩
  exact
    { available := hAvailable
      authorized := authorizingPolicyFor_none_iff.mp ⟨_, hPolicy⟩
      keyId := (decrypt_eq_ok_iff.mp hDecrypt).1
      fillable := hFillable }

section

variable (hOpens : Opens site moment.now session.userId sourceIp credential target db)

include hOpens

theorem newLease_of_opens : ∃ granting approval, newLease site moment
    (sessionLeaseCall request sourceIp session credential) db = .ok (leaseRow site moment
      (sessionLeaseCall request sourceIp session credential) credential granting approval
      session.justification) := by
  rcases authorizingPolicyFor_none_iff.mpr hOpens.authorized with ⟨⟨granting, approval⟩, hPolicy⟩
  refine ⟨granting, approval, ?_⟩
  apply newLease_eq_ok_iff.mpr
  exact ⟨session.justification, credential, target,
    granting, approval, hPrepared.normal, hPrepared.stored, hPrepared.hasTarget, hOpens.available,
    by simp [sessionLeaseCall], hPolicy, rfl⟩

theorem openEnvelope_of_opens :
    ∃ envelope final, openEnvelope site moment request sourceIp session db = (.ok envelope, final) ∧
      envelope.content.secret = secret := by
  rcases newLease_of_opens hPrepared hOpens with ⟨granting, approval, hNew⟩
  rcases (leaseSecret_iff hPrepared.stored
    (sessionLease_purpose request sourceIp session credential)).mpr
    ⟨⟨_, hNew, leaseRecorded_of_canSign hPrepared.canSign moment hPrepared.fresh⟩,
      decrypt_eq_ok_iff.mpr ⟨hOpens.keyId, hPrepared.decrypts⟩⟩ with
    ⟨lease, issued, consumed, final, hIssue, hConsume⟩
  have hTarget : db.targets.get session.targetId = some target := by
    rw [hPrepared.sameTarget]
    exact hPrepared.hasTarget
  rcases (sealEnvelope_ok_iff hTarget hPrepared.hasPolicy).mpr hOpens.fillable with
    ⟨envelope, hSeal⟩
  have hFrame : LeaseFrame db issued := by
    have hFrame : LeaseFrame db (issueSecretLease site moment
      (sessionLeaseCall request sourceIp session credential) db).2 :=
      issueSecretLease_frame _ _
    rw [hIssue] at hFrame
    exact hFrame
  refine ⟨envelope, final, ?_, secret_of_sealEnvelope hSeal⟩
  apply openEnvelope_eq_ok_iff.mpr
  refine ⟨credential, _, _, (consumed, secret), hPrepared.hasCredential, hIssue, hConsume, ?_⟩
  rw [sealEnvelope_frame (LeaseFrame.trans _ _ _ hFrame (consumeSecretLease_frame hConsume))]
  exact hSeal

end

end

---- Agreement

def Redeemed (site : Site) (moment : Moment) (request : AuthorizeRequest) (sessionId : Uuid)
    (secret : Text) (db : Database) : Prop :=
  ∃ envelope final ticket, gatewayAuthorize site moment request db = (.success envelope, final) ∧
    envelope.content.secret = secret ∧ final.tickets.get sessionId = some ticket ∧
    ticket.consumedAt = some moment.now

/- What redemption asks for beyond issuance, in the database before the ticket was issued. -/
structure Redeemable (site : Site) (now : Int) (call : OpenCall) (sourceIp : Option IpText)
    (credential : Credential) (target : Target) (db : Database) : Prop where
  available : credential.checkoutEnabled = true ∧ target.enabled = true
  authorized : ∃ policy ∈ candidatePolicies site now call.user target.id .startSession sourceIp db,
    scopeSatisfied now call.user credential target policy db = true ∧ policy.requiresMfa = false
  duration : ∀ policy accessRequest, authorizingPolicyFor site now call.user credential
    target .startSession call.sourceIp
    call.mfaVerifiedAt db =
    .ok (policy, accessRequest) →
    0 < allowedDuration policy accessRequest
  password : target.protocol = .rdp → credential.kind = .password
  keyId : credential.secretEncryptionKeyId = [] ∨ credential.secretEncryptionKeyId = activeKeyId
  sharedKey : 32 ≤ site.sharedKey.length

theorem knownHosts_eq_nil_iff :
    knownHosts target db = [] ↔ hasActiveHostKey target.id db = false := by
  unfold knownHosts hasActiveHostKey
  simp

variable {user : UserId}

/- Opening reads no session, ticket or event. -/
theorem opens_congr (hPolicies : after.policies = db.policies)
    (hRequests : after.accessRequests = db.accessRequests)
    (hHostKeys : after.hostKeys = db.hostKeys) :
    Opens site now user sourceIp credential target after ↔
      Opens site now user sourceIp credential target db := by
  have hCandidates : candidatePolicies site now user target.id .startSession sourceIp after =
    candidatePolicies site now user target.id .startSession sourceIp db := by
    unfold candidatePolicies policiesAllowing policiesForUser
    rw [hPolicies]
  have hScope : ∀ policy, scopeSatisfied now user credential target policy after =
    scopeSatisfied now user credential target policy db := by
    intro policy
    unfold scopeSatisfied activeApproval
    rw [hRequests]
  have hKnown : knownHosts target after = knownHosts target db := by
    unfold knownHosts
    rw [hHostKeys]
  constructor
  · intro hOpens
    have hAuthorized := hOpens.authorized
    have hKeys := hOpens.fillable.hostKeys
    simp only [hCandidates, hScope] at hAuthorized
    rw [hKnown] at hKeys
    exact ⟨hOpens.available, hAuthorized, hOpens.keyId, { hOpens.fillable with hostKeys := hKeys }⟩
  · intro hOpens
    have hAuthorized := hOpens.authorized
    have hKeys := hOpens.fillable.hostKeys
    simp only [← hCandidates, ← hScope] at hAuthorized
    rw [← hKnown] at hKeys
    exact ⟨hOpens.available, hAuthorized, hOpens.keyId, { hOpens.fillable with hostKeys := hKeys }⟩

variable {audit : Audit.AuditLog}

section

variable (hIssued :
  TicketIssued site moment call db session ticket after credential target policy accessRequest)

include hIssued

theorem redeemable_iff : Redeemable site moment.now call sourceIp credential target db ↔
    0 < allowedDuration policy accessRequest ∧
      Opens site moment.now call.user sourceIp credential target db := by
  rcases reservePlace_eq_ok_iff.mp hIssued.place with ⟨hPolicy, _⟩
  rcases checkInteractive_eq_ok_iff.mp hIssued.interactive with ⟨hInteractive, _, hKeys, _⟩
  constructor
  · intro hRedeemable
    refine ⟨hRedeemable.duration policy accessRequest hPolicy, ?_⟩
    refine ⟨hRedeemable.available, hRedeemable.authorized, hRedeemable.keyId, hInteractive, ?_,
      hRedeemable.password, hRedeemable.sharedKey⟩
    intro hSsh hNone hStrict
    rw [knownHosts_eq_nil_iff, hKeys hSsh hStrict] at hNone
    exact Bool.noConfusion hNone
  · rintro ⟨hDuration, hOpens⟩
    refine ⟨hOpens.available, hOpens.authorized, ?_, hOpens.fillable.password, hOpens.keyId,
      hOpens.fillable.sharedKey⟩
    intro policy' accessRequest' hPolicy'
    rw [hPolicy] at hPolicy'
    cases hPolicy'
    exact hDuration

theorem prepared_of_issued (hSign : site.CanSign)
    (hSecret : site.services.keyring.decrypt credential.encryptedSecret = .ok secret)
    (hFresh : db.leases.get (site.services.sha256 request.leaseToken) = none) :
    Prepared site request (openedSession moment.now session) credential target policy secret
      { redeemed moment.now call.sessionId after with audit := audit } := by
  rcases reservePlace_eq_ok_iff.mp hIssued.place with ⟨_, hPolicy, _, _⟩
  have hStored : db.credentials.get credential.id = some credential :=
    get_eq_some_iff.mpr ⟨(get_eq_some_iff.mp hIssued.hasCredential).1, rfl⟩
  rw [hIssued.frame]
  constructor
  · apply found_bind_eq_ok_iff.mpr
    refine ⟨credential.id, ?_, found_eq_ok_iff.mpr hStored⟩
    rw [hIssued.hasSession]
    rfl
  · exact hStored
  · exact hIssued.hasTarget
  · rw [hIssued.hasSession]
    rfl
  · apply found_bind_eq_ok_iff.mpr
    refine ⟨policy.id, ?_, found_eq_ok_iff.mpr hPolicy⟩
    rw [hIssued.hasSession]
    rfl
  · exact normalizeJustification_idempotent hIssued.hasJustification
  · exact hSign
  · exact hSecret
  · exact hFresh

theorem opens_redeemed_iff : Opens site moment.now user sourceIp credential target
      { redeemed moment.now call.sessionId after with audit := audit } ↔
    Opens site moment.now user sourceIp credential target db := by
  apply opens_congr
  all_goals
    rw [hIssued.frame]
    rfl

section

variable (hPayload : request.payload = .ok ⟨Uuid.str call.sessionId, call.token, call.sourceIp⟩)
  (hSign : site.CanSign)
  (hSecret : site.services.keyring.decrypt credential.encryptedSecret = .ok secret)
  (hFresh : db.leases.get (site.services.sha256 request.leaseToken) = none)

include hPayload hSign hSecret hFresh

theorem opens_of_gatewayAuthorize {final : Database}
    (hAuthorize : gatewayAuthorize site moment request after = (.success envelope, final)) :
    0 < allowedDuration policy accessRequest ∧
      Opens site moment.now call.user (call.sourceIp.or request.clientIp) credential target db := by
  have hParse := Uuid.parse_str call.sessionId
  have hRow := session_issued_get hIssued
  have hUser : session.userId = call.user := by
    rw [hIssued.hasSession]
    rfl
  cases hConsume : consumeSessionTicket site moment call.sessionId call.token session.userId
    (call.sourceIp.or request.clientIp) after with
  | error failure =>
    rw [gatewayAuthorize_of_refused hPayload hParse hRow hConsume] at hAuthorize
    injection hAuthorize with hAnswer
    exact absurd hAnswer refuse_ne_success
  | ok result =>
    rcases result with ⟨opened, middle⟩
    rw [gatewayAuthorize_of_consumed hPayload hParse hRow hConsume, answerConsumed_eq_success_iff]
      at hAuthorize
    rw [hUser] at hConsume
    refine ⟨duration_of_consumeSessionTicket hIssued hConsume, ?_⟩
    rcases redeemed_of_consumeSessionTicket hConsume with ⟨_, row, audit, _, _, hGet, _, rfl, rfl⟩
    cases Option.mem_unique hRow hGet
    have hOpens :=
      opens_of_openEnvelope (prepared_of_issued hIssued hSign hSecret hFresh) hAuthorize
    rw [← hUser]
    exact (opens_redeemed_iff hIssued).mp hOpens

theorem gatewayAuthorize_of_opens (hDuration : 0 < allowedDuration policy accessRequest) (hOpens :
      Opens site moment.now call.user (call.sourceIp.or request.clientIp) credential target db) :
    Redeemed site moment request call.sessionId secret after := by
  have hParse := Uuid.parse_str call.sessionId
  have hRow := session_issued_get hIssued
  have hUser : session.userId = call.user := by
    rw [hIssued.hasSession]
    rfl
  rcases consumeSessionTicket_issued hIssued hSign hDuration request.clientIp with ⟨audit, hConsume⟩
  rw [← hUser] at hConsume hOpens
  rcases openEnvelope_of_opens (prepared_of_issued hIssued hSign hSecret hFresh)
    ((opens_redeemed_iff hIssued).mpr hOpens) with
    ⟨envelope, final, hOpen, hContent⟩
  refine ⟨envelope, final, consumedTicket moment.now ticket, ?_, hContent, ?_, rfl⟩
  · rw [gatewayAuthorize_of_consumed hPayload hParse hRow hConsume, answerConsumed_eq_success_iff]
    exact hOpen
  · rw [(openEnvelope_frame_of_ok hOpen).tickets]
    exact redeemed_tickets_get_self (ticket_issued_get hIssued)

end

end

/-
  An issued ticket is redeemed in the same instant exactly if the session may last, the credential
  can be checked out, and some policy without MFA authorizes it.
-/
theorem redemption_agrees_iff {secret : Text}
    (hIssue : issueSessionTicket site moment call db = .ok ((session, ticket), after))
    (hCredential : db.credentials.get call.credentialId = some credential)
    (hTarget : db.targets.get credential.targetId = some target)
    (hPayload : request.payload = .ok ⟨Uuid.str call.sessionId, call.token, call.sourceIp⟩)
    (hSign : site.CanSign)
    (hSecret : site.services.keyring.decrypt credential.encryptedSecret = .ok secret)
    (hFresh : db.leases.get (site.services.sha256 request.leaseToken) = none) :
    Redeemed site moment request call.sessionId secret after ↔
      Redeemable site moment.now call (call.sourceIp.or request.clientIp) credential target db := by
  rcases issueSessionTicket_eq_ok hIssue with ⟨credential', target', policy, accessRequest, hIssued⟩
  cases Option.mem_unique hIssued.hasCredential hCredential
  cases Option.mem_unique hIssued.hasTarget hTarget
  rw [redeemable_iff hIssued]
  constructor
  · rintro ⟨envelope, final, _, hAuthorize, _⟩
    exact opens_of_gatewayAuthorize hIssued hPayload hSign hSecret hFresh hAuthorize
  · rintro ⟨hDuration, hOpens⟩
    exact gatewayAuthorize_of_opens hIssued hPayload hSign hSecret hFresh hDuration hOpens

def sampleRequest : AuthorizeRequest where
  payload := .ok ⟨Uuid.str 4, "ticket", none⟩
  clientIp := none
  leaseId := 5
  leaseToken := "lease"

theorem sampleSite_canSign : sampleSite.CanSign := by
  intro text
  exact ⟨115 :: text, rfl⟩

theorem redemption_agrees_sample :
    ∃ session ticket after, issueSessionTicket sampleSite sampleMoment sampleOpenCall
      (sampleDatabase sampleCredential samplePolicies) = .ok ((session, ticket), after) ∧
      Redeemed sampleSite sampleMoment sampleRequest 4 "secret" after := by
  have hIssue : ∃ result, issueSessionTicket sampleSite sampleMoment sampleOpenCall
    (sampleDatabase sampleCredential samplePolicies) = .ok result :=
    ⟨_, rfl⟩
  rcases hIssue with ⟨⟨⟨session, ticket⟩, after⟩, hIssue⟩
  refine ⟨session, ticket, after, hIssue, ?_⟩
  refine (redemption_agrees_iff hIssue rfl rfl rfl sampleSite_canSign rfl rfl).mpr ?_
  refine ⟨⟨rfl, rfl⟩, ⟨samplePolicy, ?_, rfl, rfl⟩, ?_, ?_, .inl rfl, by decide⟩
  · decide
  · intro policy accessRequest hPolicy
    cases hPolicy
    decide
  · intro hRdp
    exact absurd hRdp (by decide)

/- The only policy requires MFA: the ticket is issued, and refused by the gateway endpoint. -/
theorem ticket_under_mfa_refused :
    ∃ session ticket after, issueSessionTicket sampleSite sampleMoment
      { sampleOpenCall with mfaVerifiedAt := some 0 }
      (sampleDatabase sampleCredential ⟨[{ samplePolicy with requiresMfa := true }], by decide⟩) =
      .ok ((session, ticket), after) ∧
      (gatewayAuthorize sampleSite sampleMoment sampleRequest after).1 = .forbidden := by
  refine ⟨_, _, _, rfl, ?_⟩
  rfl

end PamOlive.Api
