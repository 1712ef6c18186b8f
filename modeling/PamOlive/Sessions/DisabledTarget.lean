import PamOlive.Sessions.Quota

/-
  Whether a disabled target is out of reach.

  A secret is never leased for a disabled target. The three functions that open a session do not
  read the flag.
-/

---- Attempts

namespace PamOlive.Sessions

open Foundations Vault Table

/- The functions that give access to a target. -/
inductive AccessCall where
  | issueSessionTicket (call : OpenCall)
  | startWebSession (call : OpenCall)
  | consumeSessionTicket (sessionId : Uuid) (token : Text) (user : UserId)
    (sourceIp : Option IpText)
  | issueSecretLease (call : LeaseCall)

def settled {α : Type} (result : Except Failure (α × Database))
    (db : Database) : Option Failure × Database :=
  match result with
  | .ok (_, after) => (none, after)
  | .error failure => (some failure, db)

def attempt (site : Site) (moment : Moment) (call : AccessCall)
    (db : Database) : Option Failure × Database :=
  match call with
  | .issueSessionTicket call => settled (issueSessionTicket site moment call db) db
  | .startWebSession call => settled (startWebSession site moment call db) db
  | .consumeSessionTicket sessionId token user sourceIp =>
    settled (consumeSessionTicket site moment sessionId token user sourceIp db) db
  | .issueSecretLease call =>
    match Vault.issueSecretLease site moment call db with
    | (.ok _, after) => (none, after)
    | (.error failure, after) => (some failure, after)

theorem settled_refused_iff {α : Type} {result : Except Failure (α × Database)} {db : Database} :
    ((settled result db).1 ≠ none ∧ (settled result db).2 = db) ↔
      ¬ ∃ value, result = .ok value := by
  cases result with
  | error failure => simp [settled]
  | ok value => simp [settled]

def Refused (site : Site) (moment : Moment) (call : AccessCall) (db : Database) : Prop :=
  (attempt site moment call db).1 ≠ none ∧ (attempt site moment call db).2 = db

def IsOn (call : AccessCall) (target : Target) (db : Database) : Prop :=
  match call with
  | .issueSessionTicket call
  | .startWebSession call =>
    ∃ credential, db.credentials.get call.credentialId = some credential ∧
      db.targets.get credential.targetId = some target
  | .consumeSessionTicket sessionId _ _ _ =>
    ∃ session,
      db.sessions.get sessionId = some session ∧ db.targets.get session.targetId = some target
  | .issueSecretLease call =>
    ∃ credential, db.credentials.get call.credentialId = some credential ∧
      db.targets.get credential.targetId = some target

---- Conditions

section

variable (site : Site) (moment : Moment) (call : OpenCall) (db : Database)

/- What both functions that open a session ask for. -/
structure Opening (justification : Text) (credential : Credential) (target : Target)
    (policy : AccessPolicy) (accessRequest : Option AccessRequest) : Prop where
  isJustified : normalizeJustification call.justification = .ok justification
  hasCredential : db.credentials.get call.credentialId = some credential
  hasTarget : db.targets.get credential.targetId = some target
  isAuthorized :
    authorizingPolicyFor site moment.now call.user credential target .startSession call.sourceIp
      call.mfaVerifiedAt db =
      .ok (policy, accessRequest)
  hasPlace : activeSessionCount ⟨call.user, target.id, policy.id⟩
    moment.now db < policy.maxConcurrentSessions
  isFresh : db.sessions.get call.sessionId = none

def OpeningRecorded (action : Text)
    (credential : Credential) (target : Target) (policy : AccessPolicy)
    (justification : Text) : Prop :=
  db.CanRecord site moment (some call.user) action sessionResourceType (Uuid.str call.sessionId)
    (openingMetadata credential target policy.id justification) call.sourceIp

end

/- The conditions of each function; the first three do not mention whether the target is enabled. -/
def Admitted (site : Site) (moment : Moment) (call : AccessCall) (db : Database) : Prop :=
  match call with
  | .issueSessionTicket call =>
    ∃ justification credential target policy accessRequest,
      Opening site moment call db justification credential target policy accessRequest ∧
        checkInteractive site call target db = .ok () ∧
        (∀ ticket ∈ db.tickets.rows, ticket.tokenHash ≠ site.services.sha256 call.token) ∧
        db.tickets.get call.sessionId = none ∧
        OpeningRecorded site moment call db "session.ticket_issued"
          credential target policy justification
  | .startWebSession call =>
    ∃ justification credential target policy accessRequest,
      Opening site moment call db justification credential target policy accessRequest ∧
        target.protocol = .web ∧ OpeningRecorded site moment call db "session.web_opened" credential
          target policy justification
  | .consumeSessionTicket sessionId token user sourceIp =>
    ∃ ticket session target policy, db.tickets.get sessionId = some ticket ∧
      ticket.tokenHash = site.services.sha256 token ∧ db.sessions.get sessionId = some session ∧
      db.targets.get session.targetId = some target ∧
      checkTicket moment.now user sourceIp ticket session = .ok () ∧
      session.policyId = some policy.id ∧ db.policies.get policy.id = some policy ∧
      otherOpenCount ⟨session.userId, session.targetId, policy.id⟩
        sessionId db < policy.maxConcurrentSessions ∧
      db.CanRecord site moment (some user) "session.opened"
        sessionResourceType (Uuid.str session.id)
        (.obj [("protocol", .str target.protocol.text)]) sourceIp
  | .issueSecretLease _ => False

variable {site : Site} {moment : Moment} {db : Database} {call : OpenCall}

theorem Opening.hasPolicy
    {justification : Text} {credential : Credential} {target : Target} {policy : AccessPolicy}
    {accessRequest : Option AccessRequest}
    (hOpening : Opening site moment call db justification credential target policy accessRequest) :
    db.policies.get policy.id = some policy :=
  get_eq_some_iff.mpr ⟨mem_of_authorizingPolicyFor hOpening.isAuthorized, rfl⟩

---- Functions That Return

theorem issueSessionTicket_returns_iff :
    (∃ result, issueSessionTicket site moment call db = .ok result) ↔
      Admitted site moment (.issueSessionTicket call) db := by
  unfold issueSessionTicket
  simp only [bind_eq_ok_iff, found_eq_ok_iff, exists_unit_iff, Prod.exists, reservePlace_eq_ok_iff,
    insertTicket_eq_ok_iff, return_eq_ok_iff]
  constructor
  · rintro ⟨_, _, _, justification, hForm, credential, hCredential, target, hTarget, hCheck, policy,
      accessRequest, _, ⟨hAuthorized, _, hCount, rfl⟩, sessions, hSessions,
      tickets, ⟨hHash, hTickets⟩, _, hRecord, _⟩
    exact ⟨justification, credential, target, policy, accessRequest,
      ⟨hForm, hCredential, hTarget, hAuthorized, hCount, exists_insert_iff.mp ⟨_, hSessions⟩⟩,
      hCheck, hHash, exists_insert_iff.mp ⟨_, hTickets⟩, .of_recordEvent hRecord rfl⟩
  · rintro ⟨justification, credential, target, policy, accessRequest, hOpening, hCheck, hHash,
      hFree, hRecorded⟩
    have hSessions := (@exists_insert_iff _ _ _ _ db.sessions (newSession moment call credential
      policy accessRequest (allowedDuration policy accessRequest) justification)).mpr
      hOpening.isFresh
    have hTickets := (@exists_insert_iff _ _ _ _ db.tickets (newTicket site moment call)).mpr hFree
    rcases hSessions with ⟨sessions, hSessions⟩
    rcases hTickets with ⟨tickets, hTickets⟩
    rcases @Database.CanRecord.recordEvent _ _ _ _ _ _ _ _ db
      { db with sessions := sessions, tickets := tickets } rfl hRecorded with ⟨recorded, hRecord⟩
    exact ⟨_, _, recorded, justification, hOpening.isJustified, credential, hOpening.hasCredential,
      target, hOpening.hasTarget, hCheck, policy, accessRequest, _,
      ⟨hOpening.isAuthorized, hOpening.hasPolicy, hOpening.hasPlace, rfl⟩, sessions, hSessions,
      tickets, ⟨hHash, hTickets⟩, recorded, hRecord, rfl, rfl⟩

theorem startWebSession_returns_iff : (∃ result, startWebSession site moment call db = .ok result) ↔
    Admitted site moment (.startWebSession call) db := by
  unfold startWebSession
  simp only [bind_eq_ok_iff, found_eq_ok_iff, exists_unit_iff, require_eq_ok_iff, Prod.exists,
    reservePlace_eq_ok_iff, return_eq_ok_iff]
  constructor
  · rintro ⟨_, _, justification, hForm, credential, hCredential, target, hTarget, hWeb, policy,
      accessRequest, _, ⟨hAuthorized, _, hCount, rfl⟩, sessions, hSessions, _, hRecord, _⟩
    exact ⟨justification, credential, target, policy, accessRequest,
      ⟨hForm, hCredential, hTarget, hAuthorized, hCount, exists_insert_iff.mp ⟨_, hSessions⟩⟩,
      hWeb, .of_recordEvent hRecord rfl⟩
  · rintro ⟨justification, credential, target, policy, accessRequest, hOpening, hWeb, hRecorded⟩
    have hSessions := (@exists_insert_iff _ _ _ _ db.sessions (openedSession moment.now (newSession
      moment call credential policy accessRequest (allowedDuration policy accessRequest)
      justification))).mpr hOpening.isFresh
    rcases hSessions with ⟨sessions, hSessions⟩
    rcases @Database.CanRecord.recordEvent _ _ _ _ _ _ _ _ db { db with sessions := sessions } rfl
      hRecorded with ⟨recorded, hRecord⟩
    exact ⟨_, recorded, justification, hOpening.isJustified, credential, hOpening.hasCredential,
      target, hOpening.hasTarget, hWeb, policy, accessRequest, _,
      ⟨hOpening.isAuthorized, hOpening.hasPolicy, hOpening.hasPlace, rfl⟩, sessions, hSessions,
      recorded, hRecord, rfl, rfl⟩

theorem consumeSessionTicket_returns_iff
    {sessionId : Uuid} {token : Text} {user : UserId} {sourceIp : Option IpText} :
    (∃ result, consumeSessionTicket site moment sessionId token user sourceIp db = .ok result) ↔
      Admitted site moment (.consumeSessionTicket sessionId token user sourceIp) db := by
  constructor
  · rintro ⟨⟨opened, after⟩, hConsume⟩
    rcases consumeSessionTicket_eq_ok_iff.mp hConsume with
      ⟨ticket, session, target, policyId, policy, hTicket,
        hSession, hTarget, hCheck, hPolicyId, hPolicy, hCount, hRecord, _⟩
    rcases Option.filter_eq_some_iff.mp hTicket with ⟨hGet, hHash⟩
    have hId := (get_eq_some_iff.mp hPolicy).2
    subst hId
    exact ⟨ticket, session, target, policy, hGet,
      of_decide_eq_true hHash, hSession, hTarget, hCheck, hPolicyId, hPolicy, hCount,
      Database.CanRecord.of_recordEvent hRecord rfl⟩
  · rintro ⟨ticket, session, target, policy, hGet, hHash,
    hSession, hTarget, hCheck, hPolicyId, hPolicy, hCount, hRecorded⟩
    have hRecord := @Database.CanRecord.recordEvent _ _ _ _ _ _ _ _ db
      (redeemed moment.now sessionId db) rfl hRecorded
    rcases hRecord with ⟨after, hRecord⟩
    have hTicket : (db.tickets.get sessionId).filter
      (fun ticket => decide (ticket.tokenHash = site.services.sha256 token)) = some ticket :=
      Option.filter_eq_some_iff.mpr ⟨hGet, decide_eq_true hHash⟩
    exact ⟨_, consumeSessionTicket_eq_ok_iff.mpr
      ⟨ticket, session, target, policy.id, policy, hTicket,
        hSession, hTarget, hCheck, hPolicyId, hPolicy, hCount, hRecord, rfl⟩⟩

theorem refused_issueSecretLease {call : LeaseCall} {target : Target}
    (hTarget : IsOn (.issueSecretLease call) target db)
    (hDisabled : target.enabled = false) : Refused site moment (.issueSecretLease call) db := by
  have hRefused : ∃ failure, newLease site moment call db = .error failure := by
    cases hNew : newLease site moment call db with
    | error failure => exact ⟨failure, rfl⟩
    | ok lease =>
      rcases newLease_eq_ok_iff.mp hNew with
        ⟨_, credential, target', _, _, _, hCredential, hTarget', hAvailable, _⟩
      rcases hTarget with ⟨held, hHeld, hTarget⟩
      rw [hCredential] at hHeld
      injection hHeld with hHeld
      rw [hHeld, hTarget] at hTarget'
      injection hTarget' with hTarget'
      rw [← hTarget', hDisabled] at hAvailable
      exact absurd hAvailable.2 Bool.false_ne_true
  rcases hRefused with ⟨failure, hNew⟩
  have hIssue : issueSecretLease site moment call db = (.error failure, db) := by
    unfold issueSecretLease
    rw [hNew]
  unfold Refused attempt
  dsimp only
  rw [hIssue]
  exact ⟨Option.some_ne_none failure, rfl⟩

---- Disabled Targets

/- A call on a disabled target is refused exactly if its other conditions do not all hold. -/
theorem disabled_target_refused_iff
    {site : Site} {moment : Moment} {call : AccessCall} {target : Target} {db : Database}
    (hTarget : IsOn call target db) (hDisabled : target.enabled = false) :
    Refused site moment call db ↔ ¬ Admitted site moment call db := by
  cases call with
  | issueSessionTicket call =>
    rw [← issueSessionTicket_returns_iff]
    exact settled_refused_iff
  | startWebSession call =>
    rw [← startWebSession_returns_iff]
    exact settled_refused_iff
  | consumeSessionTicket sessionId token user sourceIp =>
    rw [← consumeSessionTicket_returns_iff]
    exact settled_refused_iff
  | issueSecretLease call =>
    exact ⟨fun _ hAdmitted => hAdmitted, fun _ => refused_issueSecretLease hTarget hDisabled⟩

def disabledTarget (protocol : Protocol) : Target :=
  { sampleTarget with protocol := protocol, enabled := false }

def disabledDatabase (protocol : Protocol) : Database :=
  { sampleDatabase sampleCredential samplePolicies with
    targets := ⟨[disabledTarget protocol], by simp⟩ }

def disabledLeaseCall : LeaseCall where
  user := sampleUser
  credentialId := 2
  justification := "maintenance"
  purpose := .reveal
  lifetimeSeconds := 60
  sourceIp := none
  mfaVerifiedAt := none
  leaseId := 5
  token := "lease"

theorem disabled_target_refused_sample :
    IsOn (.issueSecretLease disabledLeaseCall) (disabledTarget .ssh) (disabledDatabase .ssh) ∧
      Refused sampleSite sampleMoment (.issueSecretLease disabledLeaseCall)
        (disabledDatabase .ssh) := by
  have hTarget :
    IsOn (.issueSecretLease disabledLeaseCall) (disabledTarget .ssh) (disabledDatabase .ssh) :=
    ⟨sampleCredential, rfl, rfl⟩
  exact ⟨hTarget, (disabled_target_refused_iff hTarget rfl).mpr (fun hAdmitted => hAdmitted)⟩

/- A ticket for a disabled target is issued and redeemed, and a disabled web target opened. -/
theorem disabled_target_reached :
    (∃ issued opened session, attempt sampleSite sampleMoment (.issueSessionTicket sampleOpenCall)
      (disabledDatabase .ssh) = (none, issued) ∧
      attempt sampleSite sampleMoment (.consumeSessionTicket 4 "ticket"
        sampleUser none) issued = (none, opened) ∧
      opened.targets.get 1 = some (disabledTarget .ssh) ∧ opened.sessions.get 4 = some session ∧
      session.targetId = 1 ∧ session.status = .active) ∧
      ∃ opened session, attempt sampleSite sampleMoment (.startWebSession sampleOpenCall)
        (disabledDatabase .web) = (none, opened) ∧
        opened.targets.get 1 = some (disabledTarget .web) ∧ opened.sessions.get 4 = some session ∧
        session.targetId = 1 ∧ session.status = .active :=
  ⟨⟨_, _, _, rfl, rfl, rfl, rfl, rfl, rfl⟩, ⟨_, _, rfl, rfl, rfl, rfl, rfl⟩⟩

end PamOlive.Sessions
