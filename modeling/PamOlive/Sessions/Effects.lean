import PamOlive.Sessions.Services
import PamOlive.Vault.Effects

/-
  What each transaction on sessions does when it returns.

  One lemma for each function says which checks have passed and how the database has changed; later
  proofs do not unfold the functions.
-/

---- Opening

namespace PamOlive.Sessions

open Foundations Vault Table Database

variable {site : Site} {moment : Moment} {db after : Database}
variable {call : OpenCall} {ticket : SessionTicket} {session : PrivilegedSession}
variable {message : Text}

theorem normalizeJustification_ne_permissionDenied {value : Text} :
    normalizeJustification value ≠ .error (.permissionDenied message) := by
  unfold normalizeJustification
  simp [require_bind_eq_error_iff, pure, Except.pure]

/- None of the steps that both ways of opening a session take first denies a permission. -/
theorem opening_bind_eq_denied_iff
    {α : Type} {next : Text → Credential → Target → Except Failure α} :
    (do
      let justification ← normalizeJustification call.justification
      let credential ← found (db.credentials.get call.credentialId) .doesNotExist
      let target ← found (db.targets.get credential.targetId) .doesNotExist
      next justification credential target) = .error (.permissionDenied message) ↔
      ∃ justification credential target, normalizeJustification call.justification =
        .ok justification ∧ db.credentials.get call.credentialId = some credential ∧
        db.targets.get credential.targetId = some target ∧
        next justification credential target = .error (.permissionDenied message) := by
  simp only [bind_eq_error_iff, found_eq_error_iff, found_eq_ok_iff, reduceCtorEq, and_false,
    normalizeJustification_ne_permissionDenied, false_or, exists_and_left]

variable {target : Target}

theorem reservePlace_eq_ok_iff {refusal : Failure} {credential : Credential} {policy : AccessPolicy}
    {accessRequest : Option AccessRequest} {duration : Nat} :
    reservePlace site moment call refusal credential target db =
      .ok (policy, accessRequest, duration) ↔
      authorizingPolicyFor site moment.now call.user credential target .startSession call.sourceIp
        call.mfaVerifiedAt db = .ok (policy, accessRequest) ∧
        db.policies.get policy.id = some policy ∧
        activeSessionCount ⟨call.user, target.id, policy.id⟩ moment.now db <
          policy.maxConcurrentSessions ∧ duration = allowedDuration policy accessRequest := by
  unfold reservePlace
  simp only [bind_eq_ok_iff, found_eq_ok_iff, require_eq_ok_iff, exists_unit_iff, return_eq_ok_iff,
    Prod.exists, Prod.mk.injEq]
  constructor
  · rintro ⟨authorizing, _, hAuthorized, row, hGet, hCount, rfl, rfl, rfl⟩
    have hSelf : db.policies.get authorizing.id = some authorizing :=
      get_eq_some_iff.mpr ⟨mem_of_authorizingPolicyFor hAuthorized, rfl⟩
    cases Option.mem_unique hSelf hGet
    exact ⟨hAuthorized, hGet, hCount, rfl⟩
  · rintro ⟨hAuthorized, hGet, hCount, rfl⟩
    exact ⟨policy, accessRequest, hAuthorized, policy, hGet, hCount, rfl, rfl, rfl⟩

theorem insertTicket_eq_ok_iff {tickets : Table SessionTicket.sessionId} :
    insertTicket ticket db = .ok tickets ↔
      (∀ other ∈ db.tickets.rows, other.tokenHash ≠ ticket.tokenHash) ∧
      db.tickets.insert ticket = some tickets := by
  unfold insertTicket
  rw [require_bind_eq_ok_iff, found_eq_ok_iff]

theorem checkInteractive_eq_ok_iff : checkInteractive site call target db = .ok () ↔
    (target.protocol = .ssh ∨ target.protocol = .rdp) ∧
      (target.protocol = .rdp → site.rdpEnabled = true) ∧ (target.protocol = .ssh →
        target.sshHostKeyPolicy = .strict → hasActiveHostKey target.id db = true) ∧
      15 ≤ call.lifetimeSeconds ∧ call.lifetimeSeconds ≤ 120 := by
  unfold checkInteractive
  simp only [require_bind_eq_ok_iff, require_eq_ok_iff]

/- The checks a ticket has passed, and the rows it left. -/
structure TicketIssued (site : Site) (moment : Moment) (call : OpenCall) (db : Database)
    (session : PrivilegedSession) (ticket : SessionTicket) (after : Database)
    (credential : Credential) (target : Target) (policy : AccessPolicy)
    (accessRequest : Option AccessRequest) : Prop where
  hasJustification : normalizeJustification call.justification = .ok session.justification
  hasCredential : db.credentials.get call.credentialId = some credential
  hasTarget : db.targets.get credential.targetId = some target
  interactive : checkInteractive site call target db = .ok ()
  place : reservePlace site moment call quotaReached credential target db =
    .ok (policy, accessRequest, allowedDuration policy accessRequest)
  hasSession : session =
    newSession moment call credential policy accessRequest (allowedDuration policy accessRequest)
      session.justification
  hasTicket : ticket = newTicket site moment call
  hasSessions : db.sessions.insert session = some after.sessions
  hasTickets : insertTicket ticket db = .ok after.tickets
  frame : after =
    { db with
      sessions := after.sessions
      tickets := after.tickets
      audit := after.audit }

theorem issueSessionTicket_eq_ok
    (hIssue : issueSessionTicket site moment call db = .ok ((session, ticket), after)) :
    ∃ credential target policy accessRequest, TicketIssued site moment call db session ticket after
      credential target policy accessRequest := by
  unfold issueSessionTicket at hIssue
  simp only [bind_eq_ok_iff, found_eq_ok_iff, exists_unit_iff, Prod.exists] at hIssue
  rcases hIssue with ⟨justification, hJustification, credential, hCredential, target, hTarget,
    hCheck, policy, accessRequest, _, hPlace, sessions, hSessions, tickets, hTickets, _, hRecord,
    ⟨rfl, rfl⟩, rfl⟩
  rcases recordEvent_eq_ok hRecord with ⟨audit, rfl⟩
  rcases reservePlace_eq_ok_iff.mp hPlace with ⟨_, _, _, rfl⟩
  exact ⟨credential, target, policy, accessRequest, hJustification, hCredential, hTarget, hCheck,
    hPlace, rfl, rfl, hSessions, hTickets, rfl⟩

theorem startWebSession_eq_ok
    (hStart : startWebSession site moment call db = .ok (session, after)) :
    ∃ justification credential target policy accessRequest sessions audit,
      db.targets.get credential.targetId = some target ∧
        reservePlace site moment call webQuotaReached credential target db =
          .ok (policy, accessRequest, allowedDuration policy accessRequest) ∧
        session = openedSession moment.now (newSession moment call credential policy accessRequest
          (allowedDuration policy accessRequest) justification) ∧
        db.sessions.insert session = some sessions ∧ after = { db with
            sessions := sessions
            audit := audit } := by
  unfold startWebSession at hStart
  simp only [bind_eq_ok_iff, found_eq_ok_iff, exists_unit_iff, Prod.exists] at hStart
  rcases hStart with ⟨justification, _, credential, _, target, hTarget, _, policy, accessRequest, _,
    hPlace, sessions, hSessions, _, hRecord, rfl, rfl⟩
  rcases recordEvent_eq_ok hRecord with ⟨audit, rfl⟩
  rcases reservePlace_eq_ok_iff.mp hPlace with ⟨_, _, _, rfl⟩
  exact ⟨justification, credential, target, policy, accessRequest, sessions, audit, hTarget, hPlace,
    rfl, hSessions, rfl⟩

---- Redeeming

variable {now : Int} {user : UserId} {sourceIp : Option IpText} {sessionId : Uuid} {token : Text}

theorem checkTicket_eq_ok_iff :
    checkTicket now user sourceIp ticket session = .ok () ↔ isLive now ticket = true ∧
      session.userId = user ∧ session.status = .created ∧
      session.expiresAt.all (fun instant => decide (now < instant)) = true ∧
      addressChanged ticket.sourceIp sourceIp = false := by
  unfold checkTicket
  simp only [require_bind_eq_ok_iff, require_eq_ok_iff]

theorem checkTicket_ne_quotaReached
    (now : Int) (user : UserId) (sourceIp : Option IpText) (ticket : SessionTicket)
    (session : PrivilegedSession) :
    checkTicket now user sourceIp ticket session ≠ .error quotaReached := by
  unfold checkTicket quotaReached
  simp only [ne_eq, require_bind_eq_error_iff, require_eq_error_iff, Failure.permissionDenied.injEq]
  intro hError
  rcases hError with ⟨_, hText⟩ | ⟨_, ⟨_, hText⟩ |
    ⟨_, ⟨_, hText⟩ | ⟨_, ⟨_, hText⟩ | ⟨_, _, hText⟩⟩⟩⟩
  all_goals simp at hText

variable {opened : PrivilegedSession}

theorem consumeSessionTicket_eq_ok_iff :
    consumeSessionTicket site moment sessionId token user sourceIp db = .ok (opened, after) ↔
      ∃ ticket session target policyId policy, (db.tickets.get sessionId).filter
        (fun ticket => decide (ticket.tokenHash = site.services.sha256 token)) = some ticket ∧
        db.sessions.get sessionId = some session ∧ db.targets.get session.targetId = some target ∧
        checkTicket moment.now user sourceIp ticket session = .ok () ∧
        session.policyId = some policyId ∧ db.policies.get policyId = some policy ∧
        otherOpenCount ⟨session.userId, session.targetId, policy.id⟩
          sessionId db < policy.maxConcurrentSessions ∧
        (redeemed moment.now sessionId db).recordEvent site moment (some user) "session.opened"
          sessionResourceType (Uuid.str session.id)
          (.obj [("protocol", .str target.protocol.text)]) sourceIp = .ok after ∧
        opened = openedSession moment.now session := by
  unfold consumeSessionTicket
  simp only [bind_eq_ok_iff, found_eq_ok_iff, exists_unit_iff, require_eq_ok_iff, return_eq_ok_iff,
    exists_and_left, exists_eq_right_right, @eq_comm _ opened]

theorem redeemed_tickets_get_of_ne {other : Uuid} (hOther : other ≠ sessionId) :
    (redeemed now sessionId db).tickets.get other = db.tickets.get other := by
  unfold redeemed
  rw [get_modify_of_ne hOther]

theorem redeemed_tickets_get_self (hTicket : db.tickets.get sessionId = some ticket) :
    (redeemed now sessionId db).tickets.get sessionId = some (consumedTicket now ticket) := by
  unfold redeemed
  rw [get_modify_self hTicket]

theorem redeemed_sessions_get_self (hSession : db.sessions.get sessionId = some session) :
    (redeemed now sessionId db).sessions.get sessionId = some (openedSession now session) := by
  unfold redeemed
  rw [get_modify_self hSession]

theorem redeemed_of_consumeSessionTicket (hConsume :
    consumeSessionTicket site moment sessionId token user sourceIp db = .ok (opened, after)) :
    ∃ ticket session audit, db.tickets.get sessionId = some ticket ∧
      isLive moment.now ticket = true ∧ db.sessions.get sessionId = some session ∧
      session.status = .created ∧ opened = openedSession moment.now session ∧ after =
        { redeemed moment.now sessionId db with audit := audit } := by
  rcases consumeSessionTicket_eq_ok_iff.mp hConsume with
    ⟨ticket, session, _, _, _, hTicket, hSession, _, hCheck, _, _, _, hRecord, hOpened⟩
  rcases checkTicket_eq_ok_iff.mp hCheck with ⟨hLive, _, hCreated, _⟩
  rcases recordEvent_eq_ok hRecord with ⟨audit, hAfter⟩
  rcases Option.filter_eq_some_iff.mp hTicket with ⟨hGet, _⟩
  exact ⟨ticket, session, audit, hGet, hLive, hSession, hCreated, hOpened, hAfter⟩

theorem consumeSessionTicket_eq_quotaReached (hConsume :
    consumeSessionTicket site moment sessionId token user sourceIp db = .error quotaReached) :
    ∃ ticket session policy, db.tickets.get sessionId = some ticket ∧
      isLive moment.now ticket = true ∧ db.sessions.get sessionId = some session ∧
      session.status = .created ∧ session.policyId = some policy.id ∧
      db.policies.get policy.id = some policy ∧ policy.maxConcurrentSessions ≤
        otherOpenCount ⟨session.userId, session.targetId, policy.id⟩ sessionId db := by
  unfold consumeSessionTicket at hConsume
  simp only [bind_eq_error_iff, found_eq_error_iff, found_eq_ok_iff, require_eq_error_iff,
    exists_unit_iff, checkTicket_ne_quotaReached, false_or] at hConsume
  simp [quotaReached] at hConsume
  rcases hConsume with ⟨ticket, ⟨hTicket, _⟩, session, hSession, _, _, hCheck, _, hPolicyId, policy,
    hPolicy, hFull | ⟨_, hRecord | ⟨_, _, hReturn⟩⟩⟩
  · rcases checkTicket_eq_ok_iff.mp hCheck with ⟨hLive, _, hCreated, _⟩
    have hId := (get_eq_some_iff.mp hPolicy).2
    subst hId
    exact ⟨ticket, session, policy, hTicket, hLive, hSession, hCreated, hPolicyId, hPolicy, hFull⟩
  · cases recordEvent_eq_error hRecord
  · cases hReturn

---- Ending

variable {actor : Option UserId} {reason : Text} {failed : Bool}

theorem closeSession_eq_ok {closed : PrivilegedSession}
    (hClose : closeSession site moment sessionId actor reason failed db = .ok (closed, after)) :
    ∃ locked, db.sessions.get sessionId = some locked ∧ ((isOver locked = true ∧ after = db) ∨
      ∃ audit, isOver locked = false ∧ after = { db with
          sessions := db.sessions.modify sessionId (endedSession moment.now reason failed)
            (endedSession_id moment.now reason failed)
          audit := audit }) := by
  rcases found_bind_eq_ok_iff.mp hClose with ⟨locked, hLocked, hClose⟩
  refine ⟨locked, hLocked, ?_⟩
  split at hClose
  · rename_i hOver
    exact .inl ⟨hOver, (return_eq_ok_iff.mp hClose).2.symm⟩
  · rename_i hOver
    rcases require_bind_eq_ok_iff.mp hClose with ⟨_, hClose⟩
    rcases recordEvent_bind_eq_ok hClose with ⟨_, audit, hAfter⟩
    exact .inr ⟨audit, by simpa using hOver, hAfter⟩

theorem closeSession_eq_error {failure : Failure}
    (hSession : db.sessions.get sessionId = some session)
    (hClose : closeSession site moment sessionId actor reason failed db = .error failure) :
    failure = .keyringError ∨
      failure = .valueError ∧ Text.isStorable (reason.take 255) = false := by
  unfold closeSession at hClose
  rw [hSession, found_some_bind] at hClose
  split at hClose
  · cases hClose
  rcases require_bind_eq_error_iff.mp hClose with ⟨hReason, rfl⟩ | ⟨_, hClose⟩
  · exact .inr ⟨rfl, by simpa using hReason⟩
  · rcases bind_eq_error_iff.mp hClose with hRecord | ⟨_, _, hClose⟩
    · exact .inl (recordEvent_eq_error hRecord)
    · cases hClose

/- Nothing happens to a session that is over; a waiting one is closed, an open one marked. -/
theorem requestSessionTermination_eq_ok
    {seenStatus : SessionStatus} {actor : UserId} {result : PrivilegedSession × Bool}
    (hRequest :
      requestSessionTermination site moment sessionId seenStatus actor db = .ok (result, after)) :
    ∃ locked, db.sessions.get sessionId = some locked ∧ ((isOver locked = true ∧ after = db) ∨
      ∃ audit, isOver locked = false ∧ after = { db with
          tickets :=
            if locked.status = .created then
              db.tickets.modify sessionId (revokeTicket moment.now)
                (revokeTicket_sessionId moment.now)
            else db.tickets
          sessions := db.sessions.modify sessionId (terminatedSession moment.now actor)
            (terminatedSession_id moment.now actor)
          audit := audit }) := by
  rcases found_bind_eq_ok_iff.mp hRequest with ⟨locked, hLocked, hRequest⟩
  refine ⟨locked, hLocked, ?_⟩
  split at hRequest
  · rename_i hOver
    exact .inl ⟨hOver, (return_eq_ok_iff.mp hRequest).2.symm⟩
  · rename_i hOver
    rcases recordEvent_bind_eq_ok hRequest with ⟨_, audit, hAfter⟩
    exact .inr ⟨audit, by simpa using hOver, hAfter⟩

end PamOlive.Sessions
