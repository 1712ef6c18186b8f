import PamOlive.Approvals.FourEyes

/-
  Sessions that are opened under an approval.

  An approval is active for the requested minutes from its decision, and a session lasts for the
  allowed minutes from its opening: it outlasts the approval unless it is opened early enough.
-/

---- Opened Sessions

namespace PamOlive.Sessions

open Foundations Vault

/- Either function has opened the session. -/
inductive Opened (site : Site) (moment : Moment) (call : OpenCall) (db : Database)
    (session : PrivilegedSession) : Database → Prop
  | ticket {ticket : SessionTicket} {after : Database}
    (hIssue : issueSessionTicket site moment call db = .ok ((session, ticket), after)) :
    Opened site moment call db session after
  | web {after : Database} (hStart : startWebSession site moment call db = .ok (session, after)) :
    Opened site moment call db session after

variable {site : Site} {moment : Moment} {call : OpenCall} {db after : Database}
variable {session : PrivilegedSession}

theorem activeApproval_of_reservePlace
    {refusal : Failure} {credential : Credential} {target : Target} {policy : AccessPolicy}
    {accessRequest : Option AccessRequest} {duration : Nat}
    (hTarget : db.targets.get credential.targetId = some target)
    (hPlace : reservePlace site moment call refusal credential
      target db = .ok (policy, accessRequest, duration)) :
    accessRequest = activeApproval moment.now call.user credential.targetId policy.id db := by
  rcases reservePlace_eq_ok_iff.mp hPlace with ⟨hAuthorized, _, _, _⟩
  rcases authorizingPolicyFor_eq_ok_iff.mp hAuthorized with ⟨_, hApproval⟩
  rw [← (Table.get_eq_some_iff.mp hTarget).2]
  exact hApproval

/- A session ends as many minutes after its opening as its policy and its approval allow. -/
theorem Opened.authorized (hOpened : Opened site moment call db session after) :
    ∃ policy accessRequest, session.policyId = some policy.id ∧
      db.policies.get policy.id = some policy ∧
      accessRequest = activeApproval moment.now call.user session.targetId policy.id db ∧
      session.expiresAt = some (moment.now + minutes (allowedDuration policy accessRequest)) := by
  cases hOpened with
  | ticket hIssue =>
    rcases issueSessionTicket_eq_ok hIssue with ⟨credential, target, policy, accessRequest, hIssued⟩
    have hSession := hIssued.hasSession
    refine ⟨policy, accessRequest, ?_, ?_, ?_, ?_⟩
    · rw [hSession]
      rfl
    · exact (reservePlace_eq_ok_iff.mp hIssued.place).2.1
    · rw [hSession]
      exact activeApproval_of_reservePlace hIssued.hasTarget hIssued.place
    · rw [hSession]
      rfl
  | web hStart =>
    rcases startWebSession_eq_ok hStart with
      ⟨_, credential, target, policy, accessRequest, _, _, hTarget, hPlace, rfl, _, _⟩
    exact ⟨policy, accessRequest, rfl, (reservePlace_eq_ok_iff.mp hPlace).2.1,
      activeApproval_of_reservePlace hTarget hPlace, rfl⟩

/-
  A session ends with its approval exactly if it is opened no later than the minutes by which the
  request exceeds the maximum of the policy, or else in the instant of the decision.
-/
theorem session_within_approval_iff
    {policyId : Uuid} {policy : AccessPolicy} {request : AccessRequest}
    (hOpened : Opened site moment call db session after)
    (hPolicyId : session.policyId = some policyId)
    (hPolicy : db.policies.get policyId = some policy)
    (hRequest : activeApproval moment.now call.user session.targetId policyId db = some request) :
    (∃ expiry, session.expiresAt = some expiry ∧ expiry ≤ approvedUntil request) ↔
      moment.now - request.decidedAt.getD request.updatedAt ≤
        minutes (request.requestedDurationMinutes - policy.maxDurationMinutes) := by
  rcases hOpened.authorized with ⟨used, accessRequest, hUsedId, hUsed, hApproval, hExpires⟩
  cases Option.mem_unique hUsedId hPolicyId
  cases Option.mem_unique hPolicy hUsed
  rw [hRequest] at hApproval
  subst hApproval
  simp only [hExpires, Option.some.injEq, exists_eq_left']
  unfold approvedUntil allowedDuration minutes seconds
  dsimp only
  omega

---- A Session Beyond Its Approval

def minutesLater (count : Nat) : Moment := { sampleMoment with now := minutes count }

def sampleApproved : Except Failure (AccessRequest × Database) :=
  Approvals.decideAccessRequest sampleSite sampleMoment (Approvals.sampleApproval 0)
    (Approvals.sampleRequested 1)

theorem session_within_approval_sample :
    ∃ request db session ticket after, sampleApproved = .ok (request, db) ∧
      issueSessionTicket sampleSite sampleMoment sampleOpenCall db =
        .ok ((session, ticket), after) ∧
      activeApproval 0 sampleUser session.targetId 3 db = some request ∧
      ∃ expiry, session.expiresAt = some expiry ∧ expiry ≤ approvedUntil request := by
  have hSample : ∃ request db session ticket after policy, sampleApproved = .ok (request, db) ∧
    issueSessionTicket sampleSite sampleMoment sampleOpenCall db = .ok ((session, ticket), after) ∧
    session.policyId = some 3 ∧ db.policies.get 3 = some policy ∧
    activeApproval 0 sampleUser session.targetId 3 db = some request ∧ request.decidedAt = some 0 :=
    ⟨_, _, _, _, _, _, rfl, rfl, rfl, rfl, rfl, rfl⟩
  rcases hSample with ⟨request, db, session, ticket, after,
    policy, hDb, hIssue, hPolicyId, hPolicy, hRequest, hDecided⟩
  refine ⟨request, db, session, ticket, after, hDb, hIssue, hRequest, ?_⟩
  apply (session_within_approval_iff (.ticket hIssue) hPolicyId hPolicy hRequest).mpr
  rw [hDecided]
  exact Int.natCast_nonneg _

/- The hour is approved at minute 0; a session opened in minute 59 lasts until minute 119. -/
theorem session_outlasts_approval :
    ∃ request db session ticket after, sampleApproved = .ok (request, db) ∧
      request.status = .approved ∧
      issueSessionTicket sampleSite (minutesLater 59) sampleOpenCall db =
        .ok ((session, ticket), after) ∧
      session.accessRequestId = some request.id ∧ approvedUntil request = minutes 60 ∧
      session.expiresAt = some (minutes 119) :=
  ⟨_, _, _, _, _, rfl, rfl, rfl, rfl, rfl, rfl⟩

end PamOlive.Sessions
