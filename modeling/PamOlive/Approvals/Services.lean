import PamOlive.Rbac.Services

/-
  Deciding an access request.

  `decideAccessRequest` is one transaction. It records a decision and closes the request after a
  rejection or when the quorum is reached.
-/

---- Requests

namespace PamOlive.Approvals

open Foundations Rbac List

section

variable (requestId : Uuid)

def requestOf (db : Database) : Option AccessRequest :=
  db.accessRequests.find? (fun request => decide (request.id = requestId))

def saveRequest (change : AccessRequest → AccessRequest) (db : Database) : Database :=
  { db with
    accessRequests := db.accessRequests.map (fun request =>
        if request.id = requestId then change request
        else request) }

def decisionsOn (db : Database) : List ApprovalDecision :=
  db.decisions.rows.filter (fun decision => decide (decision.accessRequestId = requestId))

/- `locked.decisions.filter(decision=APPROVE).count()`. -/
def approvalCount (db : Database) : Nat :=
  (decisionsOn requestId db).countP (fun decision => decide (decision.decision = .approve))

end

---- Deciding

def actorMayDecide (now : Int) (policy : AccessPolicy) (actor : Actor) (db : Database) : Bool :=
  if actor.isSuperuser then true
  else if userHasCapability now actor .approvalsDecide db = false then false
  else
    let approverGroups := policy.approverGroups.filter UserGroup.enabled
    if approverGroups.isEmpty then true
    else approverGroups.any (fun group => group.users.contains actor.id)

/- The arguments, with the key of the new decision. -/
structure DecideCall where
  accessRequestId : Uuid
  actor : Actor
  approve : Bool
  comment : Text
  decisionId : Uuid

def DecideCall.decision (call : DecideCall) : Decision :=
  if call.approve then .approve else .reject

def DecideCall.row (call : DecideCall) : ApprovalDecision where
  id := call.decisionId
  accessRequestId := call.accessRequestId
  approverId := call.actor.id
  decision := call.decision
  comment := call.comment

/- `ApprovalDecision.objects.create`, which never rewrites. -/
def createDecision (decision : ApprovalDecision) (db : Database) :
    Except Failure (Table ApprovalDecision.key) := do
  require (∀ other ∈ db.decisions.rows, other.id ≠ decision.id)
    (.runtimeError "Approval decisions are immutable")
  found (db.decisions.insert decision) .integrityError

def quorumOf (policy : AccessPolicy) : Nat := max 1 policy.approvalQuorum

def statusAfter (approve : Bool) (approvals quorum : Nat) : RequestStatus :=
  if !approve then .rejected
  else if quorum ≤ approvals then .approved
  else .pending

section

variable (now : Int) (call : DecideCall) (status : RequestStatus) (request : AccessRequest)

def closedRequest : AccessRequest :=
  { request with
    status := status
    decidedBy := some call.actor.id
    decidedAt := some now
    decisionComment := call.comment
    updatedAt := now }

def settledRequest : AccessRequest :=
  if status = .pending then request
  else closedRequest now call status request

end

theorem settledRequest_id
    (now : Int) (call : DecideCall) (status : RequestStatus) (request : AccessRequest) :
    (settledRequest now call status request).id = request.id := by
  unfold settledRequest
  split <;> rfl

def settle (now : Int) (call : DecideCall) (status : RequestStatus) (db : Database) : Database :=
  if status = .pending then db
  else saveRequest call.accessRequestId (closedRequest now call status) db

def decisionAction (status : RequestStatus) : Text :=
  if status = .pending then "access_request.approval_recorded"
  else "access_request." ++ status.text

def decisionMetadata (call : DecideCall) (approvals quorum : Nat) : Json :=
  .obj [("decision_id", .str (Uuid.str call.decisionId)), ("approval_count", .int approvals),
    ("quorum", .int quorum)]

def decideAccessRequest (site : Site) (moment : Moment) (call : DecideCall) (db : Database) :
    Except Failure (AccessRequest × Database) := do
  let locked ← found (requestOf call.accessRequestId db) .doesNotExist
  let policy ← found (db.policies.get locked.policyId) .doesNotExist
  require (locked.status = .pending) (.validationError (Text.ofString
    "Seules les demandes en attente peuvent recevoir une décision."))
  require (call.actor.id ≠ locked.requesterId)
    (.permissionDenied "Un demandeur ne peut pas approuver sa propre demande.")
  require (actorMayDecide moment.now policy call.actor db = true)
    (.permissionDenied "Vous n’êtes pas approbateur pour cette politique.")
  require (db.decisions.get (call.accessRequestId, call.actor.id) = none)
    (.validationError "Vous avez déjà rendu une décision pour cette demande.")
  let decisions ← createDecision call.row db
  let db := { db with decisions := decisions }
  let approvals := approvalCount call.accessRequestId db
  let quorum := quorumOf policy
  let status := statusAfter call.approve approvals quorum
  let after ← (settle moment.now call status db).recordEvent site
    moment (some call.actor.id) (decisionAction status)
    "approvals.accessrequest"
    (Uuid.str call.accessRequestId)
    (decisionMetadata call approvals quorum) none
  return (settledRequest moment.now call status locked, after)

---- What A Decision Does

variable {site : Site} {moment : Moment} {call : DecideCall} {db after : Database}
variable {requestId : Uuid}

section

variable (now : Int) (status : RequestStatus)

include now status

theorem settle_accessRequests : (settle now call status db).accessRequests =
    (saveRequest call.accessRequestId (settledRequest now call status) db).accessRequests := by
  unfold settle saveRequest settledRequest
  split
  · simp
  · rfl

theorem settle_decisions : (settle now call status db).decisions = db.decisions := by
  unfold settle
  split <;> rfl

theorem settle_policies : (settle now call status db).policies = db.policies := by
  unfold settle
  split <;> rfl

end

/- The checks a decision has passed, and what it wrote. -/
structure Decided (moment : Moment) (call : DecideCall) (db : Database) (result : AccessRequest)
    (after : Database) (request : AccessRequest) (policy : AccessPolicy) : Prop where
  hasRequest : requestOf call.accessRequestId db = some request
  hasPolicy : db.policies.get request.policyId = some policy
  wasPending : request.status = .pending
  notRequester : call.actor.id ≠ request.requesterId
  permitted : actorMayDecide moment.now policy call.actor db = true
  hasDecisions : db.decisions.insert call.row = some after.decisions
  hasStatus : result.status =
    statusAfter call.approve (approvalCount call.accessRequestId after) (quorumOf policy)
  hasResult : result = settledRequest moment.now call result.status request
  hasRequests : after.accessRequests = (saveRequest call.accessRequestId
    (settledRequest moment.now call result.status) db).accessRequests
  samePolicies : after.policies = db.policies

variable {request : AccessRequest}

theorem settledRequest_status {now : Int} {status : RequestStatus}
    (hPending : request.status = .pending) :
    (settledRequest now call status request).status = status := by
  unfold settledRequest
  split
  · rename_i hStatus
    rw [hPending, hStatus]
  · rfl

variable {result : AccessRequest}

theorem decideAccessRequest_eq_ok
    (hDecide : decideAccessRequest site moment call db = .ok (result, after)) :
    ∃ request policy, Decided moment call db result after request policy := by
  rcases found_bind_eq_ok_iff.mp hDecide with ⟨request, hRequest, hDecide⟩
  rcases found_bind_eq_ok_iff.mp hDecide with ⟨policy, hPolicy, hDecide⟩
  rcases require_bind_eq_ok_iff.mp hDecide with ⟨hPending, hDecide⟩
  rcases require_bind_eq_ok_iff.mp hDecide with ⟨hOther, hDecide⟩
  rcases require_bind_eq_ok_iff.mp hDecide with ⟨hPermitted, hDecide⟩
  rcases require_bind_eq_ok_iff.mp hDecide with ⟨_, hDecide⟩
  rcases bind_eq_ok_iff.mp hDecide with ⟨decisions, hCreate, hDecide⟩
  rcases bind_eq_ok_iff.mp hDecide with ⟨recorded, hRecord, hDecide⟩
  rcases Database.recordEvent_eq_ok hRecord with ⟨audit, rfl⟩
  rcases hDecide with ⟨rfl, rfl⟩
  unfold createDecision at hCreate
  rw [require_bind_eq_ok_iff, found_eq_ok_iff] at hCreate
  refine ⟨request, policy,
    { hasRequest := hRequest
      hasPolicy := hPolicy
      wasPending := hPending
      notRequester := hOther
      permitted := hPermitted
      hasDecisions := ?_
      hasStatus := ?_
      hasResult := ?_
      hasRequests := ?_
      samePolicies := ?_ }⟩
  · rw [settle_decisions]
    exact hCreate.2
  · rw [settledRequest_status hPending]
    unfold approvalCount decisionsOn
    rw [settle_decisions]
  · rw [settledRequest_status hPending]
  · rw [settledRequest_status hPending]
    exact settle_accessRequests moment.now _
  · rw [settle_policies]

---- Reading Requests

variable {change : AccessRequest → AccessRequest}

theorem requestOf_saveRequest_of_ne {other : Uuid}
    (hKey : ∀ row, (change row).id = row.id) (hOther : other ≠ requestId) :
    requestOf other (saveRequest requestId change db) = requestOf other db := by
  unfold requestOf saveRequest
  induction db.accessRequests with
  | nil => rfl
  | cons first rest ih =>
    simp only [map_cons, find?_cons]
    by_cases hFirst : first.id = requestId
    · have hNot : ¬ first.id = other := by
        rw [hFirst]
        exact Ne.symm hOther
      simp only [hFirst, if_true, hKey, Ne.symm hOther, decide_false]
      exact ih
    · simp only [hFirst, if_false]
      split
      · rfl
      · exact ih

theorem requestOf_saveRequest_self
    (hKey : ∀ row, (change row).id = row.id) (hRequest : requestOf requestId db = some request) :
    requestOf requestId (saveRequest requestId change db) = some (change request) := by
  unfold requestOf saveRequest at *
  revert hRequest
  induction db.accessRequests with
  | nil => simp
  | cons first rest ih =>
    simp only [map_cons, find?_cons]
    by_cases hFirst : first.id = requestId
    · simp only [hFirst, if_true, hKey, decide_true]
      intro hSame
      injection hSame with hSame
      rw [hSame]
    · simp only [hFirst, if_false, decide_false]
      exact ih

theorem requestOf_congr (hSame : after.accessRequests = db.accessRequests) :
    requestOf requestId after = requestOf requestId db := by
  unfold requestOf
  rw [hSame]

section Result

variable {policy : AccessPolicy}

section

variable (hDecided : Decided moment call db result after request policy)

include hDecided

theorem Decided.requestOf_self : requestOf call.accessRequestId after = some result := by
  rw [requestOf_congr hDecided.hasRequests, requestOf_saveRequest_self
    (settledRequest_id moment.now call result.status) hDecided.hasRequest, ← hDecided.hasResult]

theorem Decided.requestOf_of_ne (hOther : requestId ≠ call.accessRequestId) :
    requestOf requestId after = requestOf requestId db := by
  rw [requestOf_congr hDecided.hasRequests,
    requestOf_saveRequest_of_ne (settledRequest_id moment.now call result.status) hOther]

theorem Decided.requesterId : result.requesterId = request.requesterId := by
  rw [hDecided.hasResult]
  unfold settledRequest
  split <;> rfl

end

end Result

end PamOlive.Approvals
