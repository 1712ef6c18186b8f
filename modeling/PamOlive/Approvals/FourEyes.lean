import PamOlive.Approvals.Services
import PamOlive.Sessions.Quota

/-
  The four-eyes rule.

  Requests are decided in any order, while policies, groups and roles are edited. A request is
  approved only by a quorum of other users who were permitted to decide at the time, and a closed
  request stays as it is.
-/

---- Sequences Of Decisions

namespace PamOlive.Approvals

open Foundations Sessions List ApprovalDecision

inductive ApprovalLabel where
  | call (site : Site) (moment : Moment) (call : DecideCall)
  | edit (db : Database)

inductive ApprovalStep (db : Database) : ApprovalLabel → Database → Prop
  | decided {after : Database} {site : Site} {moment : Moment} {call : DecideCall}
    {result : AccessRequest}
    (hDecide : decideAccessRequest site moment call db = .ok (result, after)) :
    ApprovalStep db (.call site moment call) after
  | refused {site : Site} {moment : Moment} {call : DecideCall} {failure : Failure}
    (hDecide : decideAccessRequest site moment call db = .error failure) :
    ApprovalStep db (.call site moment call) db
  | edited {after : Database} (hRequests : after.accessRequests = db.accessRequests)
    (hDecisions : after.decisions = db.decisions) :
    ApprovalStep db (.edit after) after

def approvalSystem (requestId : Uuid) : TransitionSystem Database ApprovalLabel where
  init := fun db =>
    (∃ request, requestOf requestId db = some request ∧ request.status = .pending) ∧
      decisionsOn requestId db = []
  step := ApprovalStep

---- One Step

variable {requestId : Uuid} {db after : Database} {label : ApprovalLabel}

theorem decisionsOn_congr (hSame : after.decisions = db.decisions) :
    decisionsOn requestId after = decisionsOn requestId db := by
  unfold decisionsOn
  rw [hSame]

theorem decisionsOn_insert {row : ApprovalDecision}
    (hInsert : db.decisions.insert row = some after.decisions) :
    decisionsOn requestId after = decisionsOn requestId db ++
      if row.accessRequestId = requestId then [row]
      else [] := by
  rcases Table.insert_eq_some_iff.mp hInsert with ⟨_, hRows⟩
  unfold decisionsOn
  rw [hRows, filter_append]
  congr 1
  by_cases hSame : row.accessRequestId = requestId <;> simp [hSame]

/- A step leaves a request and its decisions alone, or it is a decision on that request. -/
theorem ApprovalStep.cases_on_request (requestId : Uuid) (hStep : ApprovalStep db label after) :
    (requestOf requestId after = requestOf requestId db ∧
      decisionsOn requestId after = decisionsOn requestId db) ∨
      ∃ site moment call result request policy, label = .call site moment call ∧
        call.accessRequestId = requestId ∧ Decided moment call db result after request policy ∧
        requestOf requestId after = some result ∧
        decisionsOn requestId after = decisionsOn requestId db ++ [call.row] := by
  cases hStep with
  | refused _ => exact .inl ⟨rfl, rfl⟩
  | edited hRequests hDecisions =>
    exact .inl ⟨requestOf_congr hRequests, decisionsOn_congr hDecisions⟩
  | @decided _ site moment call result hDecide =>
    rcases decideAccessRequest_eq_ok hDecide with ⟨request, policy, hDecided⟩
    have hRows : decisionsOn requestId after = decisionsOn requestId db ++
      if call.accessRequestId = requestId then [call.row]
      else [] :=
      decisionsOn_insert hDecided.hasDecisions
    by_cases hSame : call.accessRequestId = requestId
    · right
      refine ⟨site, moment, call, result, request, policy, rfl, hSame, hDecided, ?_, ?_⟩
      · rw [← hSame]
        exact hDecided.requestOf_self
      · rw [hRows, if_pos hSame]
    · left
      refine ⟨hDecided.requestOf_of_ne (Ne.symm hSame), ?_⟩
      rw [hRows, if_neg hSame, append_nil]

---- Permitted Approvals

section

variable (requestId : Uuid) (user : UserId) (db : Database)

/- The user approves the request and may do so. -/
def PermittedApproval (label : ApprovalLabel) : Prop :=
  ∃ site moment call request policy, label = .call site moment call ∧
    call.accessRequestId = requestId ∧ call.actor.id = user ∧ call.approve = true ∧
    requestOf requestId db = some request ∧ db.policies.get request.policyId = some policy ∧
    actorMayDecide moment.now policy call.actor db = true

/- The user is on record with an approval of the request. -/
def Approves : Prop :=
  ∃ decision ∈ decisionsOn requestId db, decision.approverId = user ∧ decision.decision = .approve

end

variable {labels : List ApprovalLabel} {start finish : Database} {user : UserId}

theorem exists_permittedApproval (hStart : decisionsOn requestId start = [])
    (hRun : (approvalSystem requestId).Run start labels finish)
    (hApproves : Approves requestId user finish) :
    ∃ first vote rest middle, labels = first ++ vote :: rest ∧
        (approvalSystem requestId).Run start first middle ∧
        PermittedApproval requestId user middle vote := by
  have hNone : ¬ Approves requestId user start := by
    intro hSome
    rcases hSome with ⟨decision, hMem, _⟩
    rw [hStart] at hMem
    exact absurd hMem (by simp)
  rcases hRun.exists_step_of_change hNone hApproves with
    ⟨first, vote, rest, before, after, hLabels, hFirst, hStep, _, hBefore, hAfter⟩
  refine ⟨first, vote, rest, before, hLabels, hFirst, ?_⟩
  rcases hAfter with ⟨decision, hMem, hUser, hApprove⟩
  rcases ApprovalStep.cases_on_request requestId hStep with
    ⟨_, hSame⟩ | ⟨site, moment, call, result, request, policy, hLabel, hRequest, hDecided, _, hRows⟩
  · rw [hSame] at hMem
    exact absurd ⟨decision, hMem, hUser, hApprove⟩ hBefore
  rw [hRows, mem_append, mem_singleton] at hMem
  rcases hMem with hOld | rfl
  · exact absurd ⟨decision, hOld, hUser, hApprove⟩ hBefore
  · have hYes : call.approve = true := by
      cases hCall : call.approve with
      | true => rfl
      | false => simp [DecideCall.row, DecideCall.decision, hCall] at hApprove
    exact ⟨site, moment, call, request, policy, hLabel,
      hRequest, hUser, hYes, hRequest ▸ hDecided.hasRequest,
      hDecided.hasPolicy, hDecided.permitted⟩

theorem nodup_approvers : ((decisionsOn requestId db).map approverId).Nodup := by
  have hKeys : ((decisionsOn requestId db).map key).Nodup :=
    db.decisions.nodup.sublist (filter_sublist.map key)
  apply Nodup.of_map (fun user => (requestId, user))
  rw [map_map]
  have hSame : (decisionsOn requestId db).map
    ((fun user => (requestId, user)) ∘ approverId) = (decisionsOn requestId db).map
      key := by
    apply map_congr_left
    intro decision hMem
    have hRequest := of_mem_filter hMem
    simp only [decide_eq_true_eq] at hRequest
    simp [key, hRequest]
  rw [hSame]
  exact hKeys

---- The Invariant

/- The requester has not decided, and a rejection is the last decision on a request. -/
structure OnlyApprovals (requestId : Uuid) (requester : UserId) (db : Database) : Prop where
  exists_request : ∃ request, requestOf requestId db = some request ∧
    request.requesterId = requester ∧
    (request.status ≠ .rejected →
      ∀ decision ∈ decisionsOn requestId db, decision.decision = .approve)
  others : ∀ decision ∈ decisionsOn requestId db, decision.approverId ≠ requester

variable {approvals quorum : Nat}

theorem statusAfter_of_rejection : statusAfter false approvals quorum = .rejected :=
  rfl

theorem statusAfter_eq_approved_iff {approve : Bool} :
    statusAfter approve approvals quorum = .approved ↔ approve = true ∧ quorum ≤ approvals := by
  unfold statusAfter
  cases approve with
  | false => simp
  | true =>
    by_cases hQuorum : quorum ≤ approvals <;> simp [hQuorum]

theorem OnlyApprovals.step {requester : UserId} (hOnly : OnlyApprovals requestId requester db)
    (hStep : ApprovalStep db label after) : OnlyApprovals requestId requester after := by
  rcases hOnly.exists_request with ⟨request, hRequest, hRequester, hApprovals⟩
  rcases hStep.cases_on_request requestId with
    ⟨hSame, hRows⟩ | ⟨site, moment, call, result, request',
      policy, _, hCall, hDecided, hResult, hRows⟩
  · constructor
    · refine ⟨request, hSame ▸ hRequest, hRequester, ?_⟩
      rw [hRows]
      exact hApprovals
    · rw [hRows]
      exact hOnly.others
  · have hLocked := hDecided.hasRequest
    rw [hCall, hRequest] at hLocked
    cases hLocked
    have hPending := hDecided.wasPending
    constructor
    · refine ⟨result, hResult, hDecided.requesterId.trans hRequester, ?_⟩
      · intro hKept decision hMem
        rw [hRows, mem_append, mem_singleton] at hMem
        rcases hMem with hOld | rfl
        · refine hApprovals ?_ decision hOld
          rw [hPending]
          simp
        · cases hApprove : call.approve with
          | true => simp [DecideCall.row, DecideCall.decision, hApprove]
          | false =>
            rw [hDecided.hasStatus, hApprove] at hKept
            exact absurd statusAfter_of_rejection hKept
    · intro decision hMem
      rw [hRows, mem_append, mem_singleton] at hMem
      rcases hMem with hOld | rfl
      · exact hOnly.others decision hOld
      · rw [← hRequester]
        exact hDecided.notRequester

variable {request : AccessRequest}

theorem onlyApprovals_of_run (hRequest : requestOf requestId start = some request)
    (hStart : decisionsOn requestId start = [])
    (hRun : (approvalSystem requestId).Run start labels db) :
    OnlyApprovals requestId request.requesterId db := by
  refine hRun.invariant ?_ ?_
  · intro before label after hBefore hStep
    exact hBefore.step hStep
  · constructor
    · refine ⟨request, hRequest, rfl, ?_⟩
      rw [hStart]
      simp
    · rw [hStart]
      simp

theorem closed_of_run (hRequest : requestOf requestId db = some request)
    (hClosed : request.status ≠ .pending) (hRun : (approvalSystem requestId).Run db labels finish) :
    requestOf requestId finish = some request ∧
      decisionsOn requestId finish = decisionsOn requestId db := by
  have hInvariant : ∀ before label after, (requestOf requestId before = some request ∧
    decisionsOn requestId before = decisionsOn requestId db) →
    ApprovalStep before label after → requestOf requestId after = some request ∧
      decisionsOn requestId after = decisionsOn requestId db := by
    intro before label after hBefore hStep
    rcases hStep.cases_on_request requestId with
      ⟨hSame, hRows⟩ | ⟨_, _, call, _, request', _, _, hCall, hDecided, _, _⟩
    · rw [hSame, hRows]
      exact hBefore
    · have hLocked := hDecided.hasRequest
      rw [hCall, hBefore.1] at hLocked
      cases hLocked
      exact absurd hDecided.wasPending hClosed
  have hFinish := hRun.invariant hInvariant ⟨hRequest, rfl⟩
  exact hFinish

---- The Rule

def approvers (requestId : Uuid) (db : Database) : List UserId :=
  ((decisionsOn requestId db).filter
    (fun decision => decide (decision.decision = .approve))).map approverId

theorem length_approvers : (approvers requestId db).length = approvalCount requestId db := by
  unfold approvers approvalCount
  rw [length_map, countP_eq_length_filter]

theorem approvers_nodup : (approvers requestId db).Nodup :=
  nodup_approvers.sublist (filter_sublist.map approverId)

theorem approves_of_mem_approvers (hMem : user ∈ approvers requestId db) :
    Approves requestId user db := by
  rcases mem_map.mp hMem with ⟨decision, hIn, hUser⟩
  rcases mem_filter.mp hIn with ⟨hOn, hApprove⟩
  exact ⟨decision, hOn, hUser, of_decide_eq_true hApprove⟩

theorem Decided.quorum_le
    {moment : Moment} {call : DecideCall} {result : AccessRequest} {policy : AccessPolicy}
    (hDecided : Decided moment call db result after request policy)
    (hApproved : result.status = .approved) :
    quorumOf policy ≤ (approvers call.accessRequestId after).length := by
  have hStatus := hDecided.hasStatus
  rw [hApproved] at hStatus
  rw [length_approvers]
  exact (statusAfter_eq_approved_iff.mp hStatus.symm).2

/-
  After any sequence of decisions from a pending request: a decision that approves it leaves at
  least a quorum of approvals by distinct users other than the requester, all of them permitted
  when they were given, and no rejection; a rejection closes the request; a closed request and its
  decisions stay as they are; and a decision that raises changes nothing.
-/
theorem four_eyes {start before : Database} {labels : List ApprovalLabel}
    (hStart : (approvalSystem requestId).init start)
    (hRun : (approvalSystem requestId).Run start labels before) :
    (∀ site moment call result after request policy, decideAccessRequest site moment call before =
      .ok (result, after) → call.accessRequestId = requestId →
      requestOf requestId before = some request →
      before.policies.get request.policyId = some policy →
      result.status = .approved → requestOf requestId after = some result ∧
        (∃ users : List UserId, users.Nodup ∧ max 1 policy.approvalQuorum ≤ users.length ∧
          ∀ user ∈ users, user ≠ request.requesterId ∧ Approves requestId user after ∧
            ∃ first vote rest middle, labels ++ [.call site moment call] = first ++ vote :: rest ∧
              (approvalSystem requestId).Run start first middle ∧
              PermittedApproval requestId user middle vote) ∧
        ∀ decision ∈ decisionsOn requestId after, decision.decision ≠ .reject) ∧
    (∀ site moment call result after, decideAccessRequest site moment call before =
      .ok (result, after) → call.accessRequestId = requestId → call.approve = false →
        result.status = .rejected ∧ requestOf requestId after = some result) ∧
    (∀ request labels' after, requestOf requestId before = some request →
      request.status ≠ .pending → (approvalSystem requestId).Run before labels' after →
        requestOf requestId after = some request ∧
          decisionsOn requestId after = decisionsOn requestId before) ∧
    ∀ site moment call failure after, commit (decideAccessRequest site moment call)
      before = (.error failure, after) → after = before := by
  rcases hStart with ⟨⟨opened, hOpened, _⟩, hNone⟩
  refine ⟨?_, ?_, ?_, ?_⟩
  · intro site moment call result after request policy hDecide hCall hRequest hPolicy hApproved
    have hWhole := hRun.append (.cons (ApprovalStep.decided hDecide) (.nil after))
    have hOnly := onlyApprovals_of_run hOpened hNone hWhole
    rcases decideAccessRequest_eq_ok hDecide with ⟨locked, held, hDecided⟩
    subst hCall
    have hLocked := hDecided.hasRequest
    cases Option.mem_unique hRequest hLocked
    have hHeld := hDecided.hasPolicy
    cases Option.mem_unique hPolicy hHeld
    rcases hOnly.exists_request with ⟨saved, hSaved, hRequester, hApprovals⟩
    cases Option.mem_unique hDecided.requestOf_self hSaved
    refine ⟨hDecided.requestOf_self,
      ⟨approvers call.accessRequestId after, approvers_nodup, hDecided.quorum_le hApproved, ?_⟩, ?_⟩
    · intro user hUser
      have hApproves := approves_of_mem_approvers hUser
      refine ⟨?_, hApproves, exists_permittedApproval hNone hWhole hApproves⟩
      rcases hApproves with ⟨decision, hMem, rfl, _⟩
      rw [← hDecided.requesterId, hRequester]
      exact hOnly.others decision hMem
    · intro decision hMem
      rw [hApprovals (by simp [hApproved]) decision hMem]
      simp
  · intro site moment call result after hDecide hCall hReject
    rcases decideAccessRequest_eq_ok hDecide with ⟨_, _, hDecided⟩
    subst hCall
    refine ⟨?_, hDecided.requestOf_self⟩
    rw [hDecided.hasStatus, hReject]
    exact statusAfter_of_rejection
  · intro request labels' after hRequest hClosed hLater
    exact closed_of_run hRequest hClosed hLater
  · intro site moment call failure after hCommit
    exact (commit_eq_error_iff.mp hCommit).2

---- A Quorum Of Two

def sampleRequest : AccessRequest where
  id := 5
  requesterId := sampleUser
  targetId := 1
  policyId := 3
  requestedDurationMinutes := 60
  status := .pending
  decidedAt := none
  updatedAt := 0

def sampleRequested (quorum : Nat) : Database :=
  { sampleDatabase sampleCredential
    ⟨[{ samplePolicy with
      requiresApproval := true
      approvalQuorum := quorum }], nodup_singleton _⟩ with
    accessRequests := [sampleRequest] }

def sampleApproval (number : Nat) : DecideCall where
  accessRequestId := 5
  actor := ⟨Nat.succPNat (number + 1), true⟩
  approve := true
  comment := []
  decisionId := BitVec.ofNat 128 number

def sampleFirst : Except Failure (AccessRequest × Database) :=
  decideAccessRequest sampleSite sampleMoment (sampleApproval 0) (sampleRequested 2)

theorem four_eyes_sample : ∃ first before result after, sampleFirst = .ok (first, before) ∧
    first.status = .pending ∧ decideAccessRequest sampleSite sampleMoment (sampleApproval 1)
      before = .ok (result, after) ∧
    result.status = .approved ∧ ∃ users : List UserId, users.Nodup ∧ 2 ≤ users.length ∧
      ∀ user ∈ users, user ≠ sampleUser ∧ Approves 5 user after := by
  have hFirst : ∃ first before, sampleFirst = .ok (first, before) := ⟨_, _, rfl⟩
  rcases hFirst with ⟨first, before, hFirst⟩
  have hInit : (approvalSystem 5).init (sampleRequested 2) := ⟨⟨sampleRequest, rfl, rfl⟩, rfl⟩
  have hRules := four_eyes hInit (.cons (ApprovalStep.decided hFirst) (.nil before))
  cases hFirst
  have hSecond := hRules.1 sampleSite sampleMoment (sampleApproval 1) _ _ _ _ rfl rfl rfl rfl rfl
  rcases hSecond with ⟨_, ⟨users, hNodup, hQuorum, hUsers⟩, _⟩
  refine ⟨_, _, _, _, rfl, rfl, rfl, rfl, users, hNodup, hQuorum, ?_⟩
  intro user hUser
  exact ⟨(hUsers user hUser).1, (hUsers user hUser).2.1⟩

end PamOlive.Approvals
