import PamOlive.Approvals.FourEyes
import PamOlive.Foundations.Fallback

/-
  What disabling a group or a time frame can widen.

  Approver groups and time frames restrict a policy only while one of them is enabled. Without any,
  everybody with the capability may decide, and the schedule of the policy applies.
-/

---- Time Frames

namespace PamOlive.Approvals

open Foundations Policies Rbac Sessions List

theorem scheduleIsCurrent_eq (site : Site) (policy : AccessPolicy) (instant : Int) :
    scheduleIsCurrent site policy instant =
      anyEnabled TimeFrame.enabled (fun frame => timeFrameIsCurrent site frame instant)
        (legacyScheduleIsCurrent site policy instant) policy.timeFrames :=
  rfl

theorem time_frame_disabling_widens_iff
    (site : Site) (policy : AccessPolicy) (left right : List TimeFrame) (frame : TimeFrame)
    (instant : Int) (sourceIp : Option IpText) :
    (policyIsCurrent site
      { policy with timeFrames := left ++ { frame with enabled := true } :: right }
      instant sourceIp = false ∧ policyIsCurrent site
        { policy with timeFrames := left ++ { frame with enabled := false } :: right }
        instant sourceIp = true) ↔
      isValidAt policy.validFrom policy.validUntil instant = true ∧
        sourceIsAllowed site policy sourceIp = true ∧
        legacyScheduleIsCurrent site policy instant = true ∧
        timeFrameIsCurrent site frame instant = false ∧
        ∀ other ∈ left ++ right, other.enabled = false := by
  have hWidened :=
    @anyEnabled_widened_iff _ TimeFrame.enabled (fun frame => timeFrameIsCurrent site frame instant)
      (legacyScheduleIsCurrent site policy instant) left right
      { frame with enabled := true } { frame with enabled := false } rfl rfl
  -- the period and the sources do not read the time frames
  change ((isValidAt policy.validFrom policy.validUntil instant && _ &&
    sourceIsAllowed site policy sourceIp) = false ∧
    (isValidAt policy.validFrom policy.validUntil instant && _ &&
      sourceIsAllowed site policy sourceIp) = true) ↔ _
  cases isValidAt policy.validFrom policy.validUntil instant with
  | false => simp
  | true =>
    cases sourceIsAllowed site policy sourceIp with
    | false => simp
    | true =>
      simp only [Bool.true_and, Bool.and_true, true_and]
      exact hWidened

/- A policy whose only time frame is over: with the frame disabled it applies. -/
theorem disabled_time_frame_widens : ∃ frame : TimeFrame, policyIsCurrent sampleSite
    { samplePolicy with timeFrames := [{ frame with enabled := true }] } 0 none = false ∧
    policyIsCurrent sampleSite
      { samplePolicy with timeFrames := [{ frame with enabled := false }] } 0 none =
      true := by
  refine ⟨⟨true, [], none, none, none, some 0⟩, ?_, ?_⟩
  · decide
  · decide

---- Approver Groups

def GroupDisabled (group : UserGroup) (groups groups' : List UserGroup) : Prop :=
  Forall₂ (fun old new => new = old ∨ (old = group ∧ new = { group with enabled := false }))
    groups groups'

/- The roles after a group is disabled; nothing else is read. -/
structure RolesAfter (group : UserGroup) (db after : Database) : Prop where
  roles : Forall₂
    (fun role role' =>
      role' = { role with userGroups := role'.userGroups } ∧
        GroupDisabled group role.userGroups role'.userGroups)
    db.roles after.roles
  assignments : after.roleAssignments = db.roleAssignments

variable {group : UserGroup} {db after : Database} {now : Int} {actor : Actor}

theorem GroupDisabled.any_of_any {groups groups' : List UserGroup} {user : UserId}
    (hGroups : GroupDisabled group groups groups')
    (hMember : groups'.any (fun group => group.enabled && group.users.contains user) = true) :
    groups.any (fun group => group.enabled && group.users.contains user) = true := by
  induction hGroups with
  | nil => exact hMember
  | @cons old new olds news hFirst _ ih =>
    rw [any_cons, Bool.or_eq_true] at hMember ⊢
    rcases hMember with hNew | hRest
    · rcases hFirst with rfl | ⟨_, rfl⟩
      · exact .inl hNew
      · cases hNew
    · exact .inr (ih hRest)

theorem RolesAfter.hasCapability {capability : Capability} (hRoles : RolesAfter group db after)
    (hActor : actor.isSuperuser = false)
    (hAfter : userHasCapability now actor capability after = true) :
    userHasCapability now actor capability db = true := by
  unfold userHasCapability userCapabilities at hAfter ⊢
  rw [hActor] at hAfter ⊢
  rw [if_neg Bool.false_ne_true, contains_iff_mem, mem_flatMap] at hAfter ⊢
  rcases hAfter with ⟨role', hRole', hCapability⟩
  have hRoleRows : ∃ role ∈ db.roles, role' = { role with userGroups := role'.userGroups } ∧
    GroupDisabled group role.userGroups role'.userGroups := by
    have hMem : role' ∈ after.roles := by
      rcases mem_append.mp hRole' with hGroup | hDirect
      · exact mem_of_mem_filter hGroup
      · exact mem_of_mem_filter hDirect
    rcases forall₂_iff_get.mp hRoles.roles with ⟨hLength, hRows⟩
    rcases get_of_mem hMem with ⟨index, rfl⟩
    exact ⟨_, get_mem _ _, hRows index (index.isLt.trans_eq hLength.symm) index.isLt⟩
  rcases hRoleRows with ⟨role, hRole, hSame, hGroups⟩
  refine ⟨role, ?_, ?_⟩
  · rw [mem_append] at hRole' ⊢
    unfold groupRoles directRoles isAssigned at hRole' ⊢
    simp only [mem_filter, hRole, true_and, Bool.and_eq_true, hRoles.assignments] at hRole' ⊢
    rw [hSame] at hRole'
    rcases hRole' with ⟨_, hOn, hMember⟩ | ⟨_, hOn, hAssigned⟩
    · exact .inl ⟨hOn, hGroups.any_of_any hMember⟩
    · exact .inr ⟨hOn, hAssigned⟩
  · rw [hSame] at hCapability
    exact hCapability

theorem actorMayDecide_eq {policy : AccessPolicy} (hActor : actor.isSuperuser = false) :
    actorMayDecide now policy actor db = (userHasCapability now actor .approvalsDecide db &&
      anyEnabled UserGroup.enabled (fun group => group.users.contains actor.id) true
        policy.approverGroups) := by
  unfold actorMayDecide
  rw [hActor, if_neg Bool.false_ne_true]
  cases userHasCapability now actor .approvalsDecide db with
  | false => rfl
  | true => rfl

theorem approver_group_disabling_widens_iff (policy : AccessPolicy) (left right : List UserGroup)
    (hActor : actor.isSuperuser = false)
    (hRoles : RolesAfter { group with enabled := true } db after) :
    (actorMayDecide now
      { policy with approverGroups := left ++ { group with enabled := true } :: right }
      actor db = false ∧ actorMayDecide now
        { policy with approverGroups := left ++ { group with enabled := false } :: right }
        actor after = true) ↔
      userHasCapability now actor .approvalsDecide after = true ∧ actor.id ∉ group.users ∧
        ∀ other ∈ left ++ right, other.enabled = false := by
  rw [actorMayDecide_eq hActor, actorMayDecide_eq hActor]
  have hWidened :=
    @anyEnabled_widened_iff _ UserGroup.enabled (fun group => group.users.contains actor.id)
      true left right { group with enabled := true } { group with enabled := false } rfl rfl
  rw [contains_eq_mem, decide_eq_false_iff_not] at hWidened
  cases hAfter : userHasCapability now actor .approvalsDecide after with
  | false => simp
  | true => rw [hRoles.hasCapability hActor hAfter, Bool.true_and, Bool.true_and, hWidened]

def sampleApprover : Actor := ⟨Nat.succPNat 1, false⟩

def sampleRole : Role := ⟨20, true, [.approvalsDecide], [⟨true, [sampleApprover.id]⟩]⟩

def sampleGrouped (enabled : Bool) : Database :=
  { sampleDatabase sampleCredential
    ⟨[{ samplePolicy with
      requiresApproval := true
      approverGroups := [⟨enabled, [sampleUser]⟩] }], nodup_singleton _⟩ with
    accessRequests := [sampleRequest]
    roles := [sampleRole] }

def sampleDecision (enabled : Bool) : Except Failure (AccessRequest × Database) :=
  decideAccessRequest sampleSite sampleMoment
    { sampleApproval 0 with actor := sampleApprover } (sampleGrouped enabled)

theorem rolesAfter_sample :
    RolesAfter { enabled := true, users := [sampleUser] } (sampleGrouped true)
      (sampleGrouped false) where
  roles := .cons ⟨rfl, .cons (.inl rfl) .nil⟩ .nil
  assignments := rfl

theorem approver_group_disabling_sample : sampleApprover.isSuperuser = false ∧
    RolesAfter { enabled := true, users := [sampleUser] } (sampleGrouped true)
      (sampleGrouped false) ∧
    actorMayDecide 0 { samplePolicy with
        approverGroups := [{ enabled := true, users := [sampleUser] }] }
      sampleApprover (sampleGrouped true) = false ∧
    actorMayDecide 0 { samplePolicy with
        approverGroups := [{ enabled := false, users := [sampleUser] }] }
      sampleApprover (sampleGrouped false) = true := by
  refine ⟨rfl, rolesAfter_sample, ?_⟩
  exact (@approver_group_disabling_widens_iff ⟨true, [sampleUser]⟩ (sampleGrouped true)
    (sampleGrouped false) 0 sampleApprover samplePolicy [] [] rfl
    rolesAfter_sample).mpr ⟨by decide, by decide, by simp⟩

/- The decision is refused, and accepted without the group. -/
theorem disabled_approver_group_widens : sampleDecision true = .error (.permissionDenied
    "Vous n’êtes pas approbateur pour cette politique.") ∧
    (sampleDecision false).toOption.isSome = true := by
  constructor <;> rfl

end PamOlive.Approvals
