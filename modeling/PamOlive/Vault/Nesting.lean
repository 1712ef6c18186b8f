import PamOlive.Sessions.Quota

/-
  How the three authorization predicates relate.

  Each asks whether some policy meets its conditions. Those of `authorizing_policy_for` are the
  strongest, those of `actions_for_target` the weakest, and none is lost when a policy reaches more
  users, groups or targets.
-/

---- One Policy

namespace PamOlive.Vault

open Foundations Policies Sessions List

def applies (site : Site) (now : Int) (user : UserId) (action : Action) (sourceIp : Option IpText)
    (policy : AccessPolicy) : Bool :=
  (policy.enabled &&
    policy.userGroups.any (fun group => group.enabled && group.users.contains user)) &&
    (allows policy action && policyIsCurrent site policy now sourceIp)

/- A policy that `authorizing_policy_for` may return. -/
def authorizes (site : Site) (now : Int) (user : UserId) (credential : Credential) (target : Target)
    (action : Action) (sourceIp : Option IpText) (mfaVerifiedAt : Option Int) (db : Database)
    (policy : AccessPolicy) : Bool :=
  (applies site now user action sourceIp policy && coversTarget policy target.id) &&
    (scopeSatisfied now user credential target policy db &&
      mfaSatisfied now user mfaVerifiedAt policy db)

variable {site : Site} {now : Int} {user : UserId} {credential : Credential} {target : Target}
variable {action : Action} {sourceIp : Option IpText} {mfaVerifiedAt : Option Int}
variable {db db' : Database} {policy policy' : AccessPolicy}

theorem mem_policiesAllowing : policy ∈ policiesAllowing site user action sourceIp now db ↔
    policy ∈ db.policies.rows ∧ applies site now user action sourceIp policy = true := by
  unfold policiesAllowing policiesForUser applies
  rw [mem_filter, mem_filter, and_assoc, Bool.and_eq_true (_ && _)]

/- The first policy of the table that authorizes is returned. -/
theorem authorizingPolicyFor_eq_ok_iff_find {accessRequest : Option AccessRequest} :
    authorizingPolicyFor site now user credential target action sourceIp mfaVerifiedAt db =
      .ok (policy, accessRequest) ↔ db.policies.rows.find?
        (authorizes site now user credential target action sourceIp mfaVerifiedAt db) =
        some policy ∧ accessRequest = activeApproval now user target.id policy.id db := by
  have hFind : (candidatePolicies site now user target.id action sourceIp db).find? (fun policy =>
      scopeSatisfied now user credential target policy db &&
        mfaSatisfied now user mfaVerifiedAt policy db) =
    db.policies.rows.find?
      (authorizes site now user credential target action sourceIp mfaVerifiedAt db) := by
    unfold candidatePolicies policiesAllowing policiesForUser
    rw [find?_filter, find?_filter, find?_filter]
    congr 1
    funext policy
    unfold authorizes applies
    simp only [Bool.decide_and, Bool.decide_eq_true, Bool.and_assoc]
  rw [authorizingPolicyFor_eq_ok_iff, hFind]

theorem authorizingPolicyFor_returns_iff : (∃ result,
    authorizingPolicyFor site now user credential target action sourceIp mfaVerifiedAt db =
      .ok result) ↔
    ∃ policy ∈ db.policies.rows,
      authorizes site now user credential target action sourceIp mfaVerifiedAt db policy =
        true := by
  rw [← find?_isSome, Option.isSome_iff_exists]
  constructor
  · rintro ⟨⟨policy, accessRequest⟩, hPolicy⟩
    exact ⟨policy, (authorizingPolicyFor_eq_ok_iff_find.mp hPolicy).1⟩
  · rintro ⟨policy, hFind⟩
    exact ⟨_, authorizingPolicyFor_eq_ok_iff_find.mpr ⟨hFind, rfl⟩⟩

theorem credentialAllowsAction_iff :
    credentialAllowsAction site user credential target action sourceIp now db = true ↔
      ∃ policy ∈ db.policies.rows, applies site now user action sourceIp policy = true ∧
        coversTarget policy credential.targetId = true ∧
        policyAllowsCredential policy credential target = true := by
  unfold credentialAllowsAction
  rw [any_eq_true]
  simp only [mem_policiesAllowing, Bool.and_eq_true, and_assoc]

theorem mem_actionsForTarget_iff : action ∈ actionsForTarget site user target sourceIp now db ↔
    ∃ policy ∈ db.policies.rows, applies site now user action sourceIp policy = true ∧
      coversProtocol policy target.protocol = true ∧ coversTarget policy target.id = true := by
  unfold actionsForTarget policiesForUser applies allows
  simp only [mem_flatMap, mem_filter, Bool.and_eq_true, contains_eq_mem, decide_eq_true_eq]
  constructor
  · rintro ⟨policy, ⟨⟨hRow, hUser⟩, ⟨hCurrent, hProtocol⟩, hTarget⟩, hAction⟩
    exact ⟨policy, hRow, ⟨hUser, hAction, hCurrent⟩, hProtocol, hTarget⟩
  · rintro ⟨policy, hRow, ⟨hUser, hAction, hCurrent⟩, hProtocol, hTarget⟩
    exact ⟨policy, ⟨⟨hRow, hUser⟩, ⟨hCurrent, hProtocol⟩, hTarget⟩, hAction⟩

---- More Users, Groups And Targets

/- A policy that reaches more, and is otherwise the same. -/
structure PolicyWidened (policy policy' : AccessPolicy) : Prop where
  userGroups : ∀ group ∈ policy.userGroups, ∃ group' ∈ policy'.userGroups,
    group'.enabled = group.enabled ∧ group.users ⊆ group'.users
  targets : policy.targets ⊆ policy'.targets
  targetGroups : ∀ group ∈ policy.targetGroups, ∃ group' ∈ policy'.targetGroups,
    group'.enabled = group.enabled ∧ group.targets ⊆ group'.targets
  same : policy' =
    { policy with
      userGroups := policy'.userGroups
      targets := policy'.targets
      targetGroups := policy'.targetGroups }

/- Policies are added or widened; nothing else that is read changes. -/
structure Widened (db db' : Database) : Prop where
  policies :
    ∀ policy ∈ db.policies.rows, ∃ policy' ∈ db'.policies.rows, PolicyWidened policy policy'
  accessRequests : db'.accessRequests = db.accessRequests
  mfaDevices : db'.mfaDevices = db.mfaDevices
  sensitiveWindow : db'.sensitiveWindowMinutes = db.sensitiveWindowMinutes

section

variable (hWidened : PolicyWidened policy policy')

include hWidened

theorem PolicyWidened.applies (hApplies : applies site now user action sourceIp policy = true) :
    applies site now user action sourceIp policy' = true := by
  unfold Vault.applies at hApplies ⊢
  rw [Bool.and_eq_true, Bool.and_eq_true] at hApplies ⊢
  rcases hApplies with ⟨⟨hEnabled, hMember⟩, hRest⟩
  refine ⟨⟨?_, ?_⟩, ?_⟩
  · rw [hWidened.same]
    exact hEnabled
  · rcases any_eq_true.mp hMember with ⟨group, hGroup, hUser⟩
    rw [Bool.and_eq_true, contains_iff_mem] at hUser
    rcases hWidened.userGroups group hGroup with ⟨group', hGroup', hOn, hUsers⟩
    refine any_eq_true.mpr ⟨group', hGroup', ?_⟩
    rw [Bool.and_eq_true, contains_iff_mem, hOn]
    exact ⟨hUser.1, hUsers hUser.2⟩
  · rw [hWidened.same]
    exact hRest

theorem PolicyWidened.coversTarget {targetId : Uuid}
    (hCovers : coversTarget policy targetId = true) : coversTarget policy' targetId = true := by
  unfold Policies.coversTarget at hCovers ⊢
  rw [Bool.or_eq_true, contains_iff_mem, any_eq_true] at hCovers ⊢
  rcases hCovers with hDirect | ⟨group, hGroup, hTarget⟩
  · exact .inl (hWidened.targets hDirect)
  · rw [Bool.and_eq_true, contains_iff_mem] at hTarget
    rcases hWidened.targetGroups group hGroup with ⟨group', hGroup', hOn, hTargets⟩
    refine .inr ⟨group', hGroup', ?_⟩
    rw [Bool.and_eq_true, contains_iff_mem, hOn]
    exact ⟨hTarget.1, hTargets hTarget.2⟩

theorem PolicyWidened.scopeSatisfied (hTables : Widened db db') :
    scopeSatisfied now user credential target policy' db' =
      scopeSatisfied now user credential target policy db := by
  unfold Vault.scopeSatisfied activeApproval
  rw [hTables.accessRequests, hWidened.same]
  rfl

theorem PolicyWidened.mfaSatisfied (hTables : Widened db db') :
    mfaSatisfied now user mfaVerifiedAt policy' db' =
      mfaSatisfied now user mfaVerifiedAt policy db := by
  unfold Vault.mfaSatisfied hasConfirmedDevice sensitiveWindow
  rw [hTables.mfaDevices, hTables.sensitiveWindow, hWidened.same]

end

---- Nesting

def sampleWidened : Database :=
  sampleDatabase sampleCredential ⟨[{ samplePolicy with targets := [1, 8] }], nodup_singleton _⟩

end PamOlive.Vault
