import PamOlive.Connectors.Memberships
import PamOlive.Sessions.Quota

/-
  Whether a managed membership is undone.

  `reconcile_external_memberships` is called for one identity again and again. The membership ends
  with its last record, unless the record that made it is deleted before another one of the group:
  then nothing will ever end it.
-/

---- Sequences Of Calls

namespace PamOlive.Connectors

open Foundations List Shared

/- A call, by whether it returned or raised. -/
inductive ReconcileLabel where
  | returned (order : ReadOrder ManagedMembership) (matched : List DirectoryGroupMapping)
  | raised (order : ReadOrder ManagedMembership) (matched : List DirectoryGroupMapping)

/- The mappings of a call are rows. A call that raises is rolled back. -/
inductive ReconcileStep (identity : ExternalIdentity) (directory : Directory) :
    ReconcileLabel → Directory → Prop
  | returned {after : Directory} {order : ReadOrder ManagedMembership}
    {matched : List DirectoryGroupMapping} {counts : Nat × Nat}
    (hMatched : ∀ mapping ∈ matched, directory.mappings.get mapping.id = some mapping)
    (hCall : reconcileExternalMemberships order identity matched directory = .ok (counts, after)) :
    ReconcileStep identity directory (.returned order matched) after
  | raised {order : ReadOrder ManagedMembership}
    {matched : List DirectoryGroupMapping} {failure : Failure}
    (hCall : reconcileExternalMemberships order identity matched directory = .error failure) :
    ReconcileStep identity directory (.raised order matched) directory

def reconcileSystem (identity : ExternalIdentity) : TransitionSystem Directory ReconcileLabel where
  init := fun directory =>
    directory.identities.get identity.id = some identity
  step := ReconcileStep identity

/-
  The condition under which a call undoes a membership: if it deletes the record that made the
  membership, then it creates none and deletes every other record to the group before.
-/
def Undone (identity : ExternalIdentity) (groupId : Uuid)
    (directory : Directory) : ReconcileLabel → Prop
| .raised _ _ => True
| .returned order matched =>
  Undoes (created order identity matched groupId directory)
    (deleted order identity matched groupId directory)
    (sharedOf identity.userId groupId directory)

---- One Call

variable {identity : ExternalIdentity} {groupId : Uuid} {directory after start finish : Directory}
variable {label : ReconcileLabel} {labels : List ReconcileLabel}

theorem ReconcileStep.unique {after' : Directory}
    (hStep : ReconcileStep identity directory label after)
    (hStep' : ReconcileStep identity directory label after') : after = after' := by
  cases hStep with
  | raised _ =>
    cases hStep' with
    | raised _ => rfl
  | returned _ hCall =>
    cases hStep' with
    | returned _ hCall' =>
      rw [hCall] at hCall'
      injection hCall' with hPair
      rw [Prod.mk.injEq] at hPair
      exact hPair.2

/- The row of the identity stays, and only its own records link its user to the group. -/
structure Owned (identity : ExternalIdentity) (groupId : Uuid) (directory : Directory) : Prop where
  hasIdentity : directory.identities.get identity.id = some identity
  own : ∀ entry ∈ (sharedOf identity.userId groupId directory).links, entry.1.1 = identity.id

section

variable (hOwned : Owned identity groupId directory)

include hOwned

theorem Owned.step
    (hStep : ReconcileStep identity directory label after) : Owned identity groupId after := by
  cases hStep with
  | raised _ => exact hOwned
  | returned hMatched hCall =>
    have hReconciled := reconciled_of_ok hOwned.hasIdentity hMatched hCall
    constructor
    · rw [hReconciled.sameTables.identities]
      exact hOwned.hasIdentity
    intro entry hMem
    rw [hReconciled.own groupId, mem_reconcile_links (fits_reconcile hOwned.hasIdentity)] at hMem
    rcases hMem with ⟨hOld, _⟩ | hNew
    · exact hOwned.own entry hOld
    · have hKey := fst_mem_of_newLinks hNew
      rcases mem_created.mp hKey with ⟨mapping, _, _, _, hEq⟩
      rw [← hEq]

theorem stuck_of_step (hStuck : Stuck (sharedOf identity.userId groupId directory))
    (hStep : ReconcileStep identity directory label after) :
    Stuck (sharedOf identity.userId groupId after) := by
  cases hStep with
  | raised _ => exact hStuck
  | returned hMatched hCall =>
    have hReconciled := reconciled_of_ok hOwned.hasIdentity hMatched hCall
    rw [hReconciled.own groupId]
    exact hStuck.reconcile (fits_reconcile hOwned.hasIdentity)

theorem open_of_step (hOpen : Open (sharedOf identity.userId groupId directory))
    (hStep : ReconcileStep identity directory label after) :
    (Undone identity groupId directory label → Open (sharedOf identity.userId groupId after)) ∧
      (¬ Undone identity groupId directory label →
        Stuck (sharedOf identity.userId groupId after)) := by
  cases hStep with
  | raised _ =>
    exact ⟨fun _ => hOpen, fun hNot => absurd trivial hNot⟩
  | returned hMatched hCall =>
    have hReconciled := reconciled_of_ok hOwned.hasIdentity hMatched hCall
    rw [hReconciled.own groupId]
    exact hOpen.reconcile (fits_reconcile hOwned.hasIdentity)

end

---- Whole Sequences

section

variable (hRun : (reconcileSystem identity).Run start labels finish)

include hRun

section

variable (hOwned : Owned identity groupId start)

include hOwned

theorem owned_of_run : Owned identity groupId finish := by
  refine hRun.invariant ?_ hOwned
  intro before label after hBefore hStep
  exact hBefore.step hStep

theorem stuck_of_run (hStuck : Stuck (sharedOf identity.userId groupId start)) :
    Stuck (sharedOf identity.userId groupId finish) := by
  induction hRun with
  | nil => exact hStuck
  | cons hStep _ ih => exact ih (hOwned.step hStep) (stuck_of_step hOwned hStuck hStep)

/- The membership can be ended after a sequence exactly if all its calls met the condition. -/
theorem open_or_stuck_of_run (hOpen : Open (sharedOf identity.userId groupId start)) :
    ((reconcileSystem identity).Guarded (Undone identity groupId) start labels finish ∧
      Open (sharedOf identity.userId groupId finish)) ∨
      (¬ (reconcileSystem identity).Guarded (Undone identity groupId) start labels finish ∧
        Stuck (sharedOf identity.userId groupId finish)) := by
  induction hRun with
  | nil => exact .inl ⟨.nil _, hOpen⟩
  | @cons before middle after label labels hStep hRest ih =>
    have hMiddle := open_of_step hOwned hOpen hStep
    by_cases hMeets : Undone identity groupId before label
    · rcases ih (hOwned.step hStep) (hMiddle.1 hMeets) with ⟨hGuarded, hLast⟩ | ⟨hNot, hLast⟩
      · exact .inl ⟨.cons hMeets hStep hGuarded, hLast⟩
      right
      refine ⟨?_, hLast⟩
      intro hGuarded
      cases hGuarded with
      | cons _ hStep' hRest' =>
        rw [ReconcileStep.unique hStep' hStep] at hRest'
        exact hNot hRest'
    · right
      refine ⟨?_, stuck_of_run hRest (hOwned.step hStep) (hMiddle.2 hMeets)⟩
      intro hGuarded
      cases hGuarded with
      | cons hGuard _ _ => exact hMeets hGuard

end

end

theorem links_eq_nil_of_step
    {order : ReadOrder ManagedMembership} {matched : List DirectoryGroupMapping}
    (hOwned : Owned identity groupId directory)
    (hNone : ∀ mapping ∈ matched, mapping.userGroupId ≠ groupId)
    (hStep : ReconcileStep identity directory (.returned order matched) after) :
    (sharedOf identity.userId groupId after).links = [] := by
  cases hStep with
  | returned hMatched hCall =>
    have hReconciled := reconciled_of_ok hOwned.hasIdentity hMatched hCall
    rw [hReconciled.own groupId, reconcile_links_eq_nil_iff (fits_reconcile hOwned.hasIdentity)]
    constructor
    · rw [eq_nil_iff_forall_not_mem]
      intro key hKey
      rcases mem_created.mp hKey with ⟨mapping, hMem, _, hGroup, _⟩
      exact hNone mapping hMem hGroup
    intro entry hEntry
    rcases mem_sharedOf_links.mp hEntry with ⟨row, hRow, hLinks, rfl⟩
    apply mem_map_of_mem
    apply mem_deleted.mpr
    rcases (linksUser_iff.mp hLinks).2 with ⟨mapping, hMapping, hGroup⟩
    refine ⟨row, hRow, hOwned.own _ hEntry, ⟨mapping, hMapping, hGroup⟩, ?_, rfl⟩
    -- a matched mapping with this key is this mapping
    intro hMem
    rcases mem_map.mp hMem with ⟨other, hOther, hId⟩
    have hSame := hMatched other hOther
    rw [hId, hMapping] at hSame
    injection hSame with hSame
    rw [← hSame] at hOther
    exact hNone mapping hOther hGroup

/-
  A sequence that starts without records to the group and ends with a call without a mapping to it
  leaves the membership as it was exactly if there was one at the start, or every call met the
  condition.
-/
theorem membership_undone_iff
    {order : ReadOrder ManagedMembership} {matched : List DirectoryGroupMapping}
    (hInit : (reconcileSystem identity).init start)
    (hNone : ∀ row ∈ start.memberships.rows, linksUser identity.userId groupId start row = false)
    (hRun : (reconcileSystem identity).Run start (labels ++ [.returned order matched]) finish)
    (hLast : ∀ mapping ∈ matched, mapping.userGroupId ≠ groupId) :
    (isMember groupId identity.userId finish = true ↔
        isMember groupId identity.userId start = true) ↔
      isMember groupId identity.userId start = true ∨
        (reconcileSystem identity).Guarded (Undone identity groupId) start
          (labels ++ [.returned order matched]) finish := by
  have hStart : (sharedOf identity.userId groupId start).links = [] := by
    rw [eq_nil_iff_forall_not_mem]
    intro entry hMem
    rcases mem_sharedOf_links.mp hMem with ⟨row, hRow, hLinks, _⟩
    rw [hNone row hRow] at hLinks
    exact nomatch hLinks
  have hOwned : Owned identity groupId start := by
    refine ⟨hInit, ?_⟩
    rw [hStart]
    intro entry hMem
    exact nomatch hMem
  have hFinish : (sharedOf identity.userId groupId finish).links = [] := by
    rcases hRun.exists_middle with ⟨middle, hBefore, hLastRun⟩
    cases hLastRun with
    | cons hStep hNil =>
      cases hNil with
      | nil => exact links_eq_nil_of_step (owned_of_run hBefore hOwned) hLast hStep
  cases hMember : isMember groupId identity.userId start with
  | true =>
    have hStuck := stuck_of_run hRun hOwned ⟨hMember, by rw [hStart]; simp⟩
    have hStays : isMember groupId identity.userId finish = true := hStuck.1
    simp [hStays]
  | false =>
    rcases open_or_stuck_of_run hRun hOwned (.inl ⟨hMember, hStart⟩) with
      ⟨hGuarded, hOpen⟩ | ⟨hNot, hStuck⟩
    · have hEnds : isMember groupId identity.userId finish = false := by
        rcases hOpen with hClean | hHeld
        · exact hClean.1
        · rcases hHeld.2 with ⟨key, hMem, _⟩
          rw [hFinish] at hMem
          exact nomatch hMem
      simp [hEnds, hGuarded]
    · have hStays : isMember groupId identity.userId finish =
        true := hStuck.1
      simp [hStays, hNot]

---- Sample Calls

def sampleOrder : ReadOrder ManagedMembership where
  arrange := fun rows => rows
  perm := fun rows => .refl rows

def sampleIdentity : ExternalIdentity where
  id := 10
  sourceId := 9
  userId := sampleUser
  subject := "subject"
  username := "user"
  email := "user@example.test"
  enabled := true

def sampleMapping (id : Uuid) (name : String) : DirectoryGroupMapping where
  id := id
  sourceId := 9
  externalGroup := Text.ofString name
  userGroupId := 20
  autoCreateUsers := true
  enabled := true

def sampleMappings : List DirectoryGroupMapping :=
  [sampleMapping 11 "admins", sampleMapping 12 "operators"]

def sampleDirectory : Directory where
  accounts :=
    ⟨[{ id := sampleUser
        username := "user"
        email := "user@example.test"
        displayName := []
        isActive := true }], by simp⟩
  identities := ⟨[sampleIdentity], by simp⟩
  mappings := ⟨sampleMappings, by simp [sampleMappings, sampleMapping]⟩
  enabledGroups := [20]
  groupUsers := []
  memberships := .empty
  defaults := .empty

theorem membership_undone_sample :
    ∃ counts linked counts' finish, reconcileExternalMemberships sampleOrder
          sampleIdentity [sampleMapping 11 "admins"]
          sampleDirectory =
        .ok (counts, linked) ∧
      isMember 20 sampleUser linked = true ∧
      reconcileExternalMemberships sampleOrder sampleIdentity [] linked = .ok (counts', finish) ∧
      isMember 20 sampleUser finish = false := by
  refine ⟨_, _, _, _, rfl, rfl, rfl, ?_⟩
  have hMatched : ∀ mapping ∈ [sampleMapping 11 "admins"],
    sampleDirectory.mappings.get mapping.id = some mapping := by
    intro mapping hMem
    rw [mem_singleton.mp hMem]
    rfl
  have hRun : (reconcileSystem sampleIdentity).Run sampleDirectory
    ([.returned sampleOrder [sampleMapping 11 "admins"]] ++ [.returned sampleOrder []]) _ :=
    .cons (.returned hMatched rfl) (.cons (.returned (by simp) rfl) (.nil _))
  have hUndone := @membership_undone_iff sampleIdentity 20 sampleDirectory _ _ _ _ rfl
    (forall_mem_nil _) hRun (by simp)
  refine Bool.eq_false_iff.mpr fun hStays =>
    absurd ((hUndone.mpr (.inr ?_)).mp hStays) Bool.false_ne_true
  refine .cons (forall_mem_nil _) (.returned hMatched rfl)
    (.cons ?_ (.returned (by simp) rfl) (.nil _))
  intro entry hMem _
  cases mem_singleton.mp hMem
  refine ⟨rfl, ?_, rfl⟩
  intro other hOther
  cases mem_singleton.mp hOther
  exact mem_singleton_self _

/- Two mappings to a group are linked and unlinked in this order. The user stays a member. -/
theorem membership_not_undone : ∃ finish, (reconcileSystem sampleIdentity).Run sampleDirectory
      [.returned sampleOrder sampleMappings, .returned sampleOrder [sampleMapping 12 "operators"],
        .returned sampleOrder []] finish ∧
    sampleDirectory.memberships.rows = [] ∧ isMember 20 sampleUser sampleDirectory = false ∧
    finish.memberships.rows = [] ∧ isMember 20 sampleUser finish = true := by
  refine ⟨_, .cons (.returned ?_ rfl) (.cons (.returned ?_ rfl)
    (.cons (.returned (by simp) rfl) (.nil _))), rfl, rfl, rfl, rfl⟩
  · intro mapping hMem
    rcases mem_cons.mp hMem with rfl | hMem
    · rfl
    · rw [mem_singleton.mp hMem]
      rfl
  · intro mapping hMem
    rw [mem_singleton.mp hMem]
    rfl

end PamOlive.Connectors
