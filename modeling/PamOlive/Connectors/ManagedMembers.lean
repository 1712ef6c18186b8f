import PamOlive.Connectors.Memberships

/-
  What the reconciliations keep of the rule that whoever has a managed record is a member.

  External records imply their memberships. A default record may lose its membership: deleting the
  last external record to a group does not look for default records to that group.
-/

---- The Property

namespace PamOlive.Connectors

open Foundations Table List

section

variable (directory : Directory)

def DefaultHolds (row : OIDCDefaultGroupMembership) : Prop :=
  ∀ identity, directory.identities.get row.identityId = some identity →
    isMember row.userGroupId identity.userId directory = true

def ExternalHolds (row : ExternalGroupMembership) : Prop :=
  ∀ identity mapping, directory.identities.get row.identityId = some identity →
    directory.mappings.get row.mappingId = some mapping →
      isMember mapping.userGroupId identity.userId directory = true

def ManagedRecordsHold : Prop :=
  (∀ row ∈ directory.memberships.rows, ExternalHolds directory row) ∧
    ∀ row ∈ directory.defaults.rows, DefaultHolds directory row

/- The records refer to identities, and external records imply their memberships. -/
structure Sound : Prop where
  externalIdentity : ∀ row ∈ directory.memberships.rows,
    ∃ identity, directory.identities.get row.identityId = some identity
  defaultIdentity : ∀ row ∈ directory.defaults.rows,
    ∃ identity, directory.identities.get row.identityId = some identity
  external : ∀ userId groupId, Shared.Sound (sharedOf userId groupId directory)

end

variable {directory after : Directory} {identity : ExternalIdentity}
variable {order : ReadOrder ManagedMembership} {matched : List DirectoryGroupMapping}
variable {row : ExternalGroupMembership} {userId : UserId} {groupId : Uuid}

theorem isDefaultFor_iff {holder : ExternalIdentity} {row : OIDCDefaultGroupMembership}
    (hHolder : directory.identities.get row.identityId = some holder) :
    isDefaultFor userId groupId directory row = true ↔
      holder.userId = userId ∧ row.userGroupId = groupId := by
  unfold isDefaultFor
  rw [hHolder]
  simp

theorem Sound.externalHolds (hSound : Sound directory) (hRow : row ∈ directory.memberships.rows) :
    ExternalHolds directory row := by
  intro identity mapping hIdentity hMapping
  apply hSound.external identity.userId mapping.userGroupId
  apply ne_nil_of_mem
  apply mem_sharedOf_links.mpr
  refine ⟨row, hRow, ?_, rfl⟩
  rw [linksUser_of_get hIdentity hMapping]
  simp

theorem sound_of_externalHolds (hExternal : ∀ row ∈ directory.memberships.rows,
    ∃ identity, directory.identities.get row.identityId = some identity)
    (hDefault : ∀ row ∈ directory.defaults.rows,
      ∃ identity, directory.identities.get row.identityId = some identity)
    (hHolds : ∀ row ∈ directory.memberships.rows, ExternalHolds directory row) :
    Sound directory := by
  refine ⟨hExternal, hDefault, ?_⟩
  intro userId groupId hLinks
  rcases exists_mem_of_ne_nil _ hLinks with ⟨entry, hEntry⟩
  rcases mem_sharedOf_links.mp hEntry with ⟨row, hRow, hLinked, _⟩
  rcases linksUser_iff.mp hLinked with ⟨⟨identity, hIdentity, rfl⟩, mapping, hMapping, rfl⟩
  exact hHolds row hRow identity mapping hIdentity hMapping

---- Writing Identities

/- Identities may be added and changed, as long as each one keeps its user. -/
structure KeepsUsers (directory after : Directory) : Prop where
  users : ∀ id identity, directory.identities.get id = some identity →
    ∃ identity', after.identities.get id = some identity' ∧ identity'.userId = identity.userId
  mappings : after.mappings = directory.mappings
  groupUsers : after.groupUsers = directory.groupUsers
  memberships : after.memberships = directory.memberships
  defaults : after.defaults = directory.defaults

theorem KeepsUsers.sharedOf_eq (hKeeps : KeepsUsers directory after) (hSound : Sound directory)
    (userId : UserId) (groupId : Uuid) :
    sharedOf userId groupId after = sharedOf userId groupId directory := by
  have hLinks : ∀ row ∈ directory.memberships.rows,
    linksUser userId groupId after row = linksUser userId groupId directory row := by
    intro row hRow
    rcases hSound.externalIdentity row hRow with ⟨identity, hIdentity⟩
    rcases hKeeps.users _ _ hIdentity with ⟨other, hOther, hUser⟩
    unfold linksUser
    rw [hIdentity, hOther, hKeeps.mappings]
    simp [hUser]
  unfold sharedOf isMember
  rw [hKeeps.groupUsers, hKeeps.memberships, filter_congr hLinks]

theorem KeepsUsers.sound (hKeeps : KeepsUsers directory after) (hSound : Sound directory) :
    Sound after := by
  refine ⟨?_, ?_, ?_⟩
  · intro row hRow
    rw [hKeeps.memberships] at hRow
    rcases hSound.externalIdentity row hRow with ⟨identity, hIdentity⟩
    rcases hKeeps.users _ _ hIdentity with ⟨other, hOther, _⟩
    exact ⟨other, hOther⟩
  · intro row hRow
    rw [hKeeps.defaults] at hRow
    rcases hSound.defaultIdentity row hRow with ⟨identity, hIdentity⟩
    rcases hKeeps.users _ _ hIdentity with ⟨other, hOther, _⟩
    exact ⟨other, hOther⟩
  · intro userId groupId
    rw [hKeeps.sharedOf_eq hSound]
    exact hSound.external userId groupId

variable {username email : Text}

section Creation

variable {fresh : FreshKeys} {sourceId : Uuid} {subject displayName : Text}

section

variable (hCreate : createIdentity fresh sourceId subject username email displayName directory =
  .ok (identity, after))

include hCreate

theorem exists_insert_of_createIdentity :
    ∃ accounts identities, directory.identities.insert identity = some identities ∧
      after = { directory with accounts := accounts, identities := identities } := by
  rcases require_bind_eq_ok_iff.mp hCreate with ⟨_, hCreate⟩
  rcases found_bind_eq_ok_iff.mp hCreate with ⟨accounts, _, hCreate⟩
  rcases found_bind_eq_ok_iff.mp hCreate with ⟨identities, hInsert, hCreate⟩
  rcases hCreate with ⟨rfl, rfl⟩
  exact ⟨accounts, identities, hInsert, rfl⟩

theorem createIdentity_eq_ok :
    KeepsUsers directory after ∧ directory.identities.get identity.id = none ∧
      after.identities.get identity.id = some identity := by
  rcases exists_insert_of_createIdentity hCreate with ⟨accounts, identities, hInsert, rfl⟩
  have hFree := get_eq_none_iff.mpr (insert_eq_some_iff.mp hInsert).1
  refine ⟨⟨?_, rfl, rfl, rfl, rfl⟩, hFree, get_insert_self hInsert⟩
  intro id other hOther
  refine ⟨other, ?_, rfl⟩
  rw [get_insert_of_ne hInsert]
  · exact hOther
  · intro hSame
    rw [hSame, hFree] at hOther
    exact nomatch hOther

end

end Creation

theorem saveIdentity_keeps {enabled : Bool}
    (hIdentity : directory.identities.get identity.id = some identity) :
    KeepsUsers directory (saveIdentity identity username email enabled directory) ∧
      (saveIdentity identity username email enabled directory).identities.get identity.id =
        some (seenIdentity username email enabled identity) := by
  have hSelf : (saveIdentity identity username email enabled directory).identities.get identity.id =
    some (seenIdentity username email enabled identity) := by
    dsimp only [saveIdentity]
    rw [get_modify_self hIdentity]
  refine ⟨⟨?_, rfl, rfl, rfl, rfl⟩, hSelf⟩
  intro id other hOther
  by_cases hId : id = identity.id
  · subst hId
    cases Option.mem_unique hIdentity hOther
    exact ⟨_, hSelf, rfl⟩
  · refine ⟨other, ?_, rfl⟩
    dsimp only [saveIdentity]
    rw [get_modify_of_ne hId]
    exact hOther

---- Reconciling External Records

/-
  A call ends a membership: it deletes all records of the user to the group, creates none, and the
  last one does not keep the membership.
-/
def Releases (order : ReadOrder ManagedMembership) (identity : ExternalIdentity)
    (matched : List DirectoryGroupMapping) (groupId : Uuid) (directory : Directory) : Prop :=
  created order identity matched groupId directory = [] ∧ (∀ entry ∈
    (sharedOf identity.userId groupId directory).links,
    entry.1 ∈ (deleted order identity matched groupId directory).map Prod.fst) ∧
    ∃ last, (deleted order identity matched groupId directory).getLast? = some last ∧ last.2 = false

theorem Reconciled.isMember (hReconciled : Reconciled order identity matched directory after)
    (hIdentity : directory.identities.get identity.id = some identity)
    (hMember : isMember groupId userId directory = true)
    (hKept : identity.userId = userId → ¬ Releases order identity matched groupId directory) :
    Connectors.isMember groupId userId after = true := by
  by_cases hUser : identity.userId = userId
  · subst hUser
    rw [← Bool.not_eq_false]
    intro hEnds
    apply hKept rfl
    have hShared : ((sharedOf identity.userId groupId directory).reconcile
      (created order identity matched groupId directory)
      (deleted order identity matched groupId directory)).member = false := by
      rw [← hReconciled.own groupId]
      exact hEnds
    exact (Shared.reconcile_member_eq_false_iff (fits_reconcile hIdentity) hMember).mp hShared
  · have hSame := congrArg Shared.member (hReconciled.others groupId userId hUser)
    exact hSame.trans hMember

theorem mem_rows_of_linkMappings {existingMappingIds : List Uuid} {count : Nat}
    (hLink : linkMappings identity existingMappingIds matched directory = .ok (count, after))
    (hRow : row ∈ after.memberships.rows) :
    row ∈ directory.memberships.rows ∨ row.identityId = identity.id := by
  induction matched generalizing directory count with
  | nil =>
    injection hLink with hLink
    rw [Prod.mk.injEq] at hLink
    rw [hLink.2]
    exact .inl hRow
  | cons mapping rest ih =>
    unfold linkMappings at hLink
    split at hLink
    · exact ih hLink
    rcases bind_eq_ok_iff.mp hLink with ⟨⟨first, middle⟩, hFirst, hLink⟩
    rcases bind_eq_ok_iff.mp hLink with ⟨⟨others, last⟩, hOthers, hLink⟩
    rw [return_eq_ok_iff] at hLink
    rw [hLink.2] at hOthers
    rcases ih hOthers with hMiddle | hOwn
    · rw [(linkMapping_eq_ok hFirst).2.1, mem_append, mem_singleton] at hMiddle
      rcases hMiddle with hOld | hNew
      · exact .inl hOld
      · rw [hNew]
        exact .inr rfl
    · exact .inr hOwn

theorem mem_rows_of_unlinkMemberships {matchedIds : List Uuid} {existing : List ManagedMembership}
    (hRow : row ∈ (unlinkMemberships identity matchedIds existing directory).2.memberships.rows) :
    row ∈ directory.memberships.rows := by
  induction existing generalizing directory with
  | nil => exact hRow
  | cons membership rest ih =>
    unfold unlinkMemberships at hRow
    split at hRow
    · exact ih hRow
    · have hMiddle := ih hRow
      rw [unlinkMembership_snd] at hMiddle
      split at hMiddle <;> exact (mem_filter.mp hMiddle).1

variable {counts : Nat × Nat}

theorem mem_rows_of_reconcile
    (hCall : reconcileExternalMemberships order identity matched directory = .ok (counts, after))
    (hRow : row ∈ after.memberships.rows) :
    row ∈ directory.memberships.rows ∨ row.identityId = identity.id := by
  rcases bind_eq_ok_iff.mp hCall with ⟨⟨added, linked⟩, hLink, hCall⟩
  rw [return_eq_ok_iff] at hCall
  rw [← hCall.2] at hRow
  exact mem_rows_of_linkMappings hLink (mem_rows_of_unlinkMemberships hRow)

theorem Reconciled.sound (hReconciled : Reconciled order identity matched directory after)
    (hIdentity : directory.identities.get identity.id = some identity) (hSound : Sound directory)
    (hRows : ∀ row ∈ after.memberships.rows,
      row ∈ directory.memberships.rows ∨ row.identityId = identity.id) :
    Sound after := by
  refine ⟨?_, ?_, ?_⟩
  · intro row hRow
    rw [hReconciled.sameTables.identities]
    rcases hRows row hRow with hOld | hOwn
    · exact hSound.externalIdentity row hOld
    · rw [hOwn]
      exact ⟨identity, hIdentity⟩
  · rw [hReconciled.sameTables.defaults, hReconciled.sameTables.identities]
    exact hSound.defaultIdentity
  · intro userId groupId
    by_cases hUser : identity.userId = userId
    · subst hUser
      rw [hReconciled.own groupId]
      exact (hSound.external identity.userId groupId).reconcile (fits_reconcile hIdentity)
    · rw [hReconciled.others groupId userId hUser]
      exact hSound.external userId groupId

---- A Call With Its Identity

/- The identity that a call works on was created or written just before, and keeps its user. -/
structure Prepared (identity : ExternalIdentity) (directory written : Directory) : Prop where
  keeps : KeepsUsers directory written
  isRow : written.identities.get identity.id = some identity

/- A call keeps the memberships of the default records that rest on them. -/
def KeepsDefaults (order : ReadOrder ManagedMembership) (identity : ExternalIdentity)
    (matched : List DirectoryGroupMapping) (rests : OIDCDefaultGroupMembership → Prop)
    (directory : Directory) : Prop :=
  ∀ row ∈ directory.defaults.rows, isDefaultFor identity.userId row.userGroupId directory
    row = true → rests row → ¬ Releases order identity matched row.userGroupId directory

variable {written : Directory}

section

variable (hPrepared : Prepared identity directory written) (hSound : Sound directory)

include hPrepared hSound

theorem Prepared.releases {old : ExternalIdentity}
    (hOld : directory.identities.get identity.id = some old)
    (hReleases : Releases order identity matched groupId written) :
    identity.userId = old.userId ∧ Releases order old matched groupId directory := by
  have hId := (get_eq_some_iff.mp hOld).2
  rcases hPrepared.keeps.users _ _ hOld with ⟨other, hOther, hUser⟩
  cases Option.mem_unique hPrepared.isRow hOther
  refine ⟨hUser, ?_⟩
  have hManaged : managedGroupMemberships order identity written =
    managedGroupMemberships order old directory := by
    unfold managedGroupMemberships
    rw [hPrepared.keeps.memberships, hPrepared.keeps.mappings, hId]
  unfold Releases created deleted newsOf at hReleases ⊢
  rw [hPrepared.keeps.sharedOf_eq hSound, hManaged, hUser] at hReleases
  rw [hId]
  exact hReleases

theorem Prepared.not_releases_of_new (hNew : directory.identities.get identity.id = none) :
    ¬ Releases order identity matched groupId written := by
  rintro ⟨_, _, last, hLast, _⟩
  rcases mem_deleted.mp (mem_of_getLast? hLast) with ⟨row, hRow, hOwn, _⟩
  rw [hPrepared.keeps.memberships] at hRow
  rcases hSound.externalIdentity row hRow with ⟨other, hOther⟩
  rw [hOwn, hNew] at hOther
  exact nomatch hOther

/-
  After the external records are reconciled, default records hold that belong to other users or
  rest on a membership the call keeps.
-/
theorem Prepared.reconciled {rests : OIDCDefaultGroupMembership → Prop}
    (hDefaults : ∀ row ∈ directory.defaults.rows, DefaultHolds directory row)
    (hMatched : ∀ mapping ∈ matched, directory.mappings.get mapping.id = some mapping)
    (hKept : ∀ old, directory.identities.get identity.id = some old →
      KeepsDefaults order old matched rests directory)
    (hCall : reconcileExternalMemberships order identity matched written = .ok (counts, after)) :
    SameTables written after ∧ Sound after ∧
      ∀ row ∈ directory.defaults.rows, (isDefaultFor identity.userId row.userGroupId after
        row = true → rests row) → DefaultHolds after row := by
  have hWritten := hPrepared.keeps.sound hSound
  have hReconciled : Reconciled order identity matched written after :=
    reconciled_of_ok hPrepared.isRow (by rw [hPrepared.keeps.mappings]; exact hMatched) hCall
  have hTables := hReconciled.sameTables
  refine ⟨hTables,
    hReconciled.sound hPrepared.isRow hWritten (fun row hRow => mem_rows_of_reconcile hCall hRow),
    ?_⟩
  intro row hRow hRests holder hHolder
  rcases hSound.defaultIdentity row hRow with ⟨before, hBefore⟩
  rcases hPrepared.keeps.users _ _ hBefore with ⟨same, hSame, hUser⟩
  have hHolderWritten := hHolder
  rw [hTables.identities, hSame] at hHolderWritten
  cases hHolderWritten
  apply hReconciled.isMember hPrepared.isRow
  · have hMember := hDefaults row hRow before hBefore
    unfold isMember at hMember ⊢
    rw [hPrepared.keeps.groupUsers, hUser]
    exact hMember
  intro hOwn hReleases
  have hRest : rests row := by
    exact hRests ((isDefaultFor_iff hHolder).mpr ⟨hOwn.symm, rfl⟩)
  cases hOld : directory.identities.get identity.id with
  | none => exact hPrepared.not_releases_of_new hSound hOld hReleases
  | some old =>
    rcases hPrepared.releases hSound hOld hReleases with ⟨hSameUser, hEnds⟩
    refine hKept old hOld row hRow ((isDefaultFor_iff hBefore).mpr ⟨?_, rfl⟩) hRest hEnds
    rw [← hUser, ← hOwn, hSameUser]

end

---- The Default Record

structure Managed (directory : Directory) : Prop where
  sound : Sound directory
  defaults : ∀ row ∈ directory.defaults.rows, DefaultHolds directory row

/-
  A default record rests on a membership unless the call deletes the record or makes its user a
  member: one of the identity stays if it is for the new default group, and one of another identity
  of the user has to hold by itself if it is for another group.
-/
def RestsOn (identityId : Uuid) (userGroup : Option Uuid)
    (row : OIDCDefaultGroupMembership) : Prop :=
  row.identityId = identityId ↔ userGroup = some row.userGroupId

/- The identity has no default record and may get one. -/
structure AwaitsDefault (identity : ExternalIdentity) (userGroup : Option Uuid)
    (directory : Directory) : Prop where
  sound : Sound directory
  isRow : directory.identities.get identity.id = some identity
  holds : ∀ row ∈ directory.defaults.rows, (isDefaultFor identity.userId row.userGroupId
    directory row = true → userGroup ≠ some row.userGroupId) →
    DefaultHolds directory row

theorem Sound.of_members (hSound : Sound directory)
    (hIdentities : after.identities = directory.identities)
    (hMappings : after.mappings = directory.mappings)
    (hMemberships : after.memberships = directory.memberships)
    (hDefault : ∀ row ∈ after.defaults.rows,
      ∃ identity, directory.identities.get row.identityId = some identity)
    (hMember : ∀ userId groupId, hasManagedSource userId groupId directory = true →
      isMember groupId userId directory = true → isMember groupId userId after = true) :
    Sound after := by
  have hLinks : ∀ userId groupId,
    (sharedOf userId groupId after).links = (sharedOf userId groupId directory).links := by
    intro userId groupId
    unfold sharedOf linksUser
    rw [hIdentities, hMappings, hMemberships]
  refine ⟨?_, ?_, ?_⟩
  · rw [hMemberships, hIdentities]
    exact hSound.externalIdentity
  · rw [hIdentities]
    exact hDefault
  · intro userId groupId hSome
    rw [hLinks] at hSome
    apply hMember
    · rw [hasManagedSource_eq]
      simpa using hSome
    · exact hSound.external userId groupId hSome

theorem AwaitsDefault.managed_of_none (hAwaits : AwaitsDefault identity none directory) :
    Managed directory := by
  refine ⟨hAwaits.sound, ?_⟩
  intro row hRow
  apply hAwaits.holds row hRow
  intro _ hNone
  exact nomatch hNone

section

variable (hLink : linkDefault identity groupId directory = .ok after)

include hLink

theorem linkDefault_eq_ok :
    after.identities = directory.identities ∧ after.mappings = directory.mappings ∧
      after.memberships = directory.memberships ∧ after.defaults.rows = directory.defaults.rows ++
        [⟨identity.id, groupId, isMember groupId identity.userId directory⟩] ∧
      ∀ group user, isMember group user after = (decide ((group, user) =
        (groupId, identity.userId)) || isMember group user directory) := by
  rcases found_bind_eq_ok_iff.mp hLink with ⟨defaults, hInsert, hLink⟩
  have hRows := (insert_eq_some_iff.mp hInsert).2
  split at hLink
  · rename_i hMember
    rw [pure_eq_ok_iff] at hLink
    subst hLink
    exact ⟨rfl, rfl, rfl, hRows, fun _ _ => (isMember_or_eq hMember).symm⟩
  · rw [pure_eq_ok_iff] at hLink
    subst hLink
    exact ⟨rfl, rfl, rfl, hRows, fun _ _ => isMember_addMember⟩

theorem AwaitsDefault.managed_of_link (hAwaits : AwaitsDefault identity (some groupId) directory)
    : Managed after := by
  rcases linkDefault_eq_ok hLink with ⟨hIdentities, hMappings, hMemberships, hRows, hMembers⟩
  constructor
  · apply hAwaits.sound.of_members hIdentities hMappings hMemberships
    · intro row hRow
      rw [hRows, mem_append, mem_singleton] at hRow
      rcases hRow with hOld | hNew
      · exact hAwaits.sound.defaultIdentity row hOld
      · rw [hNew]
        exact ⟨identity, hAwaits.isRow⟩
    · intro userId group _ hMember
      rw [hMembers, hMember, Bool.or_true]
  · intro row hRow holder hHolder
    rw [hIdentities] at hHolder
    rw [hMembers]
    by_cases hAdded : (row.userGroupId, holder.userId) = (groupId, identity.userId)
    · rw [decide_eq_true hAdded, Bool.true_or]
    rw [hRows, mem_append, mem_singleton] at hRow
    rcases hRow with hOld | hNew
    · rw [Bool.or_eq_true]
      right
      refine hAwaits.holds row hOld ?_ holder hHolder
      intro hFor hGroup
      injection hGroup with hGroup
      apply hAdded
      rw [hGroup, ((isDefaultFor_iff hHolder).mp hFor).1]
    · -- the new record is for the user that was added
      exfalso
      apply hAdded
      rw [hNew] at hHolder ⊢
      rw [hAwaits.isRow] at hHolder
      injection hHolder with hSame
      rw [hSame]

end

theorem unlinkDefault_writes (existing : OIDCDefaultGroupMembership) :
    (unlinkDefault identity existing directory).identities = directory.identities ∧
      (unlinkDefault identity existing directory).mappings = directory.mappings ∧
      (unlinkDefault identity existing directory).memberships = directory.memberships ∧
      (unlinkDefault identity existing directory).defaults.rows = directory.defaults.rows.filter
        (fun other =>
          decide (other.identityId ≠ existing.identityId)) := by
  unfold unlinkDefault
  dsimp only
  split <;> exact ⟨rfl, rfl, rfl, rfl⟩

variable {existing : OIDCDefaultGroupMembership}

/- Whoever has another record to a group stays a member when a default record is deleted. -/
theorem isMember_unlinkDefault (hMember : isMember groupId userId directory = true)
    (hOther : hasManagedSource userId groupId directory = true ∨ ∃ row ∈ directory.defaults.rows,
          row.identityId ≠ existing.identityId ∧ isDefaultFor userId groupId directory row = true) :
    isMember groupId userId (unlinkDefault identity existing directory) = true := by
  unfold unlinkDefault
  dsimp only
  split
  · rename_i hLast
    rcases hLast with ⟨_, hSource, hFallback⟩
    rw [isMember_removeMember, Bool.and_eq_true, decide_eq_true_eq]
    refine ⟨hMember, ?_⟩
    intro hSame
    rcases hSame with ⟨rfl, rfl⟩
    rcases hOther with hManaged | ⟨row, hRow, hNe, hFor⟩
    · have hNone : hasManagedSource identity.userId existing.userGroupId directory = false :=
        hSource
      rw [hManaged] at hNone
      exact nomatch hNone
    have hSome : hasOidcFallback identity.userId existing.userGroupId { directory with
              defaults := directory.defaults.filter (fun other =>
                    decide (other.identityId ≠ existing.identityId)) } = true := by
      apply any_eq_true.mpr
      refine ⟨row, ?_, hFor⟩
      exact mem_filter.mpr ⟨hRow, decide_eq_true hNe⟩
    rw [hSome] at hFallback
    exact nomatch hFallback
  · exact hMember

section Reconcile

variable {userGroup : Option Uuid}

/- The records of a user that rest on memberships hold. -/
def RestingHold (identity : ExternalIdentity) (userGroup : Option Uuid)
    (directory : Directory) : Prop :=
  ∀ row ∈ directory.defaults.rows, (isDefaultFor identity.userId row.userGroupId
    directory row = true → RestsOn identity.id userGroup row) → DefaultHolds directory row

section

variable (hSound : Sound directory)
  (hIdentity : directory.identities.get identity.id = some identity)

include hSound hIdentity

theorem awaitsDefault_of_vacant (hHolds : RestingHold identity userGroup directory)
    (hVacant : directory.defaults.get identity.id = none) :
    AwaitsDefault identity userGroup directory := by
  refine ⟨hSound, hIdentity, ?_⟩
  intro row hRow hOther
  apply hHolds row hRow
  intro hFor
  constructor
  · intro hOwn
    exact absurd (mem_map.mpr ⟨row, hRow, hOwn⟩) (get_eq_none_iff.mp hVacant)
  · intro hGroup
    exact absurd hGroup (hOther hFor)

section

variable (hExisting : directory.defaults.get identity.id = some existing)

include hExisting

theorem managed_of_same_default
    (hHolds : RestingHold identity (some existing.userGroupId) directory) : Managed directory := by
  rcases get_eq_some_iff.mp hExisting with ⟨hMem, hKey⟩
  have hOwnHolds : DefaultHolds directory existing := by
    apply hHolds existing hMem
    intro _
    exact ⟨fun _ => rfl, fun _ => hKey⟩
  refine ⟨hSound, ?_⟩
  intro row hRow holder hHolder
  by_cases hGroup : row.userGroupId = existing.userGroupId ∧ holder.userId = identity.userId
  · -- the record of the identity holds for both
    rw [hGroup.1, hGroup.2]
    apply hOwnHolds identity
    rw [hKey]
    exact hIdentity
  · refine hHolds row hRow ?_ holder hHolder
    intro hFor
    constructor
    · intro hOwn
      have hRowGet := get_eq_some_iff.mpr ⟨hRow, hOwn⟩
      rw [hExisting] at hRowGet
      injection hRowGet with hEq
      rw [hEq]
    · intro hNew
      injection hNew with hNew
      exact absurd ⟨hNew.symm, ((isDefaultFor_iff hHolder).mp hFor).1⟩ hGroup

theorem awaitsDefault_of_unlink (hHolds : RestingHold identity userGroup directory) :
    AwaitsDefault identity userGroup (unlinkDefault identity existing directory) := by
  have hKey := (get_eq_some_iff.mp hExisting).2
  rcases @unlinkDefault_writes directory identity existing with
    ⟨hIdentities, hMappings, hMemberships, hRows⟩
  refine ⟨?_, ?_, ?_⟩
  · apply hSound.of_members hIdentities hMappings hMemberships
    · intro row hRow
      rw [hRows] at hRow
      exact hSound.defaultIdentity row (mem_filter.mp hRow).1
    · intro userId groupId hSource hMember
      exact isMember_unlinkDefault hMember (.inl hSource)
  · rw [hIdentities]
    exact hIdentity
  intro row hRow hOther holder hHolder
  rw [hRows, mem_filter, decide_eq_true_eq] at hRow
  rw [hIdentities] at hHolder
  have hFor := (isDefaultFor_iff hHolder).mpr ⟨rfl, rfl⟩
  apply isMember_unlinkDefault
  · refine hHolds row hRow.1 ?_ holder hHolder
    intro hOwn
    constructor
    · intro hId
      exact absurd (hId.trans hKey.symm) hRow.2
    · intro hGroup
      refine absurd hGroup (hOther ?_)
      unfold isDefaultFor at hOwn ⊢
      rw [hIdentities]
      exact hOwn
  · exact .inr ⟨row, hRow.1, hRow.2, hFor⟩

end

theorem managed_of_reconcileOidcDefault (hHolds : RestingHold identity userGroup directory)
    (hCall : reconcileOidcDefaultMembership identity userGroup directory = .ok after) :
    Managed after := by
  unfold reconcileOidcDefaultMembership at hCall
  cases hExisting : directory.defaults.get identity.id with
  | none =>
    rw [hExisting] at hCall
    have hAwaits := awaitsDefault_of_vacant hSound hIdentity hHolds hExisting
    cases userGroup with
    | none =>
      cases hCall
      exact hAwaits.managed_of_none
    | some groupId => exact hAwaits.managed_of_link hCall
  | some existing =>
    rw [hExisting] at hCall
    dsimp only at hCall
    split at hCall
    · rename_i hSame
      cases hCall
      rw [← hSame] at hHolds
      exact managed_of_same_default hSound hIdentity hExisting hHolds
    · have hAwaits := awaitsDefault_of_unlink hSound hIdentity hExisting hHolds
      cases userGroup with
      | none =>
        cases hCall
        exact hAwaits.managed_of_none
      | some groupId => exact hAwaits.managed_of_link hCall

end

end Reconcile

end PamOlive.Connectors
