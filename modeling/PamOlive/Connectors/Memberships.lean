import PamOlive.Connectors.Sync
import PamOlive.Foundations.SharedMembership

/-
  What reconciling does to one membership.

  For each user and group, the membership and its records are a shared membership, which a call of
  `reconcile_external_memberships` reconciles. Other users are left alone.
-/

---- One Membership

namespace PamOlive.Connectors

open Foundations List

variable {identity : ExternalIdentity} {mapping : DirectoryGroupMapping}
variable {directory after : Directory} {userId : UserId} {groupId : Uuid}

/- The key of a record, and whether it keeps a membership. -/
def entryOf (row : ExternalGroupMembership) : (Uuid × Uuid) × Bool :=
  (row.key, row.preserveMembershipOnUnlink)

/- The membership of a user in a group, with its records. -/
def sharedOf (userId : UserId) (groupId : Uuid) (directory : Directory) : Shared (Uuid × Uuid) where
  member := isMember groupId userId directory
  links := (directory.memberships.rows.filter (linksUser userId groupId directory)).map entryOf

/- The records that the first loop creates for a group. -/
def newsOf (identity : ExternalIdentity) (groupId : Uuid) (existingMappingIds : List Uuid)
    (matched : List DirectoryGroupMapping) : List (Uuid × Uuid) :=
  (matched.filter (fun mapping =>
      !existingMappingIds.contains mapping.id && decide (mapping.userGroupId = groupId))).map
    (fun mapping => (identity.id, mapping.id))

/- The records that the second loop deletes for a group. -/
def oldsOf (groupId : Uuid) (matchedIds : List Uuid) (existing : List ManagedMembership) :
    List ((Uuid × Uuid) × Bool) :=
  (existing.filter (fun membership =>
      !matchedIds.contains membership.1.mappingId &&
        decide (membership.2.userGroupId = groupId))).map
    (fun membership => entryOf membership.1)

variable {group : Uuid} {user : UserId}

theorem isMember_or_eq (hMember : isMember group user directory) :
    (decide ((groupId, userId) = (group, user)) || isMember groupId userId directory) =
      isMember groupId userId directory := by
  by_cases hSame : (groupId, userId) = (group, user)
  · rw [Prod.mk.injEq] at hSame
    rw [hSame.1, hSame.2, hMember, Bool.or_true]
  · rw [decide_eq_false hSame, Bool.false_or]

theorem isMember_addMember : isMember groupId userId (addMember group user directory) =
    (decide ((groupId, userId) = (group, user)) || isMember groupId userId directory) := by
  unfold addMember
  split
  · rename_i hMember
    exact (isMember_or_eq hMember).symm
  · rw [Bool.eq_iff_iff]
    simp [isMember]

theorem isMember_removeMember : isMember groupId userId (removeMember group user directory) =
    (isMember groupId userId directory && decide ((groupId, userId) ≠ (group, user))) := by
  simp [isMember, removeMember]

---- Linking

/- Only records and members were written. -/
structure SameTables (directory after : Directory) : Prop where
  identities : after.identities = directory.identities
  mappings : after.mappings = directory.mappings
  defaults : after.defaults = directory.defaults
  accounts : after.accounts = directory.accounts
  enabledGroups : after.enabledGroups = directory.enabledGroups

theorem SameTables.refl (directory : Directory) : SameTables directory directory :=
  ⟨rfl, rfl, rfl, rfl, rfl⟩

theorem SameTables.trans {first second third : Directory} (hFirst : SameTables first second)
    (hSecond : SameTables second third) :
    SameTables first third where
  identities := hSecond.identities.trans hFirst.identities
  mappings := hSecond.mappings.trans hFirst.mappings
  defaults := hSecond.defaults.trans hFirst.defaults
  accounts := hSecond.accounts.trans hFirst.accounts
  enabledGroups := hSecond.enabledGroups.trans hFirst.enabledGroups

theorem linksUser_congr (hSame : SameTables directory after) :
    linksUser userId groupId after = linksUser userId groupId directory := by
  funext row
  unfold linksUser
  rw [hSame.identities, hSame.mappings]

variable {count : Nat}

theorem linkMapping_eq_ok (hLink : linkMapping identity mapping directory = .ok (count, after)) :
    SameTables directory after ∧ after.memberships.rows = directory.memberships.rows ++
      [⟨identity.id, mapping.id, isMember mapping.userGroupId identity.userId directory⟩] ∧
      ∀ groupId userId, isMember groupId userId after = (decide ((groupId, userId) =
        (mapping.userGroupId, identity.userId)) || isMember groupId userId directory) := by
  rcases found_bind_eq_ok_iff.mp hLink with ⟨memberships, hInsert, hLink⟩
  have hRows := (Table.insert_eq_some_iff.mp hInsert).2
  split at hLink
  · rename_i hMember
    rcases hLink with ⟨_, rfl⟩
    exact ⟨⟨rfl, rfl, rfl, rfl, rfl⟩, hRows, fun _ _ => (isMember_or_eq hMember).symm⟩
  · rcases hLink with ⟨_, rfl⟩
    exact ⟨⟨rfl, rfl, rfl, rfl, rfl⟩, hRows, fun _ _ => isMember_addMember⟩

variable {row : ExternalGroupMembership}

theorem linksUser_of_get (hIdentity : directory.identities.get row.identityId = some identity)
    (hMapping : directory.mappings.get row.mappingId = some mapping) :
    linksUser userId groupId directory row = (decide (identity.userId = userId) &&
      decide (mapping.userGroupId = groupId)) := by
  unfold linksUser
  rw [hIdentity, hMapping]
  rfl

section

variable (hIdentity : directory.identities.get identity.id = some identity)

include hIdentity

theorem sharedOf_linkMapping (hMapping : directory.mappings.get mapping.id = some mapping)
    (hLink : linkMapping identity mapping directory = .ok (count, after)) :
    sharedOf userId groupId after =
      if identity.userId = userId ∧ mapping.userGroupId = groupId then
        (sharedOf userId groupId directory).link (identity.id, mapping.id)
      else sharedOf userId groupId directory := by
  rcases linkMapping_eq_ok hLink with ⟨hSame, hRows, hMembers⟩
  have hNew := @linksUser_of_get identity mapping directory userId groupId ⟨identity.id, mapping.id,
    isMember mapping.userGroupId identity.userId directory⟩ hIdentity hMapping
  unfold sharedOf
  rw [linksUser_congr hSame, hRows, filter_append, hMembers groupId userId]
  split
  · rename_i hOwn
    rcases hOwn with ⟨rfl, rfl⟩
    simp only [decide_true, Bool.and_self] at hNew
    rw [filter_cons_of_pos hNew]
    simp [Shared.link, entryOf, ExternalGroupMembership.key]
  · rename_i hOther
    have hFalse : linksUser userId groupId directory ⟨identity.id, mapping.id,
      isMember mapping.userGroupId identity.userId directory⟩ ≠ true := by
      rw [hNew]
      simpa using hOther
    rw [filter_cons_of_neg hFalse, filter_nil, append_nil]
    have hNe : (groupId, userId) ≠ (mapping.userGroupId, identity.userId) := by
      intro hEq
      rw [Prod.mk.injEq] at hEq
      exact hOther ⟨hEq.2.symm, hEq.1.symm⟩
    rw [decide_eq_false hNe, Bool.false_or]

variable {matched : List DirectoryGroupMapping}

theorem sharedOf_linkMappings {existingMappingIds : List Uuid}
    (hMatched : ∀ mapping ∈ matched, directory.mappings.get mapping.id = some mapping)
    (hLink : linkMappings identity existingMappingIds matched directory = .ok (count, after)) :
    SameTables directory after ∧ ∀ groupId userId, sharedOf userId groupId after =
      if identity.userId = userId then
        (sharedOf userId groupId directory).linkAll
          (newsOf identity groupId existingMappingIds matched)
      else sharedOf userId groupId directory := by
  induction matched generalizing directory count with
  | nil =>
    injection hLink with hLink
    rcases hLink with ⟨_, rfl⟩
    exact ⟨.refl _, fun _ _ => (ite_self _).symm⟩
  | cons mapping rest ih =>
    rcases forall_mem_cons.mp hMatched with ⟨hMapping, hRest⟩
    unfold linkMappings at hLink
    split at hLink
    · rename_i hExisting
      have hSkipped : ∀ groupId, newsOf identity groupId existingMappingIds (mapping :: rest) =
        newsOf identity groupId existingMappingIds rest :=
        fun _ => congrArg (map _) (filter_cons_of_neg (by simp only [hExisting]; simp))
      simp only [hSkipped]
      exact ih hIdentity hRest hLink
    · rename_i hExisting
      rcases bind_eq_ok_iff.mp hLink with ⟨⟨first, middle⟩, hFirst, hLink⟩
      rcases bind_eq_ok_iff.mp hLink with ⟨⟨others, last⟩, hOthers, hLink⟩
      rcases hLink with ⟨_, rfl⟩
      have hTables := (linkMapping_eq_ok hFirst).1
      rcases ih (hTables.identities ▸ hIdentity) (hTables.mappings ▸ hRest) hOthers with
        ⟨hSame, hTail⟩
      refine ⟨hTables.trans hSame, ?_⟩
      intro groupId userId
      rw [hTail, sharedOf_linkMapping hIdentity hMapping hFirst]
      unfold newsOf
      by_cases hUser : identity.userId = userId
      · rw [if_pos hUser, if_pos hUser]
        by_cases hGroup : mapping.userGroupId = groupId
        · rw [if_pos ⟨hUser, hGroup⟩, filter_cons_of_pos (by simp only [hExisting, hGroup]; simp)]
          rfl
        · rw [if_neg (fun hBoth => hGroup hBoth.2), filter_cons_of_neg (by simp [hGroup])]
      · rw [if_neg hUser, if_neg hUser, if_neg (fun hBoth => hUser hBoth.1)]

end

---- Unlinking

theorem deleteMembership_sameTables (row : ExternalGroupMembership) :
    SameTables directory (deleteMembership row directory) :=
  ⟨rfl, rfl, rfl, rfl, rfl⟩

theorem hasManagedSource_eq : hasManagedSource userId groupId directory =
    !(sharedOf userId groupId directory).links.isEmpty := by
  rw [Bool.eq_iff_iff]
  unfold hasManagedSource sharedOf
  simp [filter_eq_nil_iff]

section

variable (membership : ManagedMembership)

include membership

theorem sharedOf_deleteMembership
    (hIdentity : directory.identities.get membership.1.identityId = some identity)
    (hMapping : directory.mappings.get membership.1.mappingId = some membership.2) :
    (sharedOf userId groupId (deleteMembership membership.1 directory)).links =
      if identity.userId = userId ∧ membership.2.userGroupId = groupId then
        (sharedOf userId groupId directory).without membership.1.key
      else (sharedOf userId groupId directory).links := by
  unfold sharedOf
  rw [linksUser_congr (deleteMembership_sameTables _)]
  dsimp only [deleteMembership, Table.filter]
  rw [filter_filter]
  split
  · unfold Shared.without
    rw [filter_map, filter_filter]
    congr 1
    apply filter_congr
    intro row _
    rw [Bool.and_comm]
    rfl
  · rename_i hOther
    congr 1
    apply filter_congr
    intro row _
    by_cases hKey : row.key = membership.1.key
    · -- the deleted record links another user or group
      unfold ExternalGroupMembership.key at hKey
      rw [Prod.mk.injEq] at hKey
      rw [← hKey.1] at hIdentity
      rw [← hKey.2] at hMapping
      rw [linksUser_of_get hIdentity hMapping, ← Bool.decide_and, decide_eq_false hOther,
        Bool.false_and]
    · rw [decide_eq_true hKey, Bool.and_true]

theorem unlinkMembership_snd : (unlinkMembership identity membership directory).2 =
    if membership.1.preserveMembershipOnUnlink = false ∧
      hasManagedSource identity.userId membership.2.userGroupId
        (deleteMembership membership.1 directory) = false then
      removeMember membership.2.userGroupId identity.userId
        (deleteMembership membership.1 directory)
    else deleteMembership membership.1 directory := by
  unfold unlinkMembership
  dsimp only
  split <;> rfl

theorem unlinkMembership_sameTables :
    SameTables directory (unlinkMembership identity membership directory).2 := by
  rw [unlinkMembership_snd]
  split <;> exact ⟨rfl, rfl, rfl, rfl, rfl⟩

end

variable {membership : ManagedMembership}

theorem sharedOf_unlinkMembership
    (hIdentity : directory.identities.get membership.1.identityId = some identity)
    (hMapping : directory.mappings.get membership.1.mappingId = some membership.2) :
    sharedOf userId groupId (unlinkMembership identity membership directory).2 =
      if identity.userId = userId ∧ membership.2.userGroupId = groupId then
        (sharedOf userId groupId directory).unlink (entryOf membership.1)
      else sharedOf userId groupId directory := by
  have hLinks :=
    @sharedOf_deleteMembership identity directory userId groupId membership hIdentity hMapping
  have hSource := @hasManagedSource_eq (deleteMembership membership.1 directory) userId groupId
  rw [hLinks] at hSource
  rw [unlinkMembership_snd]
  split
  · rename_i hLast
    -- the record was the last, and made the membership
    have hRemoved : sharedOf userId groupId (removeMember membership.2.userGroupId identity.userId
      (deleteMembership membership.1 directory)) = ⟨isMember groupId userId directory &&
        decide ((groupId, userId) ≠ (membership.2.userGroupId, identity.userId)),
        (sharedOf userId groupId (deleteMembership membership.1 directory)).links⟩ := by
      unfold sharedOf
      rw [isMember_removeMember]
      rfl
    rw [hRemoved, hLinks]
    split
    · rename_i hOwn
      rw [if_pos hOwn] at hSource
      rcases hOwn with ⟨rfl, rfl⟩
      rw [hLast.2] at hSource
      simp only [Shared.unlink, entryOf, hLast.1, Bool.false_or, ← hSource]
      simp
    · rename_i hOther
      have hNe : (groupId, userId) ≠ (membership.2.userGroupId, identity.userId) := by
        intro hEq
        rw [Prod.mk.injEq] at hEq
        exact hOther ⟨hEq.2.symm, hEq.1.symm⟩
      rw [decide_eq_true hNe, Bool.and_true]
      rfl
  · rename_i hKeeps
    have hKept : sharedOf userId groupId (deleteMembership membership.1 directory) =
      ⟨isMember groupId userId directory,
        (sharedOf userId groupId (deleteMembership membership.1 directory)).links⟩ := rfl
    rw [hKept, hLinks]
    split
    · rename_i hOwn
      rw [if_pos hOwn] at hSource
      rcases hOwn with ⟨rfl, rfl⟩
      have hFlag : (membership.1.preserveMembershipOnUnlink || !((sharedOf identity.userId
        membership.2.userGroupId directory).without membership.1.key).isEmpty) = true := by
        rw [← hSource, Bool.or_eq_true]
        by_contra hNot
        apply hKeeps
        simpa using hNot
      simp only [Shared.unlink, entryOf, hFlag, Bool.and_true]
      rfl
    · rfl

theorem sharedOf_unlinkMemberships {matchedIds : List Uuid} {existing : List ManagedMembership}
    (hIdentity : directory.identities.get identity.id = some identity)
    (hExisting : ∀ membership ∈ existing, membership.1.identityId = identity.id ∧
      directory.mappings.get membership.1.mappingId = some membership.2) :
    SameTables directory (unlinkMemberships identity matchedIds existing directory).2 ∧
      ∀ groupId userId,
        sharedOf userId groupId (unlinkMemberships identity matchedIds existing directory).2 =
          if identity.userId = userId then
            (sharedOf userId groupId directory).unlinkAll (oldsOf groupId matchedIds existing)
          else sharedOf userId groupId directory := by
  induction existing generalizing directory with
  | nil => exact ⟨.refl _, fun _ _ => (ite_self _).symm⟩
  | cons membership rest ih =>
    rcases forall_mem_cons.mp hExisting with ⟨⟨hOwnId, hMapping⟩, hRest⟩
    unfold unlinkMemberships
    split
    · rename_i hMatched
      have hSkipped : ∀ groupId, oldsOf groupId matchedIds (membership :: rest) =
        oldsOf groupId matchedIds rest :=
        fun _ => congrArg (map _) (filter_cons_of_neg (by simp only [hMatched]; simp))
      simp only [hSkipped]
      exact ih hIdentity hRest
    · rename_i hUnmatched
      have hTables := @unlinkMembership_sameTables identity directory membership
      rcases ih (hTables.identities ▸ hIdentity) (hTables.mappings ▸ hRest) with ⟨hSame, hTail⟩
      refine ⟨hTables.trans hSame, ?_⟩
      intro groupId userId
      rw [hTail, sharedOf_unlinkMembership (hOwnId ▸ hIdentity) hMapping]
      unfold oldsOf
      by_cases hUser : identity.userId = userId
      · rw [if_pos hUser, if_pos hUser]
        by_cases hGroup : membership.2.userGroupId = groupId
        · rw [if_pos ⟨hUser, hGroup⟩, filter_cons_of_pos (by simp only [hUnmatched, hGroup]; simp)]
          rfl
        · rw [if_neg (fun hBoth => hGroup hBoth.2), filter_cons_of_neg (by simp [hGroup])]
      · rw [if_neg hUser, if_neg hUser, if_neg (fun hBoth => hUser hBoth.1)]

---- Reconciling

section

variable (order : ReadOrder ManagedMembership) (identity : ExternalIdentity)
  (matched : List DirectoryGroupMapping) (groupId : Uuid) (directory : Directory)

def created : List (Uuid × Uuid) :=
  newsOf identity groupId ((managedGroupMemberships order identity directory).map
    (fun membership => membership.1.mappingId))
    matched

def deleted : List ((Uuid × Uuid) × Bool) :=
  oldsOf groupId (matched.map DirectoryGroupMapping.id)
    (managedGroupMemberships order identity directory)

end

variable {order : ReadOrder ManagedMembership}

theorem mem_managedGroupMemberships :
    membership ∈ managedGroupMemberships order identity directory ↔
      membership.1 ∈ directory.memberships.rows ∧ membership.1.identityId = identity.id ∧
        directory.mappings.get membership.1.mappingId = some membership.2 := by
  unfold managedGroupMemberships
  rw [(order.perm _).mem_iff]
  simp only [mem_filterMap, mem_filter, decide_eq_true_eq, Option.map_eq_some_iff]
  constructor
  · rintro ⟨row, ⟨hRow, hOwn⟩, mapping, hMapping, rfl⟩
    exact ⟨hRow, hOwn, hMapping⟩
  · rintro ⟨hRow, hOwn, hMapping⟩
    exact ⟨membership.1, ⟨hRow, hOwn⟩, membership.2, hMapping, rfl⟩

/- A call reconciles the memberships of the identity's user, group by group. -/
structure Reconciled (order : ReadOrder ManagedMembership) (identity : ExternalIdentity)
    (matched : List DirectoryGroupMapping) (directory after : Directory) : Prop where
  sameTables : SameTables directory after
  own : ∀ groupId, sharedOf identity.userId groupId after =
    (sharedOf identity.userId groupId directory).reconcile
      (created order identity matched groupId directory)
      (deleted order identity matched groupId directory)
  others : ∀ groupId userId, identity.userId ≠ userId →
    sharedOf userId groupId after = sharedOf userId groupId directory

theorem reconciled_of_ok {counts : Nat × Nat}
    (hIdentity : directory.identities.get identity.id = some identity)
    (hMatched : ∀ mapping ∈ matched, directory.mappings.get mapping.id = some mapping)
    (hCall : reconcileExternalMemberships order identity matched directory = .ok (counts, after)) :
    Reconciled order identity matched directory after := by
  rcases bind_eq_ok_iff.mp hCall with ⟨⟨added, linked⟩, hLink, hCall⟩
  rcases hCall with ⟨_, rfl⟩
  rcases sharedOf_linkMappings hIdentity hMatched hLink with ⟨hTables, hLinked⟩
  have hExisting : ∀ membership ∈ managedGroupMemberships order identity directory,
    membership.1.identityId = identity.id ∧
      linked.mappings.get membership.1.mappingId = some membership.2 := by
    intro membership hMem
    rw [hTables.mappings]
    exact (mem_managedGroupMemberships.mp hMem).2
  rcases sharedOf_unlinkMemberships (hTables.identities ▸ hIdentity) hExisting with
    ⟨hUnlinkTables, hUnlinked⟩
  refine ⟨hTables.trans hUnlinkTables, ?_, ?_⟩
  · intro groupId
    rw [hUnlinked, if_pos rfl, hLinked, if_pos rfl]
    rfl
  · intro groupId userId hOther
    rw [hUnlinked, if_neg hOther, hLinked, if_neg hOther]

variable {entry : (Uuid × Uuid) × Bool}

theorem mem_sharedOf_links :
    entry ∈ (sharedOf userId groupId directory).links ↔ ∃ row ∈ directory.memberships.rows,
      linksUser userId groupId directory row = true ∧ entryOf row = entry := by
  unfold sharedOf
  simp only [mem_map, mem_filter, and_assoc]

theorem linksUser_iff : linksUser userId groupId directory row = true ↔ (∃ identity,
    directory.identities.get row.identityId = some identity ∧ identity.userId = userId) ∧
    ∃ mapping,
      directory.mappings.get row.mappingId = some mapping ∧ mapping.userGroupId = groupId := by
  unfold linksUser
  rw [Bool.and_eq_true, Option.any_eq_true, Option.any_eq_true]
  simp

theorem mem_deleted : entry ∈ deleted order identity matched groupId directory ↔
    ∃ row ∈ directory.memberships.rows, row.identityId = identity.id ∧ (∃ mapping,
      directory.mappings.get row.mappingId = some mapping ∧ mapping.userGroupId = groupId) ∧
      row.mappingId ∉ matched.map DirectoryGroupMapping.id ∧ entryOf row = entry := by
  unfold deleted oldsOf
  simp only [mem_map, mem_filter, mem_managedGroupMemberships, Bool.and_eq_true,
    Bool.not_eq_true', contains_eq_mem, decide_eq_false_iff_not, decide_eq_true_eq]
  constructor
  · rintro ⟨⟨row, mapping⟩, ⟨⟨hRow, hOwn, hMapping⟩, hUnmatched, hGroup⟩, rfl⟩
    exact ⟨row, hRow, hOwn, ⟨mapping, hMapping, hGroup⟩, hUnmatched, rfl⟩
  · rintro ⟨row, hRow, hOwn, ⟨mapping, hMapping, hGroup⟩, hUnmatched, rfl⟩
    exact ⟨(row, mapping), ⟨⟨hRow, hOwn, hMapping⟩, hUnmatched, hGroup⟩, rfl⟩

theorem mem_created {key : Uuid × Uuid} : key ∈ created order identity matched groupId directory ↔
    ∃ mapping ∈ matched, mapping.id ∉ (managedGroupMemberships order identity directory).map
      (fun membership => membership.1.mappingId) ∧ mapping.userGroupId = groupId ∧
      (identity.id, mapping.id) = key := by
  unfold created newsOf
  simp only [mem_map, mem_filter, Bool.and_eq_true, Bool.not_eq_true',
    contains_eq_mem, decide_eq_false_iff_not, decide_eq_true_eq, and_assoc]

theorem nodup_managed_keys : ((managedGroupMemberships order identity directory).map
    (fun membership => membership.1.key)).Nodup := by
  unfold managedGroupMemberships
  rw [((order.perm _).map _).nodup_iff]
  generalize hKept :
    directory.memberships.rows.filter (fun row => decide (row.identityId = identity.id)) = rows
  have hKeys : (rows.map ExternalGroupMembership.key).Nodup := by
    rw [← hKept]
    exact directory.memberships.nodup.sublist (filter_sublist.map _)
  clear hKept
  induction rows with
  | nil => simp
  | cons row rest ih =>
    rw [map_cons, nodup_cons] at hKeys
    rw [filterMap_cons]
    cases directory.mappings.get row.mappingId with
    | none => exact ih hKeys.2
    | some mapping =>
      dsimp only [Option.map_some]
      rw [map_cons, nodup_cons]
      refine ⟨?_, ih hKeys.2⟩
      intro hMem
      apply hKeys.1
      rcases mem_map.mp hMem with ⟨membership, hIn, hSame⟩
      rcases mem_filterMap.mp hIn with ⟨other, hOther, hSome⟩
      rcases Option.map_eq_some_iff.mp hSome with ⟨_, _, rfl⟩
      rw [← hSame]
      exact mem_map_of_mem hOther

theorem fits_reconcile (hIdentity : directory.identities.get identity.id = some identity) :
    Shared.Fits (created order identity matched groupId directory)
      (deleted order identity matched groupId directory)
      (sharedOf identity.userId groupId directory) where
  isLinked := by
    intro entry hMem
    rcases mem_deleted.mp hMem with ⟨row, hRow, hOwn, hMapping, _, hEntry⟩
    apply mem_sharedOf_links.mpr
    refine ⟨row, hRow, ?_, hEntry⟩
    apply linksUser_iff.mpr
    rw [hOwn]
    exact ⟨⟨identity, hIdentity, rfl⟩, hMapping⟩
  oldKeys := by
    unfold deleted oldsOf
    rw [map_map]
    exact nodup_managed_keys.sublist (filter_sublist.map _)
  linkKeys := by
    unfold sharedOf
    rw [map_map]
    exact directory.memberships.nodup.sublist (filter_sublist.map _)
  newKeys := by
    intro key hNew hOld
    rcases mem_created.mp hNew with ⟨mapping, _, hFresh, _, rfl⟩
    rcases mem_map.mp hOld with ⟨entry, hIn, hKey⟩
    rcases mem_sharedOf_links.mp hIn with ⟨row, hRow, hLinks, rfl⟩
    rw [Prod.mk.injEq] at hKey
    rcases (linksUser_iff.mp hLinks).2 with ⟨other, hMapping, _⟩
    apply hFresh
    apply mem_map.mpr
    refine ⟨(row, other), ?_, hKey.2⟩
    exact mem_managedGroupMemberships.mpr ⟨hRow, hKey.1, hMapping⟩

end PamOlive.Connectors
