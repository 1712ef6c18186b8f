import PamOlive.Connectors.ManagedRuns
import PamOlive.Connectors.MembershipUndone

/-
  What a synchronization does with identities that the directory no longer reports.

  The loop runs over the users of the listing. Other identities are not looked at: their records
  stay, and hold their users in the mapped groups.
-/

---- The Synchronization

namespace PamOlive.Connectors

open Foundations Sessions List

inductive SyncStatus where
  | never | running | success | failed
deriving DecidableEq

/- The tables, and the columns of the source that are written. -/
structure SyncState where
  directory : Directory
  db : Database
  lastSyncStatus : SyncStatus
  lastSyncAt : Option Int
  lastError : Text

structure ErrorTexts where
  className : Failure → Text
  str : Failure → Text

def SyncCounts.json (counts : SyncCounts) : Json :=
  .obj [("created", .int counts.created), ("updated", .int counts.updated),
    ("skipped", .int counts.skipped), ("memberships_added", .int counts.membershipsAdded),
    ("memberships_removed", .int counts.membershipsRemoved)]

def recordSync
    (site : Site) (moment : Moment) (source : IdentitySource) (action : Text) (metadata : Json) :
    SyncState → Except Failure Unit × SyncState :=
  commit (fun state => do
    let db ← state.db.recordEvent site moment none action
      "connectors.identitysource" (Uuid.str source.id) metadata none
    return ((), { state with db := db }))

def applyFetched (call : SyncCall) (fetched : Except Failure (List DirectoryUser)) :
    SyncState → Except Failure SyncCounts × SyncState :=
  commit (fun state => do
    let users ← fetched
    let (counts, directory) ← applyDirectoryUsers call users state.directory
    return (counts, { state with directory := directory }))

def synchronizeIdentitySource
    (site : Site) (moment : Moment) (errors : ErrorTexts) (call : SyncCall)
    (fetched : Except Failure (List DirectoryUser)) (state : SyncState) :
    Except Failure SyncCounts × SyncState :=
  if call.source.enabled = false then
    (.error (.runtimeError "La source d’identité est désactivée."), state)
  else
    match applyFetched call fetched { state with lastSyncStatus := .running, lastError := [] } with
    | (.error failure, after) =>
      andThen (recordSync site moment call.source "identity_source.sync.failed"
        (.obj [("error_type", .str (errors.className failure))]))
        (fun _ => reading (fun _ => .error failure))
        { after with
          lastSyncStatus := .failed
          lastSyncAt := some moment.now
          lastError := (errors.str failure).take 2000 }
    | (.ok counts, after) =>
      andThen (recordSync site moment call.source "identity_source.sync.completed" counts.json)
        (fun _ => reading (fun _ => .ok counts))
        { after with
          lastSyncStatus := .success
          lastSyncAt := some moment.now
          lastError := [] }

theorem synchronizeIdentitySource_eq_ok
    {site : Site} {moment : Moment} {errors : ErrorTexts} {call : SyncCall}
    {fetched : Except Failure (List DirectoryUser)} {state after : SyncState} {counts : SyncCounts}
    (hSync :
      synchronizeIdentitySource site moment errors call fetched state = (.ok counts, after)) :
    ∃ users, fetched = .ok users ∧
      applyDirectoryUsers call users state.directory = .ok (counts, after.directory) := by
  unfold synchronizeIdentitySource at hSync
  split_ifs at hSync
  · cases hSync
  split at hSync
  · rcases andThen_eq_ok_iff.mp hSync with ⟨_, _, _, hRaise⟩
    cases hRaise
  rename_i counts' applied hApplied
  rcases andThen_eq_ok_iff.mp hSync with ⟨_, recorded, hRecord, hReturn⟩
  rcases hReturn with ⟨rfl, rfl⟩
  rcases bind_eq_ok_iff.mp (commit_eq_ok_iff.mp hRecord) with ⟨_, _, hReturn⟩
  rcases return_eq_ok_iff.mp hReturn with ⟨_, rfl⟩
  rcases bind_eq_ok_iff.mp (commit_eq_ok_iff.mp hApplied) with ⟨users, hFetched, hApply⟩
  rcases bind_eq_ok_iff.mp hApply with ⟨⟨counts, directory⟩, hUsers, hReturn⟩
  rcases hReturn with ⟨rfl, rfl⟩
  exact ⟨users, hFetched, hUsers⟩

---- Records Of Others

/- An identity's record holds its user in a group. -/
def HeldIn (absent : ExternalIdentity) (groupId : Uuid) (directory : Directory) : Prop :=
  ∃ row ∈ directory.memberships.rows, row.identityId = absent.id ∧
    ∃ mapping, directory.mappings.get row.mappingId = some mapping ∧ mapping.userGroupId = groupId

/- What is left as it was of an identity. -/
structure Untouched (absent : ExternalIdentity) (directory after : Directory) : Prop where
  mappings : after.mappings = directory.mappings
  identity : after.identities.get absent.id = directory.identities.get absent.id
  rows : ∀ row, row.identityId = absent.id →
    (row ∈ after.memberships.rows ↔ row ∈ directory.memberships.rows)
  members : ∀ groupId, HeldIn absent groupId directory →
    isMember groupId absent.userId directory = true → isMember groupId absent.userId after = true

variable {absent identity : ExternalIdentity} {directory middle after written : Directory}
variable {order : ReadOrder ManagedMembership} {matched : List DirectoryGroupMapping}
variable {row : ExternalGroupMembership} {groupId : Uuid}

theorem Untouched.refl : Untouched absent directory directory :=
  ⟨rfl, rfl, fun _ _ => Iff.rfl, fun _ _ hMember => hMember⟩

theorem Untouched.heldIn (hUntouched : Untouched absent directory after)
    (hHeld : HeldIn absent groupId directory) : HeldIn absent groupId after := by
  rcases hHeld with ⟨row, hRow, hOwn, hMapping⟩
  refine ⟨row, (hUntouched.rows row hOwn).mpr hRow, hOwn, ?_⟩
  rw [hUntouched.mappings]
  exact hMapping

theorem Untouched.trans (hFirst : Untouched absent directory middle)
    (hSecond : Untouched absent middle after) :
    Untouched absent directory after where
  mappings := hSecond.mappings.trans hFirst.mappings
  identity := hSecond.identity.trans hFirst.identity
  rows row hOwn := (hSecond.rows row hOwn).trans (hFirst.rows row hOwn)
  members groupId hHeld hMember :=
    hSecond.members groupId (hFirst.heldIn hHeld) (hFirst.members groupId hHeld hMember)

theorem mem_linkMappings_of_mem {existingMappingIds : List Uuid} {count : Nat}
    (hLink : linkMappings identity existingMappingIds matched directory = .ok (count, after))
    (hRow : row ∈ directory.memberships.rows) : row ∈ after.memberships.rows := by
  induction matched generalizing directory count with
  | nil =>
    cases hLink
    exact hRow
  | cons mapping rest ih =>
    unfold linkMappings at hLink
    split at hLink
    · exact ih hLink hRow
    · rcases bind_eq_ok_iff.mp hLink with ⟨⟨first, middle⟩, hFirst, hLink⟩
      rcases bind_eq_ok_iff.mp hLink with ⟨⟨others, last⟩, hOthers, hLink⟩
      rw [return_eq_ok_iff] at hLink
      rw [hLink.2] at hOthers
      refine ih hOthers ?_
      rw [(linkMapping_eq_ok hFirst).2.1]
      exact mem_append_left _ hRow

theorem mem_unlinkMemberships_of_mem {matchedIds : List Uuid} {existing : List ManagedMembership}
    (hKept : ∀ membership ∈ existing, membership.1.mappingId ∉ matchedIds →
      row.key ≠ membership.1.key) (hRow : row ∈ directory.memberships.rows) :
    row ∈ (unlinkMemberships identity matchedIds existing directory).2.memberships.rows := by
  induction existing generalizing directory with
  | nil => exact hRow
  | cons membership rest ih =>
    rcases forall_mem_cons.mp hKept with ⟨hFirst, hRest⟩
    unfold unlinkMemberships
    split_ifs with hMatched
    · exact ih hRest hRow
    · have hDeleted : row ∈ (deleteMembership membership.1 directory).memberships.rows :=
        mem_filter.mpr ⟨hRow, decide_eq_true (hFirst (by simpa using hMatched))⟩
      refine ih hRest ?_
      rw [unlinkMembership_snd]
      split_ifs <;> exact hDeleted

/- A membership that a record of this identity holds is not ended, as the record stays. -/
theorem Untouched.reconcile {counts : Nat × Nat}
    (hIdentity : directory.identities.get identity.id = some identity)
    (hAbsent : directory.identities.get absent.id = some absent) (hOther : absent.id ≠ identity.id)
    (hMatched : ∀ mapping ∈ matched, directory.mappings.get mapping.id = some mapping)
    (hCall : reconcileExternalMemberships order identity matched directory = .ok (counts, after)) :
    Untouched absent directory after := by
  have hReconciled := reconciled_of_ok hIdentity hMatched hCall
  refine ⟨hReconciled.sameTables.mappings, ?_, ?_, ?_⟩
  · rw [hReconciled.sameTables.identities]
  · intro row hOwn
    have hRowOther : row.identityId ≠ identity.id := by
      rw [hOwn]
      exact hOther
    constructor
    · intro hRow
      exact (mem_rows_of_reconcile hCall hRow).resolve_right hRowOther
    · intro hRow
      rcases bind_eq_ok_iff.mp hCall with ⟨⟨added, linked⟩, hLink, hCall⟩
      rw [return_eq_ok_iff] at hCall
      rw [← hCall.2]
      refine mem_unlinkMemberships_of_mem ?_ (mem_linkMappings_of_mem hLink hRow)
      intro membership hMem _ hKey
      have hSame := congrArg Prod.fst hKey
      exact hRowOther (hSame.trans (mem_managedGroupMemberships.mp hMem).2.1)
  · rintro groupId ⟨row, hRow, hOwn, hMapping⟩ hMember
    refine hReconciled.isMember hIdentity hMember ?_
    rintro hUser ⟨_, hAll, _⟩
    have hEntry : entryOf row ∈ (sharedOf identity.userId groupId directory).links := by
      refine mem_sharedOf_links.mpr ⟨row, hRow, linksUser_iff.mpr ⟨⟨absent, ?_, hUser.symm⟩,
        hMapping⟩, rfl⟩
      rw [hOwn]
      exact hAbsent
    rcases mem_map.mp (hAll _ hEntry) with ⟨entry, hDeleted, hKey⟩
    rcases mem_deleted.mp hDeleted with ⟨row', _, hOwn', _, _, rfl⟩
    have hSame : row'.identityId = row.identityId := congrArg Prod.fst hKey
    exact hOther (hOwn.symm.trans (hSame.symm.trans hOwn'))

---- The Loop

variable {call : SyncCall} {mappings : List DirectoryGroupMapping} {user : DirectoryUser}
variable {users : List DirectoryUser} {counts counts' : SyncCounts}

theorem get_of_seenOrCreated {id : Uuid} (hSeen :
    seenOrCreated call counts matched user directory = .ok (some (identity, counts', written)))
    (hOther : id ≠ identity.id) : written.identities.get id = directory.identities.get id := by
  rcases created_or_saved_of_seenOrCreated hSeen with hCreate | ⟨found, _, rfl, rfl⟩
  · rcases exists_insert_of_createIdentity hCreate with ⟨_, identities, hInsert, rfl⟩
    exact Table.get_insert_of_ne hInsert hOther
  · dsimp only [saveIdentity]
    rw [Table.get_modify_of_ne]
    exact hOther

theorem untouched_of_applyDirectoryUser (hAbsent : directory.identities.get absent.id = some absent)
    (hSubject : user.subject ≠ absent.subject)
    (hMappings : ∀ mapping ∈ mappings, directory.mappings.get mapping.id = some mapping)
    (hCall : applyDirectoryUser call mappings user counts directory = .ok (counts', after)) :
    Untouched absent directory after := by
  rcases bind_eq_ok_iff.mp hCall with ⟨seen, hSeen, hCall⟩
  rcases seen with _ | ⟨identity, middle, written⟩
  · rw [return_eq_ok_iff] at hCall
    rw [← hCall.2]
    exact .refl
  rcases bind_eq_ok_iff.mp hCall with ⟨⟨changes, final⟩, hExternal, hCall⟩
  rw [return_eq_ok_iff] at hCall
  rw [← hCall.2]
  rcases prepared_of_seenOrCreated hSeen with ⟨hPrepared, hOrigin⟩
  have hOther : absent.id ≠ identity.id := by
    intro hSame
    rw [hSame] at hAbsent
    have hFound : ∀ old, directory.identities.get identity.id = some old →
      old.subject = user.subject := by
      refine hOrigin.forall_get ?_
      intro found hFind _
      have hMatch := find?_some hFind
      exact (of_decide_eq_true hMatch).2
    exact hSubject (hFound absent hAbsent).symm
  have hWritten : Untouched absent directory written := by
    refine ⟨hPrepared.keeps.mappings, get_of_seenOrCreated hSeen hOther, ?_, ?_⟩
    · intro row _
      rw [hPrepared.keeps.memberships]
    · intro groupId _ hMember
      unfold isMember at hMember ⊢
      rw [hPrepared.keeps.groupUsers]
      exact hMember
  refine hWritten.trans
    (.reconcile hPrepared.isRow (hWritten.identity.trans hAbsent) hOther ?_ hExternal)
  intro mapping hMem
  rcases mem_filterMap.mp hMem with ⟨group, _, hLast⟩
  rw [hPrepared.keeps.mappings]
  exact hMappings mapping (mem_filter.mp (mem_of_getLast? hLast)).1

theorem untouched_of_applyEach (hAbsent : directory.identities.get absent.id = some absent)
    (hUsers : ∀ user ∈ users, user.subject ≠ absent.subject)
    (hMappings : ∀ mapping ∈ mappings, directory.mappings.get mapping.id = some mapping)
    (hCall : applyEach call mappings users counts directory = .ok (counts', after)) :
    Untouched absent directory after := by
  induction users generalizing counts directory with
  | nil =>
    cases hCall
    exact .refl
  | cons user rest ih =>
    rcases bind_eq_ok_iff.mp hCall with ⟨⟨middle, between⟩, hUser, hCall⟩
    have hFirst :=
      untouched_of_applyDirectoryUser hAbsent (hUsers user mem_cons_self) hMappings hUser
    refine hFirst.trans (ih (hFirst.identity.trans hAbsent) ?_ ?_ hCall)
    · exact fun other hMem => hUsers other (mem_cons_of_mem _ hMem)
    · rw [hFirst.mappings]
      exact hMappings

/- An identity of the source that the listing does not report. -/
structure Unlisted (sourceId : Uuid) (users : List DirectoryUser) (directory : Directory)
    (absent : ExternalIdentity) : Prop where
  isRow : directory.identities.get absent.id = some absent
  ofSource : absent.sourceId = sourceId
  unreported : ∀ user ∈ users, user.subject ≠ absent.subject

/- All that holds a user in a group are records of such identities, none of them preserved. -/
def OnlyManaged (sourceId : Uuid) (users : List DirectoryUser) (directory : Directory)
    (userId : UserId) (groupId : Uuid) : Prop :=
  ∀ identity row mapping, directory.identities.get identity.id = some identity →
    identity.userId = userId → row ∈ directory.memberships.rows → row.identityId = identity.id →
    directory.mappings.get row.mappingId = some mapping → mapping.userGroupId = groupId →
      Unlisted sourceId users directory identity ∧ row.preserveMembershipOnUnlink = false

/- No record of the identity is left, and its user has left the groups that were only managed. -/
structure Removed (sourceId : Uuid) (users : List DirectoryUser) (directory after : Directory)
    (absent : ExternalIdentity) : Prop where
  noRecord : ∀ row ∈ after.memberships.rows, row.identityId ≠ absent.id
  noMember : ∀ groupId, HeldIn absent groupId directory →
    OnlyManaged sourceId users directory absent.userId groupId →
      isMember groupId absent.userId after = false

/-
  After a synchronization, an identity that the listing does not report has its old records, and
  its user is in the groups they hold the user in. So all of them are removed exactly if none had a
  record before.
-/
theorem removed_identity_keeps_records
    {site : Site} {moment : Moment} {errors : ErrorTexts} {state after : SyncState}
    (hSync :
      synchronizeIdentitySource site moment errors call (.ok users) state = (.ok counts, after)) :
    (∀ absent, state.directory.identities.get absent.id = some absent →
      (∀ user ∈ users, user.subject ≠ absent.subject) → (∀ row, row.identityId = absent.id →
        (row ∈ after.directory.memberships.rows ↔ row ∈ state.directory.memberships.rows)) ∧
        ∀ groupId, HeldIn absent groupId state.directory →
          isMember groupId absent.userId state.directory = true →
            isMember groupId absent.userId after.directory = true) ∧
      ((∀ absent, Unlisted call.source.id users state.directory absent →
          Removed call.source.id users state.directory after.directory absent) ↔
        ∀ absent, Unlisted call.source.id users state.directory absent →
          ∀ row ∈ state.directory.memberships.rows, row.identityId ≠ absent.id) := by
  rcases synchronizeIdentitySource_eq_ok hSync with ⟨users', hFetched, hApply⟩
  cases hFetched
  have hUntouched : ∀ absent, state.directory.identities.get absent.id = some absent →
    (∀ user ∈ users, user.subject ≠ absent.subject) →
      Untouched absent state.directory after.directory := by
    intro absent hAbsent hUsers
    exact untouched_of_applyEach hAbsent hUsers
      (fun mapping hMem => get_of_mem_enabledMappings hMem) hApply
  refine ⟨?_, ?_, ?_⟩
  · intro absent hAbsent hUsers
    exact ⟨(hUntouched absent hAbsent hUsers).rows, (hUntouched absent hAbsent hUsers).members⟩
  · intro hRemoved absent hUnlisted row hRow hOwn
    have hRows := (hUntouched absent hUnlisted.isRow hUnlisted.unreported).rows row hOwn
    exact (hRemoved absent hUnlisted).noRecord row (hRows.mpr hRow) hOwn
  · intro hNone absent hUnlisted
    constructor
    · intro row hRow hOwn
      have hRows := (hUntouched absent hUnlisted.isRow hUnlisted.unreported).rows row hOwn
      exact hNone absent hUnlisted row (hRows.mp hRow) hOwn
    · rintro groupId ⟨row, hRow, hOwn, _⟩ _
      exact absurd hOwn (hNone absent hUnlisted row hRow)

def sampleState : SyncState where
  directory :=
    { sampleDirectory with
      groupUsers := [(20, sampleUser)]
      memberships := ⟨[⟨10, 11, false⟩], nodup_singleton _⟩ }
  db := sampleDatabase sampleCredential samplePolicies
  lastSyncStatus := .never
  lastSyncAt := none
  lastError := []

def sampleSync : Except Failure SyncCounts × SyncState :=
  synchronizeIdentitySource sampleSite sampleMoment ⟨fun _ => [], fun _ => []⟩
    { library := ⟨id, id, fun _ => []⟩
      order := sampleOrder
      source := ⟨9, .ldap, true⟩
      fresh := fun _ => ⟨sampleUser, 30⟩ }
    (.ok []) sampleState

theorem removed_identity_sample : ∃ counts after, sampleSync = (.ok counts, after) ∧
    isMember 20 sampleIdentity.userId after.directory = true := by
  have hSync : ∃ counts after, sampleSync = (.ok counts, after) := ⟨_, _, rfl⟩
  rcases hSync with ⟨counts, after, hSync⟩
  refine ⟨counts, after, hSync, ?_⟩
  refine ((removed_identity_keeps_records hSync).1 sampleIdentity rfl ?_).2 20
    ⟨⟨10, 11, false⟩, by decide, rfl, sampleMapping 11 "admins", rfl, rfl⟩ rfl
  exact fun user hMem => absurd hMem not_mem_nil

/- The listing has no user with the subject of the identity; its record and membership stay. -/
theorem removed_identity_stays_member : ∃ counts after, sampleSync = (.ok counts, after) ∧
    sampleIdentity ∈ after.directory.identities.rows ∧
    after.directory.memberships.rows = [⟨sampleIdentity.id, 11, false⟩] ∧
    isMember 20 sampleIdentity.userId after.directory = true :=
  ⟨_, _, rfl, by decide, rfl, rfl⟩

end PamOlive.Connectors
