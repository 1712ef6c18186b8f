import PamOlive.Connectors.ManagedMembers
import PamOlive.Connectors.Oidc
import PamOlive.Sessions.Quota

/-
  Whether whoever has a managed record is a member, over runs of logins and synchronizations.

  The configuration may change between runs, but nobody edits members by hand. The rule holds as
  long as no call ends a membership on which a default record rests.
-/

---- Runs

namespace PamOlive.Connectors

open Foundations List

inductive ManagedLabel where
  | provision (call : OidcCall) (claims : Claims)
  | synchronize (call : SyncCall) (users : List DirectoryUser)
  | edit (after : Directory)

/-
  Mappings, sources, groups and accounts are edited at will. Records go with their rows, no
  identity gets another user, and members stay.
-/
structure Edited (directory after : Directory) : Prop where
  groupUsers : after.groupUsers = directory.groupUsers
  users : ∀ id identity identity', directory.identities.get id = some identity →
    after.identities.get id = some identity' → identity'.userId = identity.userId
  memberships : ∀ row ∈ after.memberships.rows, row ∈ directory.memberships.rows ∧
    (∃ identity, after.identities.get row.identityId = some identity) ∧
    ∃ mapping, after.mappings.get row.mappingId = some mapping
  defaults : ∀ row ∈ after.defaults.rows, row ∈ directory.defaults.rows ∧
    ∃ identity, after.identities.get row.identityId = some identity

/- A run that raises is rolled back. -/
inductive ManagedStep (directory : Directory) : ManagedLabel → Directory → Prop
  | provision {call : OidcCall} {claims : Claims} : ManagedStep directory (.provision call claims)
      (commit (provisionOidcIdentity call claims) directory).2
  | synchronize {call : SyncCall} {users : List DirectoryUser} :
    ManagedStep directory (.synchronize call users)
      (commit (applyDirectoryUsers call users) directory).2
  | edit {after : Directory} (hEdited : Edited directory after) :
    ManagedStep directory (.edit after) after

def managedSystem : TransitionSystem Directory ManagedLabel where
  init := fun directory =>
    directory.memberships.rows = [] ∧ directory.defaults.rows = []
  step := ManagedStep

---- The Condition

/- The identity that a login finds keeps what rests on it. -/
def LoginKeepsDefaults (call : OidcCall) (claims : Claims) (directory : Directory) : Prop :=
  ∀ login identity, readLogin call claims directory = .ok login →
    identityOf call.source.id login.subject directory = some identity →
      KeepsDefaults call.order identity login.matched
        (RestsOn identity.id login.defaultGroup) directory

def matchedGroups (call : SyncCall) (mappings : List DirectoryGroupMapping)
    (user : DirectoryUser) : List DirectoryGroupMapping :=
  user.groups.filterMap (mappingByGroup call.library mappings)

/- Each pass of the loop keeps all default records, in the state in which it starts. -/
def EachKeepsDefaults (call : SyncCall) (mappings : List DirectoryGroupMapping) :
    List DirectoryUser → SyncCounts → Directory → Prop
| [], _, _ => True
| user :: rest, counts, directory =>
  (∀ identity, identityOf call.source.id user.subject directory = some identity →
    KeepsDefaults call.order identity (matchedGroups call mappings user)
      (fun _ => True) directory) ∧
    ∀ counts' after, applyDirectoryUser call mappings user counts directory = .ok (counts', after) →
      EachKeepsDefaults call mappings rest counts' after

/- A mapping that has records keeps its group. -/
def KeepsGroups (directory after : Directory) : Prop :=
  ∀ row ∈ after.memberships.rows, ∀ mapping', after.mappings.get row.mappingId = some mapping' →
    ∃ mapping, directory.mappings.get row.mappingId = some mapping ∧
      mapping.userGroupId = mapping'.userGroupId

def ManagedGuard (directory : Directory) : ManagedLabel → Prop
| .provision call claims => LoginKeepsDefaults call claims directory
| .synchronize call users =>
  EachKeepsDefaults call (enabledMappings call.source.id directory) users ⟨0, 0, 0, 0, 0⟩ directory
| .edit after => KeepsGroups directory after

---- The Identity Of A Call

variable {directory after : Directory} {identity : ExternalIdentity}
variable {sourceId : Uuid} {subject : Text}

theorem get_of_identityOf (hFind : identityOf sourceId subject directory = some identity) :
    directory.identities.get identity.id = some identity :=
  Table.get_eq_some_iff.mpr ⟨mem_of_find?_eq_some hFind, rfl⟩

theorem prepared_of_createIdentity {fresh : FreshKeys} {username email displayName : Text}
    (hCreate : createIdentity fresh sourceId subject username email
      displayName directory = .ok (identity, after)) :
    Prepared identity directory after ∧ directory.identities.get identity.id = none := by
  rcases createIdentity_eq_ok hCreate with ⟨hKeeps, hNew, hRow⟩
  exact ⟨⟨hKeeps, hRow⟩, hNew⟩

theorem prepared_of_saveIdentity {username email : Text} {enabled : Bool}
    (hIdentity : directory.identities.get identity.id = some identity) :
    Prepared (seenIdentity username email enabled identity) directory
      (saveIdentity identity username email enabled directory) := by
  rcases @saveIdentity_keeps directory identity username email enabled hIdentity with ⟨hKeeps, hRow⟩
  exact ⟨hKeeps, hRow⟩

/- The identity of a call is new, or it is the one that was found under its subject. -/
def Originates (sourceId : Uuid) (subject : Text) (identity : ExternalIdentity)
    (directory : Directory) : Prop :=
  directory.identities.get identity.id = none ∨
    ∃ found, identityOf sourceId subject directory = some found ∧ identity.id = found.id

theorem Originates.forall_get {property : ExternalIdentity → Prop}
    (hOrigin : Originates sourceId subject identity directory)
    (hFound : ∀ found, identityOf sourceId subject directory = some found →
      identity.id = found.id → property found) :
    ∀ old, directory.identities.get identity.id = some old → property old := by
  intro old hOld
  rcases hOrigin with hNew | ⟨found, hFind, hId⟩
  · rw [hNew] at hOld
    exact nomatch hOld
  · rw [hId, get_of_identityOf hFind] at hOld
    injection hOld with hSame
    rw [← hSame]
    exact hFound found hFind hId

variable {mapping : DirectoryGroupMapping}

theorem get_of_mem_enabledMappings (hMem : mapping ∈ enabledMappings sourceId directory) :
    directory.mappings.get mapping.id = some mapping :=
  Table.get_eq_some_iff.mpr ⟨(mem_filter.mp hMem).1, rfl⟩

---- Logins

section Login

variable {call : OidcCall} {claims : Claims} {login : OidcLogin}

theorem get_of_mem_login_matched (hRead : readLogin call claims directory = .ok login)
    (hMem : mapping ∈ login.matched) : directory.mappings.get mapping.id = some mapping := by
  rcases require_bind_eq_ok_iff.mp hRead with ⟨_, hRead⟩
  rcases require_bind_eq_ok_iff.mp hRead with ⟨_, hRead⟩
  rcases bind_eq_ok_iff.mp hRead with ⟨_, _, hRead⟩
  rcases require_bind_eq_ok_iff.mp hRead with ⟨_, hRead⟩
  rcases bind_eq_ok_iff.mp hRead with ⟨_, _, hRead⟩
  rcases bind_eq_ok_iff.mp hRead with ⟨_, _, hRead⟩
  rw [pure_eq_ok_iff] at hRead
  rw [← hRead] at hMem
  exact get_of_mem_enabledMappings (mem_filter.mp hMem).1

theorem prepared_of_identityForLogin {written : Directory}
    (hIdentity : identityForLogin call login directory = .ok (identity, written)) :
    Prepared identity directory written ∧ Originates call.source.id login.subject identity
      directory := by
  unfold identityForLogin at hIdentity
  cases hFind : identityOf call.source.id login.subject directory with
  | none =>
    rw [hFind] at hIdentity
    rcases require_bind_eq_ok_iff.mp hIdentity with ⟨_, hIdentity⟩
    rcases require_bind_eq_ok_iff.mp hIdentity with ⟨_, hIdentity⟩
    rcases require_bind_eq_ok_iff.mp hIdentity with ⟨_, hCreate⟩
    rcases prepared_of_createIdentity hCreate with ⟨hPrepared, hNew⟩
    exact ⟨hPrepared, .inl hNew⟩
  | some found =>
    rw [hFind] at hIdentity
    rcases require_bind_eq_ok_iff.mp hIdentity with ⟨_, hIdentity⟩
    rcases hIdentity with ⟨rfl, rfl⟩
    exact ⟨prepared_of_saveIdentity (get_of_identityOf hFind), .inr ⟨found, hFind, rfl⟩⟩

theorem Managed.provision {result : UserId × Bool} (hManaged : Managed directory)
    (hGuard : LoginKeepsDefaults call claims directory)
    (hCall : provisionOidcIdentity call claims directory = .ok (result, after)) :
    Managed after := by
  rcases bind_eq_ok_iff.mp hCall with ⟨login, hRead, hCall⟩
  rcases bind_eq_ok_iff.mp hCall with ⟨⟨identity, written⟩, hIdentity, hCall⟩
  rcases bind_eq_ok_iff.mp hCall with ⟨⟨counts, linked⟩, hExternal, hCall⟩
  rcases bind_eq_ok_iff.mp hCall with ⟨final, hDefault, hCall⟩
  rw [return_eq_ok_iff] at hCall
  rw [← hCall.2]
  rcases prepared_of_identityForLogin hIdentity with ⟨hPrepared, hOrigin⟩
  have hKept : ∀ old, directory.identities.get identity.id = some old →
    KeepsDefaults call.order old login.matched (RestsOn identity.id login.defaultGroup)
      directory := by
    refine hOrigin.forall_get ?_
    intro found hFind hId
    rw [hId]
    exact hGuard login found hRead hFind
  rcases hPrepared.reconciled hManaged.sound hManaged.defaults
    (fun mapping hMem => get_of_mem_login_matched hRead hMem)
    hKept hExternal with
    ⟨hTables, hSound, hHolds⟩
  refine managed_of_reconcileOidcDefault hSound ?_ ?_ hDefault
  · rw [hTables.identities]
    exact hPrepared.isRow
  · intro row hRow
    rw [hTables.defaults, hPrepared.keeps.defaults] at hRow
    exact hHolds row hRow

end Login

---- Synchronizations

section Synchronization

variable {call : SyncCall} {mappings : List DirectoryGroupMapping} {user : DirectoryUser}
variable {users : List DirectoryUser} {counts counts' : SyncCounts}
variable {matched : List DirectoryGroupMapping} {written : Directory}

/- An identity that the loop goes on with was created, or was found and saved. -/
theorem created_or_saved_of_seenOrCreated (hSeen :
    seenOrCreated call counts matched user directory = .ok (some (identity, counts', written))) :
    createIdentity (call.fresh counts.created) call.source.id user.subject user.username user.email
      user.displayName directory = .ok (identity, written) ∨
      ∃ found, identityOf call.source.id user.subject directory = some found ∧
        identity = seenIdentity user.username user.email true found ∧
        written = saveIdentity found user.username user.email true directory := by
  unfold seenOrCreated at hSeen
  cases hFind : identityOf call.source.id user.subject directory with
  | none =>
    rw [hFind] at hSeen
    dsimp only at hSeen
    split at hSeen
    · rcases bind_eq_ok_iff.mp hSeen with ⟨⟨created, other⟩, hCreate, hSeen⟩
      rcases hSeen with ⟨rfl, _, rfl⟩
      rcases require_bind_eq_ok_iff.mp hCreate with ⟨_, hCreate⟩
      rcases require_bind_eq_ok_iff.mp hCreate with ⟨_, hCreate⟩
      exact .inl hCreate
    · injection hSeen with hSeen
      exact nomatch hSeen
  | some found =>
    rw [hFind] at hSeen
    injection hSeen with hSeen
    rw [Option.some.injEq, Prod.mk.injEq, Prod.mk.injEq] at hSeen
    exact .inr ⟨found, rfl, hSeen.1.symm, hSeen.2.2.symm⟩

theorem prepared_of_seenOrCreated (hSeen :
    seenOrCreated call counts matched user directory = .ok (some (identity, counts', written))) :
    Prepared identity directory written ∧ Originates call.source.id user.subject identity
      directory := by
  rcases created_or_saved_of_seenOrCreated hSeen with hCreate | ⟨found, hFind, rfl, rfl⟩
  · rcases prepared_of_createIdentity hCreate with ⟨hPrepared, hNew⟩
    exact ⟨hPrepared, .inl hNew⟩
  · exact ⟨prepared_of_saveIdentity (get_of_identityOf hFind), .inr ⟨found, hFind, rfl⟩⟩

section

variable (hManaged : Managed directory)
  (hMappings : ∀ mapping ∈ mappings, directory.mappings.get mapping.id = some mapping)

include hManaged hMappings

theorem Managed.applyDirectoryUser
    (hGuard : ∀ found, identityOf call.source.id user.subject directory = some found →
      KeepsDefaults call.order found (matchedGroups call mappings user) (fun _ => True) directory)
    (hCall : applyDirectoryUser call mappings user counts directory = .ok (counts', after)) :
    Managed after ∧ after.mappings = directory.mappings := by
  have hMatched : ∀ mapping ∈ matchedGroups call mappings user,
    directory.mappings.get mapping.id = some mapping := by
    intro mapping hMem
    rcases mem_filterMap.mp hMem with ⟨group, _, hLast⟩
    exact hMappings mapping (mem_filter.mp (mem_of_getLast? hLast)).1
  rcases bind_eq_ok_iff.mp hCall with ⟨seen, hSeen, hCall⟩
  cases seen with
  | none =>
    rw [return_eq_ok_iff] at hCall
    rw [← hCall.2]
    exact ⟨hManaged, rfl⟩
  | some seen =>
    rcases seen with ⟨identity, middle, written⟩
    rcases bind_eq_ok_iff.mp hCall with ⟨⟨changes, final⟩, hExternal, hCall⟩
    rw [return_eq_ok_iff] at hCall
    rw [← hCall.2]
    rcases prepared_of_seenOrCreated hSeen with ⟨hPrepared, hOrigin⟩
    have hKept : ∀ old, directory.identities.get identity.id = some old →
      KeepsDefaults call.order old (matchedGroups call mappings user)
        (fun _ => True) directory := by
      refine hOrigin.forall_get ?_
      intro found hFind _
      exact hGuard found hFind
    rcases hPrepared.reconciled hManaged.sound hManaged.defaults hMatched hKept hExternal with
      ⟨hTables, hSound, hHolds⟩
    refine ⟨⟨hSound, ?_⟩, hTables.mappings.trans hPrepared.keeps.mappings⟩
    intro row hRow
    rw [hTables.defaults, hPrepared.keeps.defaults] at hRow
    exact hHolds row hRow (fun _ => trivial)

theorem Managed.applyEach (hGuard : EachKeepsDefaults call mappings users counts directory)
    (hCall : applyEach call mappings users counts directory = .ok (counts', after)) :
    Managed after := by
  induction users generalizing counts directory with
  | nil =>
    injection hCall with hCall
    rw [Prod.mk.injEq] at hCall
    rw [← hCall.2]
    exact hManaged
  | cons user rest ih =>
    rcases hGuard with ⟨hFirst, hRest⟩
    rcases bind_eq_ok_iff.mp hCall with ⟨⟨middle, between⟩, hUser, hCall⟩
    rcases hManaged.applyDirectoryUser hMappings hFirst hUser with ⟨hBetween, hSame⟩
    refine ih hBetween ?_ (hRest middle between hUser) hCall
    rw [hSame]
    exact hMappings

end

end Synchronization

---- Whole Runs

theorem Managed.edit (hManaged : Managed directory) (hEdited : Edited directory after)
    (hGroups : KeepsGroups directory after) : Managed after := by
  have hMember :
    ∀ groupId userId, isMember groupId userId after = isMember groupId userId directory := by
    intro groupId userId
    unfold isMember
    rw [hEdited.groupUsers]
  constructor
  · apply sound_of_externalHolds
    · intro row hRow
      exact (hEdited.memberships row hRow).2.1
    · intro row hRow
      exact (hEdited.defaults row hRow).2
    · intro row hRow identity' mapping' hIdentity' hMapping'
      have hOld := (hEdited.memberships row hRow).1
      rcases hManaged.sound.externalIdentity row hOld with ⟨identity, hIdentity⟩
      rcases hGroups row hRow mapping' hMapping' with ⟨mapping, hMapping, hGroup⟩
      rw [hMember, ← hGroup, hEdited.users _ _ _ hIdentity hIdentity']
      exact hManaged.sound.externalHolds hOld identity mapping hIdentity hMapping
  · intro row hRow identity' hIdentity'
    have hOld := (hEdited.defaults row hRow).1
    rcases hManaged.sound.defaultIdentity row hOld with ⟨identity, hIdentity⟩
    rw [hMember, hEdited.users _ _ _ hIdentity hIdentity']
    exact hManaged.defaults row hOld identity hIdentity

theorem Managed.step {label : ManagedLabel} (hManaged : Managed directory)
    (hGuard : ManagedGuard directory label)
    (hStep : ManagedStep directory label after) : Managed after := by
  cases hStep with
  | @provision call claims =>
    rcases commit_snd_eq_or_ok (provisionOidcIdentity call claims) directory with
      hSame | ⟨result, hOk⟩
    · rw [hSame]
      exact hManaged
    · exact hManaged.provision hGuard hOk
  | @synchronize call users =>
    rcases commit_snd_eq_or_ok (applyDirectoryUsers call users) directory with hSame | ⟨result, hOk⟩
    · rw [hSame]
      exact hManaged
    · exact hManaged.applyEach (fun mapping hMem => get_of_mem_enabledMappings hMem) hGuard hOk
  | edit hEdited => exact hManaged.edit hEdited hGuard

theorem managed_of_init (hInit : managedSystem.init directory) : Managed directory := by
  rcases hInit with ⟨hMemberships, hDefaults⟩
  refine ⟨sound_of_externalHolds ?_ ?_ ?_, ?_⟩
  · rw [hMemberships]
    exact fun _ hRow => nomatch hRow
  · rw [hDefaults]
    exact fun _ hRow => nomatch hRow
  · rw [hMemberships]
    exact fun _ hRow => nomatch hRow
  · rw [hDefaults]
    exact fun _ hRow => nomatch hRow

/-
  In a run from a state without records whose steps meet the condition, the user of each managed
  record is in its group.
-/
theorem managed_record_implies_member {start finish : Directory} {labels : List ManagedLabel}
    (hInit : managedSystem.init start)
    (hRun : managedSystem.Guarded ManagedGuard start labels finish) :
    ManagedRecordsHold finish := by
  have hManaged : Managed finish := hRun.invariant
    (fun _ _ _ hBefore hGuard hStep => hBefore.step hGuard hStep)
    (managed_of_init hInit)
  exact ⟨fun _ hRow => hManaged.sound.externalHolds hRow, hManaged.defaults⟩

---- Sample Logins

def asciiLibrary : TextLibrary where
  casefold := fun text => text
  repr := fun text => text
  str := fun _ => []

/- A source with a default group, which is also the group of a mapping. -/
def sampleOidcCall : OidcCall where
  library := asciiLibrary
  order := ⟨fun rows => rows, fun rows => .refl rows⟩
  source := ⟨9, .oidc, true⟩
  configuration := .ok
    { allowedEmailDomains :=
      .arr [.str "example.test"]
      defaultUserGroup := some 20 }
  fresh := ⟨sampleUser, 10⟩

def sampleClaims (groups : List Json) : Claims :=
  [("sub", .str "subject"), ("preferred_username", .str "user"),
    ("email", .str "user@example.test"), ("email_verified", .bool true), ("groups", .arr groups)]

def adminClaims : Claims := sampleClaims [.str "admins"]

def emptyDirectory : Directory where
  accounts := .empty
  identities := .empty
  mappings :=
    ⟨[{ id := 11
        sourceId := 9
        externalGroup := "admins"
        userGroupId := 20
        autoCreateUsers := true
        enabled := true }], by simp⟩
  enabledGroups := [20]
  groupUsers := []
  memberships := .empty
  defaults := .empty

def provisioned (directory : Directory) : Directory :=
  (commit (provisionOidcIdentity sampleOidcCall adminClaims) directory).2

theorem managed_record_implies_member_sample :
    ∃ finish, managedSystem.Guarded ManagedGuard emptyDirectory
        [.provision sampleOidcCall adminClaims, .provision sampleOidcCall adminClaims] finish ∧
      finish.memberships.rows = [⟨10, 11, false⟩] ∧
      finish.defaults.rows = [⟨10, 20, true⟩] ∧
      ManagedRecordsHold finish := by
  have hGuarded : managedSystem.Guarded ManagedGuard emptyDirectory
    [.provision sampleOidcCall adminClaims, .provision sampleOidcCall adminClaims]
    (provisioned (provisioned emptyDirectory)) := by
    refine .cons ?_ .provision (.cons ?_ .provision (.nil _))
    · intro _ _ _ hFind
      exact nomatch hFind
    rintro login identity ⟨⟩ ⟨⟩ row hRow _ _
    rw [mem_singleton.mp hRow]
    rintro ⟨_, _, last, hLast, _⟩
    exact nomatch hLast
  exact ⟨_, hGuarded, rfl, rfl, managed_record_implies_member ⟨rfl, rfl⟩ hGuarded⟩

/- The second login comes without the group: the membership ends, the default record stays. -/
theorem default_record_without_member :
    ∃ finish, managedSystem.init emptyDirectory ∧ managedSystem.Run emptyDirectory
        [.provision sampleOidcCall adminClaims, .provision sampleOidcCall (sampleClaims [])]
        finish ∧
      finish.memberships.rows = [] ∧
      finish.defaults.rows = [⟨10, 20, true⟩] ∧
      isMember 20 sampleUser finish = false ∧
      ¬ ManagedRecordsHold finish := by
  refine ⟨_, ⟨rfl, rfl⟩, .cons .provision (.cons .provision (.nil _)), rfl, rfl, rfl, ?_⟩
  rintro ⟨_, hHolds⟩
  exact nomatch hHolds ⟨10, 20, true⟩ mem_cons_self _ rfl

end PamOlive.Connectors
