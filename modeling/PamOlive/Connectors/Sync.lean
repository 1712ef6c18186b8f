import PamOlive.Database.Models

/-
  Group memberships that external directories manage.

  A managed record links an identity to a group mapping, and remembers whether the user was a
  member before. Two functions keep records and memberships in step with a directory: for the
  mappings that match, and for the default group of an OpenID Connect source.
-/

---- Tables

namespace PamOlive.Connectors

open Foundations

structure Account where
  id : UserId
  username : Text
  email : Text
  displayName : Text
  isActive : Bool
deriving DecidableEq

inductive SourceKind where
  | ldap | activeDirectory | oidc
deriving DecidableEq

structure IdentitySource where
  id : Uuid
  kind : SourceKind
  enabled : Bool
deriving DecidableEq

structure ExternalIdentity where
  id : Uuid
  sourceId : Uuid
  userId : UserId
  subject : Text
  username : Text
  email : Text
  enabled : Bool
deriving DecidableEq

structure DirectoryGroupMapping where
  id : Uuid
  sourceId : Uuid
  externalGroup : Text
  userGroupId : Uuid
  autoCreateUsers : Bool
  enabled : Bool
deriving DecidableEq

structure ExternalGroupMembership where
  identityId : Uuid
  mappingId : Uuid
  preserveMembershipOnUnlink : Bool
deriving DecidableEq

/- The constraint `unique_external_group_membership`. -/
def ExternalGroupMembership.key (membership : ExternalGroupMembership) : Uuid × Uuid :=
  (membership.identityId, membership.mappingId)

structure OIDCDefaultGroupMembership where
  identityId : Uuid
  userGroupId : Uuid
  preserveMembershipOnUnlink : Bool
deriving DecidableEq

/- The tables. Of the groups only the keys of enabled ones and the users are kept. -/
structure Directory where
  accounts : Table Account.id
  identities : Table ExternalIdentity.id
  mappings : Table DirectoryGroupMapping.id
  enabledGroups : List Uuid
  groupUsers : List (Uuid × UserId)
  memberships : Table ExternalGroupMembership.key
  defaults : Table OIDCDefaultGroupMembership.identityId

/- What the code uses of the text library of Python. -/
structure TextLibrary where
  casefold : Text → Text
  repr : Text → Text
  str : Json → Text

section

variable (groupId : Uuid) (userId : UserId) (directory : Directory)

/- `user_group.users.filter(pk=user_id).exists()`. -/
def isMember : Bool :=
  decide ((groupId, userId) ∈ directory.groupUsers)

/- `user_group.users.add(user_id)`. -/
def addMember : Directory :=
  { directory with
    groupUsers :=
      if isMember groupId userId directory then directory.groupUsers
      else (groupId, userId) :: directory.groupUsers }

/- `user_group.users.remove(user_id)`. -/
def removeMember : Directory :=
  { directory with
    groupUsers := directory.groupUsers.filter (fun entry => decide (entry ≠ (groupId, userId))) }

end

---- External Memberships

/- The order in which the database returns rows, which the query leaves open. -/
structure ReadOrder (Row : Type) where
  arrange : List Row → List Row
  perm : ∀ rows, (arrange rows).Perm rows

/- A managed record with the mapping it refers to. -/
abbrev ManagedMembership := ExternalGroupMembership × DirectoryGroupMapping

/- `identity.managed_group_memberships` with the mappings, in the order in which they are read. -/
def managedGroupMemberships (order : ReadOrder ManagedMembership) (identity : ExternalIdentity)
    (directory : Directory) : List ManagedMembership :=
  order.arrange ((directory.memberships.rows.filter
    (fun row => decide (row.identityId = identity.id)) ).filterMap
      (fun row => (directory.mappings.get row.mappingId).map (fun mapping => (row, mapping))))

def linkMapping (identity : ExternalIdentity) (mapping : DirectoryGroupMapping)
    (directory : Directory) :
    Except Failure (Nat × Directory) := do
  let wasMember := isMember mapping.userGroupId identity.userId directory
  let memberships ← found (directory.memberships.insert
    { identityId := identity.id, mappingId := mapping.id, preserveMembershipOnUnlink := wasMember })
    .integrityError
  let created := { directory with memberships := memberships }
  if wasMember then return (0, created)
  else return (1, addMember mapping.userGroupId identity.userId created)

/- The first loop, with the number of members added. -/
def linkMappings (identity : ExternalIdentity) (existingMappingIds : List Uuid) :
    List DirectoryGroupMapping → Directory → Except Failure (Nat × Directory)
| [], directory => .ok (0, directory)
| mapping :: rest, directory =>
  if existingMappingIds.contains mapping.id then
    linkMappings identity existingMappingIds rest directory
  else do
    let (first, directory) ← linkMapping identity mapping directory
    let (others, directory) ← linkMappings identity existingMappingIds rest directory
    return (first + others, directory)

section

variable (userId : UserId) (groupId : Uuid) (directory : Directory)

/- Whether a record makes a user a member of a group. -/
def linksUser (row : ExternalGroupMembership) : Bool :=
  (directory.identities.get row.identityId).any
    (fun identity => decide (identity.userId = userId)) &&
    (directory.mappings.get row.mappingId).any
      (fun mapping => decide (mapping.userGroupId = groupId))

def hasManagedSource : Bool :=
  directory.memberships.rows.any (linksUser userId groupId directory)

end

def deleteMembership (row : ExternalGroupMembership) (directory : Directory) : Directory :=
  { directory with
    memberships := directory.memberships.filter (fun other => decide (other.key ≠ row.key)) }

/- Delete one record, and the membership that it made. -/
def unlinkMembership (identity : ExternalIdentity) (membership : ManagedMembership)
    (directory : Directory) : Nat × Directory :=
  let groupId := membership.2.userGroupId
  let deleted := deleteMembership membership.1 directory
  if membership.1.preserveMembershipOnUnlink = false ∧
    hasManagedSource identity.userId groupId deleted = false then
    (1, removeMember groupId identity.userId deleted)
  else (0, deleted)

/- The second loop, with the number of members removed. -/
def unlinkMemberships (identity : ExternalIdentity) (matchedIds : List Uuid) :
    List ManagedMembership → Directory → Nat × Directory
| [], directory => (0, directory)
| membership :: rest, directory =>
  if matchedIds.contains membership.1.mappingId then
    unlinkMemberships identity matchedIds rest directory
  else
    let first := unlinkMembership identity membership directory
    let others := unlinkMemberships identity matchedIds rest first.2
    (first.1 + others.1, others.2)

/- `reconcile_external_memberships`, with the numbers of members added and removed. -/
def reconcileExternalMemberships (order : ReadOrder ManagedMembership) (identity : ExternalIdentity)
    (matchedMappings : List DirectoryGroupMapping) (directory : Directory) :
    Except Failure ((Nat × Nat) × Directory) := do
  let existing := managedGroupMemberships order identity directory
  let (added, linked) ←
    linkMappings identity (existing.map (fun membership => membership.1.mappingId))
      matchedMappings directory
  let (removed, unlinked) :=
    unlinkMemberships identity (matchedMappings.map DirectoryGroupMapping.id) existing linked
  return ((added, removed), unlinked)

---- Default Memberships

section

variable (userId : UserId) (groupId : Uuid) (directory : Directory)

def isDefaultFor (row : OIDCDefaultGroupMembership) : Bool :=
  (directory.identities.get row.identityId).any
    (fun identity => decide (identity.userId = userId)) && decide (row.userGroupId = groupId)

def hasOidcFallback : Bool :=
  directory.defaults.rows.any (isDefaultFor userId groupId directory)

end

section

variable (identity : ExternalIdentity)

def unlinkDefault (existing : OIDCDefaultGroupMembership) (directory : Directory) : Directory :=
  let deleted :=
    { directory with
      defaults := directory.defaults.filter
        (fun other => decide (other.identityId ≠ existing.identityId)) }
  if existing.preserveMembershipOnUnlink = false ∧
    hasManagedSource identity.userId existing.userGroupId deleted = false ∧
    hasOidcFallback identity.userId existing.userGroupId deleted = false then
    removeMember existing.userGroupId identity.userId deleted
  else deleted

def linkDefault (groupId : Uuid) (directory : Directory) : Except Failure Directory := do
  let wasMember := isMember groupId identity.userId directory
  let defaults ← found (directory.defaults.insert
    { identityId := identity.id, userGroupId := groupId, preserveMembershipOnUnlink := wasMember })
    .integrityError
  let created := { directory with defaults := defaults }
  if wasMember then return created
  else return addMember groupId identity.userId created

def reconcileOidcDefaultMembership (userGroup : Option Uuid)
    (directory : Directory) : Except Failure Directory :=
  match directory.defaults.get identity.id with
  | some existing =>
    if some existing.userGroupId = userGroup then .ok directory
    else
      let unlinked := unlinkDefault identity existing directory
      match userGroup with
      | some groupId => linkDefault identity groupId unlinked
      | none => .ok unlinked
  | none =>
    match userGroup with
    | some groupId => linkDefault identity groupId directory
    | none => .ok directory

end

---- Directory Synchronization

structure DirectoryUser where
  subject : Text
  username : Text
  email : Text
  displayName : Text
  groups : List Text
deriving DecidableEq

def normalized (library : TextLibrary) (value : Text) : Text := library.casefold value.strip

def enabledMappings (sourceId : Uuid) (directory : Directory) : List DirectoryGroupMapping :=
  directory.mappings.rows.filter
    (fun mapping => decide (mapping.sourceId = sourceId) && mapping.enabled)

def identityOf (sourceId : Uuid) (subject : Text)
    (directory : Directory) : Option ExternalIdentity :=
  directory.identities.rows.find?
    (fun identity => decide (identity.sourceId = sourceId ∧ identity.subject = subject))

/- The keys that new rows get. -/
structure FreshKeys where
  userId : UserId
  identityId : Uuid

def usernameTaken (username : Text) (directory : Directory) : Bool :=
  directory.accounts.rows.any (fun account => decide (account.username = username))

def emailTaken (email : Text) (directory : Directory) : Bool :=
  directory.accounts.rows.any (fun account => decide (account.email = email))

/- Insert a user, whose username and email are unique, and the identity of that user. -/
def createIdentity (fresh : FreshKeys) (sourceId : Uuid) (subject username email displayName : Text)
    (directory : Directory) :
    Except Failure (ExternalIdentity × Directory) := do
  require (usernameTaken username directory = false ∧ emailTaken email directory = false)
    .integrityError
  let accounts ← found (directory.accounts.insert
    { id := fresh.userId
      username := username
      email := email
      displayName := displayName
      isActive := true })
    .integrityError
  let identity : ExternalIdentity :=
    { id := fresh.identityId
      sourceId := sourceId
      userId := fresh.userId
      subject := subject
      username := username
      email := email
      enabled := true }
  let identities ← found (directory.identities.insert identity) .integrityError
  return (identity,
    { directory with accounts := accounts, identities := identities })

def createExternalUser
    (library : TextLibrary) (fresh : FreshKeys) (sourceId : Uuid) (user : DirectoryUser)
    (directory : Directory) :
    Except Failure (ExternalIdentity × Directory) := do
  require (usernameTaken user.username directory = false) (.runtimeError
    ("L’identifiant local " ++ (library.repr user.username ++ Text.ofString
      " existe déjà et ne peut pas être lié automatiquement.")))
  require (user.email = [] ∨ emailTaken user.email directory = false) (.runtimeError
    ("L’adresse " ++ (library.repr user.email ++ Text.ofString
      " existe déjà et ne peut pas être liée automatiquement.")))
  createIdentity fresh sourceId user.subject user.username user.email user.displayName directory

def seenIdentity (username email : Text) (enabled : Bool)
    (identity : ExternalIdentity) : ExternalIdentity :=
  { identity with
    username := username
    email := email
    enabled := enabled }

theorem seenIdentity_id (username email : Text) (enabled : Bool) (identity : ExternalIdentity) :
    (seenIdentity username email enabled identity).id = identity.id :=
  rfl

/- `identity.save(update_fields=...)`. -/
def saveIdentity (identity : ExternalIdentity) (username email : Text) (enabled : Bool)
    (directory : Directory) : Directory :=
  { directory with
    identities := directory.identities.modify identity.id (seenIdentity username email enabled)
      (seenIdentity_id username email enabled) }

/- `mappings_by_group[...]`: the last mapping of a name. -/
def mappingByGroup (library : TextLibrary) (mappings : List DirectoryGroupMapping)
    (group : Text) : Option DirectoryGroupMapping :=
  (mappings.filter (fun mapping =>
      decide (normalized library mapping.externalGroup = normalized library group))).getLast?

structure SyncCounts where
  created : Nat
  updated : Nat
  skipped : Nat
  membershipsAdded : Nat
  membershipsRemoved : Nat
deriving DecidableEq

/- What one synchronization finds outside the tables. -/
structure SyncCall where
  library : TextLibrary
  order : ReadOrder ManagedMembership
  source : IdentitySource
  fresh : Nat → FreshKeys

/- The identity of a reported user, or `none` to skip. -/
def seenOrCreated (call : SyncCall) (counts : SyncCounts) (matched : List DirectoryGroupMapping)
    (user : DirectoryUser) (directory : Directory) :
    Except Failure (Option (ExternalIdentity × SyncCounts × Directory)) :=
  match identityOf call.source.id user.subject directory with
  | none =>
    if matched.any DirectoryGroupMapping.autoCreateUsers then do
      let (identity, created) ←
        createExternalUser call.library (call.fresh counts.created) call.source.id user directory
      return some (identity, { counts with created := counts.created + 1 }, created)
    else .ok none
  | some identity =>
    .ok (some (seenIdentity user.username user.email true identity,
      { counts with updated := counts.updated + 1 },
      saveIdentity identity user.username user.email true directory))

def applyDirectoryUser
    (call : SyncCall) (mappings : List DirectoryGroupMapping) (user : DirectoryUser)
    (counts : SyncCounts) (directory : Directory) :
    Except Failure (SyncCounts × Directory) := do
  let matched := user.groups.filterMap (mappingByGroup call.library mappings)
  let seen ← seenOrCreated call counts matched user directory
  match seen with
  | none => return ({ counts with skipped := counts.skipped + 1 }, directory)
  | some (identity, counts, written) =>
    let ((added, removed), after) ← reconcileExternalMemberships call.order identity matched written
    return ({ counts with
        membershipsAdded := counts.membershipsAdded + added
        membershipsRemoved := counts.membershipsRemoved + removed }, after)

def applyEach (call : SyncCall) (mappings : List DirectoryGroupMapping) :
    List DirectoryUser → SyncCounts → Directory → Except Failure (SyncCounts × Directory)
| [], counts, directory => .ok (counts, directory)
| user :: rest, counts, directory => do
    let (counts, directory) ← applyDirectoryUser call mappings user counts directory
    applyEach call mappings rest counts directory

/- `_apply_directory_users`, in its transaction. -/
def applyDirectoryUsers (call : SyncCall) (users : List DirectoryUser) (directory : Directory) :
    Except Failure (SyncCounts × Directory) :=
  applyEach call (enabledMappings call.source.id directory) users ⟨0, 0, 0, 0, 0⟩ directory

end PamOlive.Connectors
