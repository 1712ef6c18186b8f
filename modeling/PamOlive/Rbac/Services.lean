import PamOlive.Policies.Services

/-
  Capabilities of a user.

  A capability comes from an enabled role that the user has through an enabled group, or through
  an assignment that is in force. A superuser has every capability.
-/

---- Roles Of A User

namespace PamOlive.Rbac

open Foundations Policies

structure Actor where
  id : UserId
  isSuperuser : Bool
deriving DecidableEq

def groupRoles (user : UserId) (db : Database) : List Role :=
  db.roles.filter (fun role =>
      role.enabled && role.userGroups.any (fun group => group.enabled && group.users.contains user))

def isAssigned (now : Int) (user : UserId) (roleId : Uuid) (db : Database) : Bool :=
  db.roleAssignments.any (fun assignment =>
      decide (assignment.userId = user ∧ assignment.roleId = roleId) &&
        isValidAt (some assignment.validFrom) assignment.validUntil now)

def directRoles (now : Int) (user : UserId) (db : Database) : List Role :=
  db.roles.filter (fun role => role.enabled && isAssigned now user role.id db)

/- `Role.Capability.choices`. -/
def capabilityChoices : List Capability :=
  [.consoleAccess, .configurationView, .usersView,
    .usersManage, .groupsView, .groupsManage, .rolesView, .rolesManage, .identitySourcesView,
    .identitySourcesManage, .identitySourcesSync, .targetsView, .targetsManage, .targetGroupsView,
    .targetGroupsManage, .domainsView, .domainsManage, .credentialsViewMetadata, .credentialsManage,
    .credentialsReveal, .credentialsRotate, .policiesView,
    .policiesManage, .approvalsView, .approvalsDecide, .auditView, .auditExport, .sessionsView,
    .sessionsTerminate, .sessionsJoin, .systemView, .systemManage]

def userCapabilities (now : Int) (actor : Actor) (db : Database) : List Capability :=
  if actor.isSuperuser then capabilityChoices
  else (groupRoles actor.id db ++ directRoles now actor.id db).flatMap Role.capabilities

def userHasCapability
    (now : Int) (actor : Actor) (capability : Capability) (db : Database) : Bool :=
  (userCapabilities now actor db).contains capability

theorem mem_capabilityChoices (capability : Capability) : capability ∈ capabilityChoices := by
  cases capability
  all_goals simp [capabilityChoices]

end PamOlive.Rbac
