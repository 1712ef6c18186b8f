import PamOlive.Console.RoleForm
import PamOlive.Sessions.Quota

/-
  What an operator can do to their own capabilities with the forms for groups and profiles.

  The forms ask for the capability of the view only: what a group or a profile gets is not compared
  with what the operator has.
-/

---- Groups And Profiles

namespace PamOlive.Rbac

open Foundations Sessions List

structure GroupRow where
  id : Uuid
  name : Text
  description : Text
  users : List UserId
  roles : List Uuid
  enabled : Bool
deriving DecidableEq

/- The body of a form for groups; a value that is no id is `none`. -/
structure GroupPost where
  name : Option Text
  description : Option Text
  users : List (Option UserId)
  roles : List (Option Uuid)
  enabled : Bool

/- The tables that the two views write, the users, and the tables they leave alone. -/
structure Directory where
  users : List UserId
  groups : List GroupRow
  roles : List RoleRow
  rest : Database

/- The tables as `user_capabilities` reads them. -/
def Directory.database (directory : Directory) : Database :=
  { directory.rest with
    roles := directory.roles.map (fun role =>
      { id := role.id
        enabled := role.enabled
        capabilities := role.capabilities
        userGroups := (directory.groups.filter (fun group => group.roles.contains role.id)).map
          (fun group => ⟨group.enabled, group.users⟩) }) }

def capabilitiesAt (actor : Actor) (time : Int) (directory : Directory) : List Capability :=
  userCapabilities time actor directory.database

---- Submissions

inductive ConsoleRefusal where
  | permissionDenied | http404
  | invalid (error : RoleFormError)
  | integrityError
deriving DecidableEq

/- `is_valid` and `save` of the form for groups; members and profiles must exist. -/
def saveGroupForm (directory : Directory) (group : GroupRow) (post : GroupPost) :
    Except RoleFormError GroupRow := do
  let name := cleanText post.name
  let description := cleanText post.description
  require ((decide (name ≠ []) && textFits 120 name && hasNoNull description &&
    directory.groups.all (fun other => decide (other.id = group.id ∨ other.name ≠ name)) &&
    post.users.all (directory.users.map some).contains &&
    post.roles.all (directory.roles.map (fun role => some role.id)).contains) = true) .fields
  return {
    id := group.id
    name := name
    description := description
    users := post.users.filterMap id
    roles := post.roles.filterMap id
    enabled := post.enabled }

/- A POST to a view. Without a key a row is created, under a new id. -/
inductive Submission where
  | userGroups (pk : Option Uuid) (newId : Uuid) (post : GroupPost)
  | roles (pk : Option Uuid) (newId : Uuid) (post : RolePost)

/- The checks before the view: `capability_required` and `_configuration_permission`. -/
def mayPost (actor : Actor) (time : Int) (manage : Capability) (directory : Directory) :
    Except ConsoleRefusal Unit := do
  require (userHasCapability time actor .consoleAccess directory.database = true) .permissionDenied
  require (userHasCapability time actor manage directory.database = true) .permissionDenied

/- `get_object_or_404` if there is a key, else a new row. -/
def instanceFor {α : Type} (get : Uuid → Option α) (newId : Uuid) (new : α) :
    Option Uuid → Except ConsoleRefusal α
  | some pk => found (get pk) .http404
  | none => if (get newId).isNone then .ok new else .error .integrityError

def submit (actor : Actor) (directory : Directory) (posted : Int × Submission) :
    Except ConsoleRefusal Directory :=
  match posted.2 with
  | .userGroups pk newId post => do
    mayPost actor posted.1 .groupsManage directory
    let group ← instanceFor (fun id => directory.groups.find? (fun row => decide (row.id = id)))
      newId ⟨newId, [], [], [], [], true⟩ pk
    let saved ← (saveGroupForm directory group post).mapError .invalid
    return { directory with
      groups := directory.groups.filter (fun other => decide (other.id ≠ group.id)) ++ [saved] }
  | .roles pk newId post => do
    mayPost actor posted.1 .rolesManage directory
    let role ← instanceFor (fun id => directory.roles.find? (fun row => decide (row.id = id)))
      newId ⟨newId, [], none, [], [], false, true⟩ pk
    let others := directory.roles.filter (fun other => decide (other.id ≠ role.id))
    let saved ← (saveRoleForm others role post).mapError .invalid
    return { directory with roles := others ++ [saved] }

---- No Escalation

/- What must hold of an operator's capabilities for the two views to be safe in their hands. -/
def Bounded (granted : List Capability) (roles : List RoleRow) : Prop :=
  .consoleAccess ∉ granted ∨
    (.groupsManage ∉ granted ∨ ∀ role ∈ roles, role.enabled = true → role.capabilities ⊆ granted) ∧
      (.rolesManage ∉ granted ∨ ∀ capability, capability ∈ granted)

/- At the times of a run the operator has no more than `granted`, and the profiles are the same. -/
def Confined (actor : Actor) (times : List Int) (granted : List Capability)
    (roles : List RoleRow) (directory : Directory) : Prop :=
  (∀ time ∈ times, capabilitiesAt actor time directory ⊆ granted) ∧
    ((∀ capability, capability ∈ granted) ∨ directory.roles = roles)

variable {actor : Actor} {directory start after : Directory} {times : List Int} {time now : Int}
variable {granted : List Capability} {roles : List RoleRow}
variable {posted : Int × Submission} {submissions : List (Int × Submission)}

theorem exists_role_of_mem_capabilitiesAt {capability : Capability}
    (hOrdinary : actor.isSuperuser = false)
    (hMem : capability ∈ capabilitiesAt actor time directory) :
    ∃ role ∈ directory.roles, role.enabled = true ∧ capability ∈ role.capabilities := by
  unfold capabilitiesAt userCapabilities at hMem
  rw [hOrdinary, if_neg Bool.false_ne_true, mem_flatMap] at hMem
  rcases hMem with ⟨role, hRole, hCapability⟩
  have hEnabled : role ∈ directory.database.roles ∧ role.enabled = true := by
    rcases mem_append.mp hRole with hGroup | hDirect
    · rcases mem_filter.mp hGroup with ⟨hRole, hTest⟩
      exact ⟨hRole, (Bool.and_eq_true_iff.mp hTest).1⟩
    · rcases mem_filter.mp hDirect with ⟨hRole, hTest⟩
      exact ⟨hRole, (Bool.and_eq_true_iff.mp hTest).1⟩
  rcases mem_map.mp hEnabled.1 with ⟨row, hRow, rfl⟩
  exact ⟨row, hRow, hEnabled.2, hCapability⟩

theorem mayPost_eq_ok {manage : Capability} (hMay : mayPost actor time manage directory = .ok ()) :
    .consoleAccess ∈ capabilitiesAt actor time directory ∧
      manage ∈ capabilitiesAt actor time directory := by
  rcases require_bind_eq_ok_iff.mp hMay with ⟨hConsole, hMay⟩
  have hManage := (require_eq_ok_iff.mp hMay)
  exact ⟨contains_iff_mem.mp hConsole, contains_iff_mem.mp hManage⟩

theorem Confined.of_submit (hOrdinary : actor.isSuperuser = false)
    (hBounded : Bounded granted roles)
    (hTime : posted.1 ∈ times) (hConfined : Confined actor times granted roles directory)
    (hSubmit : submit actor directory posted = .ok after) :
    Confined actor times granted roles after := by
  rcases hConfined with ⟨hWithin, hAll | hRoles⟩
  · exact ⟨fun _ _ capability _ => hAll capability, .inl hAll⟩
  have hHeld := hWithin posted.1 hTime
  rcases posted with ⟨time, ⟨pk, newId, post⟩ | ⟨pk, newId, post⟩⟩
  · rcases bind_eq_ok_iff.mp hSubmit with ⟨_, hMay, hSubmit⟩
    rcases bind_eq_ok_iff.mp hSubmit with ⟨group, _, hSubmit⟩
    rcases bind_eq_ok_iff.mp hSubmit with ⟨saved, _, hSubmit⟩
    rw [pure_eq_ok_iff] at hSubmit
    rcases mayPost_eq_ok hMay with ⟨hConsole, hManage⟩
    rcases hBounded with hNoConsole | ⟨hNoManage | hEnabled, _⟩
    · exact absurd (hHeld hConsole) hNoConsole
    · exact absurd (hHeld hManage) hNoManage
    · -- The profiles are as before, and those that are enabled give nothing new.
      have hSame : after.roles = roles := by rw [← hSubmit, ← hRoles]
      refine ⟨?_, .inr hSame⟩
      intro _ _ capability hMem
      rcases exists_role_of_mem_capabilitiesAt hOrdinary hMem with ⟨role, hRole, hOn, hHas⟩
      rw [hSame] at hRole
      exact hEnabled role hRole hOn hHas
  · rcases bind_eq_ok_iff.mp hSubmit with ⟨_, hMay, _⟩
    rcases mayPost_eq_ok hMay with ⟨hConsole, hManage⟩
    rcases hBounded with hNoConsole | ⟨_, hNoManage | hAll⟩
    · exact absurd (hHeld hConsole) hNoConsole
    · exact absurd (hHeld hManage) hNoManage
    · exact ⟨fun _ _ capability _ => hAll capability, .inl hAll⟩

theorem Confined.of_submissions
    (hOrdinary : actor.isSuperuser = false) (hBounded : Bounded granted roles)
    (hTimes : ∀ posted ∈ submissions, posted.1 ∈ times)
    (hConfined : Confined actor times granted roles directory)
    (hRun : submissions.foldlM (submit actor) directory = .ok after) :
    Confined actor times granted roles after := by
  induction submissions generalizing directory with
  | nil =>
    rw [foldlM_nil, pure_eq_ok_iff] at hRun
    rwa [← hRun]
  | cons posted rest ih =>
    rcases bind_eq_ok_iff.mp hRun with ⟨middle, hSubmit, hRun⟩
    rw [forall_mem_cons] at hTimes
    exact ih hTimes.2 (hConfined.of_submit hOrdinary hBounded hTimes.1 hSubmit) hRun

/-
  Submissions of one operator. If their capabilities are bounded at the beginning and no assignment
  of theirs begins meanwhile, they have no more at the end.
-/
theorem capabilities_after_submissions {finish : Int} (hOrdinary : actor.isSuperuser = false)
    (hBounded : Bounded (capabilitiesAt actor now start) start.roles)
    (hTimes : ∀ time ∈ finish :: submissions.map Prod.fst,
      capabilitiesAt actor time start ⊆ capabilitiesAt actor now start)
    (hRun : submissions.foldlM (submit actor) start = .ok after) :
    capabilitiesAt actor finish after ⊆ capabilitiesAt actor now start := by
  have hConfined := Confined.of_submissions hOrdinary hBounded
    (fun posted hMem => mem_cons_of_mem _ (mem_map_of_mem hMem)) ⟨hTimes, .inr rfl⟩ hRun
  exact hConfined.1 finish mem_cons_self

def sampleDirectory (administers : Bool) : Directory where
  users := [sampleUser]
  groups := [⟨1, "Exploitants", [], [sampleUser], [1], true⟩]
  roles := [⟨1, "Groupes", none, [], [.consoleAccess, .groupsManage], false, true⟩,
    ⟨2, "Administration", none, [], [.usersManage], false, administers⟩]
  rest := sampleDatabase sampleCredential samplePolicies

def sampleOperator : Actor := ⟨sampleUser, false⟩

def sampleSubmissions : List (Int × Submission) :=
  [(0, .userGroups (some 1) 9
    ⟨some "Exploitants", none, [some sampleUser], [some 1, some 2], true⟩)]

theorem sampleSubmissions_accepted (administers : Bool) (found : List Capability)
    (hFound : ((sampleSubmissions.foldlM (submit sampleOperator)
      (sampleDirectory administers)).toOption.map (capabilitiesAt sampleOperator 0)) = some found) :
    ∃ after, sampleSubmissions.foldlM (submit sampleOperator) (sampleDirectory administers) =
      .ok after ∧ capabilitiesAt sampleOperator 0 after = found := by
  rcases Option.map_eq_some_iff.mp hFound with ⟨after, hRun, hAfter⟩
  exact ⟨after, toOption_eq_some_iff.mp hRun, hAfter⟩

/- With the other profile disabled the operator gains nothing. -/
theorem capabilities_after_submissions_sample :
    ∃ after, sampleSubmissions.foldlM (submit sampleOperator) (sampleDirectory false) = .ok after ∧
      capabilitiesAt sampleOperator 0 after ⊆
        capabilitiesAt sampleOperator 0 (sampleDirectory false) := by
  rcases sampleSubmissions_accepted false [.consoleAccess, .groupsManage] (by decide +kernel) with
    ⟨after, hRun, _⟩
  refine ⟨after, hRun, capabilities_after_submissions rfl ?_ (by decide +kernel) hRun⟩
  exact .inr ⟨.inr (by decide +kernel), .inl (by decide +kernel)⟩

/- An operator who may edit groups gives their own group the profile for administrators. -/
theorem group_manager_escalates :
    ∃ after, sampleSubmissions.foldlM (submit sampleOperator) (sampleDirectory true) =
      .ok after ∧ .usersManage ∈ capabilitiesAt sampleOperator 0 after ∧
      .usersManage ∉ capabilitiesAt sampleOperator 0 (sampleDirectory true) := by
  rcases sampleSubmissions_accepted true [.consoleAccess, .groupsManage, .usersManage]
    (by decide +kernel) with ⟨after, hRun, hAfter⟩
  refine ⟨after, hRun, ?_, by decide +kernel⟩
  rw [hAfter]
  decide

end PamOlive.Rbac
