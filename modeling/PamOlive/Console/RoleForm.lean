import PamOlive.Rbac.Services

/-
  The form for permission profiles.

  Capabilities have two encodings: a list, and one level for each area. For a system profile the
  form compares the list with the stored one, but saves what the levels give as soon as one is
  submitted.
-/

---- Permission Areas

namespace PamOlive.Rbac

open Foundations List

inductive Area where
  | users | groups | roles | identitySources | targets | targetGroups | domains | credentials
  | secretOperations | policies | approvals | sessions | audit | system
deriving DecidableEq

def permissionAreas : List Area :=
  [.users, .groups, .roles, .identitySources, .targets, .targetGroups, .domains, .credentials,
    .secretOperations, .policies, .approvals, .sessions, .audit, .system]

inductive Level where
  | none | view | manage | operate | reveal | rotate | full | decide | control | export
deriving DecidableEq

/- `area.levels`, with their capabilities. -/
def Area.levels : Area → List (Level × List Capability)
  | .users => [(.none, []), (.view, [.usersView]), (.manage, [.usersView, .usersManage])]
  | .groups => [(.none, []), (.view, [.groupsView]), (.manage, [.groupsView, .groupsManage])]
  | .roles => [(.none, []), (.view, [.rolesView]), (.manage, [.rolesView, .rolesManage])]
  | .identitySources =>
    [(.none, []), (.view, [.identitySourcesView]),
      (.manage, [.identitySourcesView, .identitySourcesManage]),
      (.operate, [.identitySourcesView, .identitySourcesManage, .identitySourcesSync])]
  | .targets => [(.none, []), (.view, [.targetsView]), (.manage, [.targetsView, .targetsManage])]
  | .targetGroups =>
    [(.none, []), (.view, [.targetGroupsView]), (.manage, [.targetGroupsView, .targetGroupsManage])]
  | .domains => [(.none, []), (.view, [.domainsView]), (.manage, [.domainsView, .domainsManage])]
  | .credentials =>
    [(.none, []), (.view, [.credentialsViewMetadata]),
      (.manage, [.credentialsViewMetadata, .credentialsManage])]
  | .secretOperations =>
    [(.none, []), (.reveal, [.credentialsViewMetadata, .credentialsReveal]),
      (.rotate, [.credentialsViewMetadata, .credentialsRotate]),
      (.full, [.credentialsViewMetadata, .credentialsReveal, .credentialsRotate])]
  | .policies =>
    [(.none, []), (.view, [.policiesView]), (.manage, [.policiesView, .policiesManage])]
  | .approvals =>
    [(.none, []), (.view, [.approvalsView]), (.decide, [.approvalsView, .approvalsDecide])]
  | .sessions =>
    [(.none, []), (.view, [.sessionsView]),
      (.control, [.sessionsView, .sessionsJoin, .sessionsTerminate])]
  | .audit => [(.none, []), (.view, [.auditView]), (.export, [.auditView, .auditExport])]
  | .system => [(.none, []), (.view, [.systemView]), (.manage, [.systemView, .systemManage])]

def sortedChoices : List Capability :=
  [.approvalsDecide, .approvalsView, .auditExport, .auditView, .configurationView, .consoleAccess,
    .credentialsManage, .credentialsReveal, .credentialsRotate, .credentialsViewMetadata,
    .domainsManage, .domainsView, .groupsManage, .groupsView, .identitySourcesManage,
    .identitySourcesSync, .identitySourcesView, .policiesManage, .policiesView, .rolesManage,
    .rolesView, .sessionsJoin, .sessionsTerminate, .sessionsView, .systemManage, .systemView,
    .targetGroupsManage, .targetGroupsView, .targetsManage, .targetsView, .usersManage, .usersView]

/- The end of both functions below: the two basic capabilities, and `sorted`. -/
def sortedWithBasics (granted : List Capability) : List Capability :=
  sortedChoices.filter (fun capability =>
    granted.contains capability ||
      (!granted.isEmpty && [.consoleAccess, .configurationView].contains capability))

def capabilitiesFromLevels (values : Area → Option Level) : List Capability :=
  sortedWithBasics (permissionAreas.flatMap (fun area =>
    ((values area).bind (fun level => area.levels.lookup level)).getD []))

/- `dependencies`. -/
def capabilityDependencies : List (Capability × Capability) :=
  [(.usersManage, .usersView), (.groupsManage, .groupsView), (.rolesManage, .rolesView),
    (.identitySourcesManage, .identitySourcesView), (.identitySourcesSync, .identitySourcesView),
    (.targetsManage, .targetsView), (.targetGroupsManage, .targetGroupsView),
    (.domainsManage, .domainsView), (.credentialsManage, .credentialsViewMetadata),
    (.credentialsReveal, .credentialsViewMetadata), (.credentialsRotate, .credentialsViewMetadata),
    (.policiesManage, .policiesView), (.approvalsDecide, .approvalsView),
    (.auditExport, .auditView), (.sessionsTerminate, .sessionsView),
    (.sessionsJoin, .sessionsView), (.systemManage, .systemView)]

def addDependency
    (granted : List Capability) (dependency : Capability × Capability) : List Capability :=
  if granted.contains dependency.1 then dependency.2 :: granted else granted

def normalizeCapabilities (capabilities : List Capability) : List Capability :=
  sortedWithBasics (capabilityDependencies.foldl addDependency capabilities)

---- The Form

/- A row of `Role`, as far as the form reads and writes it. -/
structure RoleRow where
  id : Uuid
  name : Text
  slug : Option Text
  description : Text
  capabilities : List Capability
  isSystem : Bool
  enabled : Bool
deriving DecidableEq

/- What a body has for a choice field; `other` is no choice. -/
inductive Submitted where
  | missing | blank
  | choice (level : Level)
  | other
deriving DecidableEq

/- The body; a capability that is no choice is `none`. -/
structure RolePost where
  name : Option Text
  slug : Option Text
  description : Option Text
  capabilities : List (Option Capability)
  enabled : Bool
  levels : Area → Submitted

open RolePost

def cleanText (value : Option Text) : Text := (value.getD []).strip

/- The `empty_value` of the slug is `None`. -/
def RolePost.cleanSlug (post : RolePost) : Option Text :=
  if cleanText post.slug = [] then none else some (cleanText post.slug)

/- `^[-a-zA-Z0-9_]+$`, by code points. -/
def isSlugPoint (point : CodePoint) : Bool :=
  let code := point.val
  decide (code = 45 ∨ code = 95 ∨ (48 ≤ code ∧ code ≤ 57) ∨ (65 ≤ code ∧ code ≤ 90) ∨
    (97 ≤ code ∧ code ≤ 122))

def hasNoNull (text : Text) : Bool := text.all (fun point => decide (point.val ≠ 0))

def textFits (limit : Nat) (text : Text) : Bool :=
  decide (text.length ≤ limit) && hasNoNull text

def RolePost.level (post : RolePost) (area : Area) : Option Level :=
  match post.levels area with
  | .choice level => some level
  | _ => none

def levelValid (area : Area) : Submitted → Bool
  | .missing => true
  | .blank => true
  | .choice level => (area.levels.lookup level).isSome
  | .other => false

/- The checks of the fields and of the unique columns. -/
def RolePost.fieldsValid (others : List RoleRow) (post : RolePost) : Bool :=
  decide (cleanText post.name ≠ []) && textFits 100 (cleanText post.name) &&
    textFits 100 (cleanText post.slug) && (cleanText post.slug).all isSlugPoint &&
    hasNoNull (cleanText post.description) && post.capabilities.all Option.isSome &&
    permissionAreas.all (fun area => levelValid area (post.levels area)) &&
    others.all (fun other => decide (other.name ≠ cleanText post.name ∧
      (post.cleanSlug = none ∨ other.slug ≠ post.cleanSlug)))

/- Whether a protected field is in `changed_data`. -/
def protectedChanged (role : RoleRow) (post : RolePost) : Bool :=
  decide (cleanText post.name ≠ role.name) || decide (post.cleanSlug.getD [] ≠ role.slug.getD []) ||
    !(decide (post.capabilities.length = role.capabilities.length) &&
      post.capabilities.all (role.capabilities.map some).contains &&
      role.capabilities.all (fun capability => post.capabilities.contains (some capability))) ||
    decide (post.enabled ≠ role.enabled)

def RolePost.levelsSubmitted (post : RolePost) : Bool :=
  permissionAreas.any (fun area => decide (post.levels area ≠ .missing))

def RolePost.cleanCapabilities (post : RolePost) : List Capability :=
  if post.levelsSubmitted then capabilitiesFromLevels post.level
  else normalizeCapabilities (post.capabilities.filterMap id)

inductive RoleFormError where
  | fields
  | nonField (message : Text)
deriving DecidableEq

/- `is_valid` and `save` of a form that is bound to a role, among the other roles. -/
def saveRoleForm
    (others : List RoleRow) (role : RoleRow) (post : RolePost) : Except RoleFormError RoleRow := do
  require (post.fieldsValid others = true) .fields
  require (role.isSystem = true → protectedChanged role post = false) (.nonField (Text.ofString
    "Les profils système sont versionnés et ne peuvent pas être modifiés ici."))
  return { role with
    name := cleanText post.name
    slug := post.cleanSlug
    description := cleanText post.description
    capabilities := post.cleanCapabilities
    enabled := post.enabled }

---- System Profiles

variable {others : List RoleRow} {role saved : RoleRow} {post : RolePost}
variable {granted granted' : List Capability}

theorem sortedChoices_perm : sortedChoices.Perm capabilityChoices := by decide

variable {capability : Capability}

theorem mem_sortedWithBasics_iff : capability ∈ sortedWithBasics granted ↔ capability ∈ granted ∨
    (granted ≠ [] ∧ capability ∈ [Capability.consoleAccess, .configurationView]) := by
  have hChoice := sortedChoices_perm.mem_iff.mpr (mem_capabilityChoices capability)
  unfold sortedWithBasics
  simp [mem_filter, hChoice]

section

variable (hSame : ∀ capability, capability ∈ granted ↔ capability ∈ granted')

include hSame

theorem sortedWithBasics_congr : sortedWithBasics granted = sortedWithBasics granted' := by
  have hEmpty : granted.isEmpty = granted'.isEmpty := by
    rw [Bool.eq_iff_iff, List.isEmpty_iff, List.isEmpty_iff, List.eq_nil_iff_forall_not_mem,
      eq_nil_iff_forall_not_mem]
    simp only [hSame]
  refine filter_congr ?_
  intro capability _
  simp only [hEmpty, contains_eq_mem, hSame]

theorem normalizeCapabilities_congr :
    normalizeCapabilities granted = normalizeCapabilities granted' := by
  refine sortedWithBasics_congr ?_
  generalize capabilityDependencies = dependencies
  induction dependencies generalizing granted granted' with
  | nil => exact hSame
  | cons dependency rest ih =>
    refine ih ?_
    intro capability
    unfold addDependency
    simp only [contains_iff_mem, hSame dependency.1]
    split_ifs
    · rw [mem_cons, mem_cons, hSame]
    · exact hSame capability

end

theorem protectedChanged_eq_false_iff : protectedChanged role post = false ↔
    cleanText post.name = role.name ∧ post.cleanSlug.getD [] = role.slug.getD [] ∧
      (post.capabilities.length = role.capabilities.length ∧
        ∀ value, value ∈ post.capabilities ↔ ∃ capability ∈ role.capabilities,
          some capability = value) ∧
      post.enabled = role.enabled := by
  unfold protectedChanged
  simp only [Bool.or_eq_false_iff, Bool.not_eq_false', Bool.and_eq_true, decide_eq_false_iff_not,
    not_not, decide_eq_true_eq, all_eq_true, contains_iff_mem, mem_map, and_assoc]
  refine and_congr_right fun _ => and_congr_right fun _ => and_congr_right fun _ => ?_
  rw [← and_assoc]
  refine and_congr_left fun _ => ?_
  constructor
  · rintro ⟨hSubmitted, hStored⟩ value
    refine ⟨hSubmitted value, ?_⟩
    rintro ⟨capability, hMem, rfl⟩
    exact hStored capability hMem
  · intro hBoth
    exact ⟨fun value hMem => (hBoth value).mp hMem,
      fun capability hMem => (hBoth _).mpr ⟨capability, hMem, rfl⟩⟩

theorem cleanSlug_of_unchanged (hSlug : post.cleanSlug.getD [] = role.slug.getD []) :
    post.cleanSlug = role.slug.filter (fun slug => decide (slug ≠ [])) := by
  have hClean : post.cleanSlug ≠ some [] := by
    unfold cleanSlug
    split_ifs with hEmpty
    · simp
    · simpa using hEmpty
  -- Both sides are null, or both are the same text, which is not empty.
  rcases hPost : post.cleanSlug with _ | text
  all_goals rcases hRole : role.slug with _ | slug
  all_goals simp_all [Option.filter]

/-
  A system profile that the form saves keeps its name, its flag, and its slug up to the empty one.
  Its capabilities are those of the levels if one was submitted, else the stored ones normalized.
-/
theorem system_role_saved_iff (hSystem : role.isSystem = true)
    (hSaved : saveRoleForm others role post = .ok saved) :
    saved.name = role.name ∧ saved.enabled = role.enabled ∧
      saved.slug = role.slug.filter (fun slug => decide (slug ≠ [])) ∧
      saved.capabilities = (if post.levelsSubmitted then capabilitiesFromLevels post.level
        else normalizeCapabilities role.capabilities) ∧
      ((saved.name = role.name ∧ saved.slug = role.slug ∧
        saved.capabilities = role.capabilities ∧ saved.enabled = role.enabled) ↔
        role.slug ≠ some [] ∧ (if post.levelsSubmitted then capabilitiesFromLevels post.level
          else normalizeCapabilities role.capabilities) = role.capabilities) := by
  rcases require_bind_eq_ok_iff.mp hSaved with ⟨_, hSaved⟩
  rcases require_bind_eq_ok_iff.mp hSaved with ⟨hGuard, hSaved⟩
  rw [pure_eq_ok_iff] at hSaved
  rcases protectedChanged_eq_false_iff.mp (hGuard hSystem) with
    ⟨hName, hSlug, ⟨_, hCapabilities⟩, hEnabled⟩
  have hNormal : normalizeCapabilities (post.capabilities.filterMap id) =
    normalizeCapabilities role.capabilities := by
    refine normalizeCapabilities_congr ?_
    intro capability
    simp [mem_filterMap, hCapabilities]
  have hClean : post.cleanCapabilities =
    if post.levelsSubmitted then capabilitiesFromLevels post.level
    else normalizeCapabilities role.capabilities := by
    unfold cleanCapabilities
    rw [hNormal]
  have hFiltered : role.slug.filter (fun slug => decide (slug ≠ [])) = role.slug ↔
    role.slug ≠ some [] := by
    cases role.slug with
    | none => simp
    | some slug => simp [Option.filter_eq_some_iff]
  rw [← hSaved, ← hClean]
  rw [cleanSlug_of_unchanged hSlug]
  refine ⟨hName, hEnabled, rfl, rfl, ?_⟩
  simp only [hName, hEnabled, true_and, and_true, hFiltered]

def sampleAuditor : RoleRow where
  id := 1
  name := "Auditeur"
  slug := some "auditor"
  description := []
  capabilities := [.auditView, .configurationView, .consoleAccess]
  isSystem := true
  enabled := true

def samplePost (users : Submitted) : RolePost where
  name := some sampleAuditor.name
  slug := sampleAuditor.slug
  description := none
  capabilities := sampleAuditor.capabilities.map some
  enabled := true
  levels := fun area => if area = .users then users else .missing

theorem system_role_unchanged_sample :
    saveRoleForm [] sampleAuditor (samplePost .missing) = .ok sampleAuditor ∧
      sampleAuditor.slug ≠ some [] := by
  have hSaved : saveRoleForm [] sampleAuditor (samplePost .missing) = .ok sampleAuditor := by
    decide +kernel
  exact ⟨hSaved, ((system_role_saved_iff rfl hSaved).2.2.2.2.mp ⟨rfl, rfl, rfl, rfl⟩).1⟩

/- The same body with `users_level=manage` makes the profile one for users. -/
theorem system_role_rewritten : sampleAuditor.isSystem = true ∧
    saveRoleForm [] sampleAuditor (samplePost (.choice .manage)) = .ok { sampleAuditor with
        capabilities := [.configurationView, .consoleAccess, .usersManage, .usersView] } ∧
    sampleAuditor.capabilities ≠
      [.configurationView, .consoleAccess, .usersManage, .usersView] := by
  decide +kernel

---- Saving Again

/- The level that the form shows for an area: the last one that is held in full. -/
def levelForCapabilities (area : Area) (capabilities : List Capability) : Level :=
  area.levels.foldl (fun selected level =>
    if level.2 ≠ [] ∧ level.2.all capabilities.contains = true then level.1 else selected) .none

/- A level of some area that is held in full grants the capability. -/
def Granted (capabilities : List Capability) (capability : Capability) : Prop :=
  ∃ area : Area, ∃ level ∈ area.levels,
    capability ∈ level.2 ∧ level.2.all capabilities.contains = true

/- Nothing falls between two levels, and the basic capabilities are not alone. -/
def Covered (capabilities : List Capability) : Prop :=
  ∀ capability ∈ capabilities, Granted capabilities capability ∨
    ((∃ other, Granted capabilities other) ∧
      capability ∈ [Capability.consoleAccess, .configurationView])

theorem mem_levelForCapabilities_iff {area : Area} :
    capability ∈ (area.levels.lookup (levelForCapabilities area granted)).getD [] ↔
      ∃ level ∈ area.levels, capability ∈ level.2 ∧ level.2.all granted.contains = true := by
  have hLookup : ∀ (value other : Level) (held : List Capability) rest,
    ((other, held) :: rest).lookup value =
      if value = other then some held else rest.lookup value := by
    intro value other held rest
    by_cases hSame : value = other
    · simp [hSame]
    · rw [lookup_cons, beq_false_of_ne hSame, if_neg hSame]
  cases area
  all_goals
    simp only [levelForCapabilities, Area.levels, foldl_cons, foldl_nil, all_cons, all_nil,
      exists_mem_cons_iff, Bool.and_true]
    split_ifs <;> simp_all <;> tauto

theorem mem_capabilitiesFromLevels_iff :
    capability ∈ capabilitiesFromLevels (fun area => some (levelForCapabilities area granted)) ↔
      Granted granted capability ∨ ((∃ other, Granted granted other) ∧
        capability ∈ [Capability.consoleAccess, .configurationView]) := by
  have hMem : ∀ other, other ∈ permissionAreas.flatMap (fun area =>
    (area.levels.lookup (levelForCapabilities area granted)).getD []) ↔ Granted granted other := by
    intro other
    simp only [mem_flatMap, mem_levelForCapabilities_iff]
    refine exists_congr fun area => and_iff_right ?_
    cases area <;> decide
  unfold capabilitiesFromLevels
  simp only [Option.bind_some, mem_sortedWithBasics_iff, hMem, ne_eq, eq_nil_iff_forall_not_mem,
    not_forall, not_not]

theorem capabilitiesFromLevels_eq_self_iff :
    capabilitiesFromLevels (fun area => some (levelForCapabilities area (sortedWithBasics granted)))
      = sortedWithBasics granted ↔ Covered (sortedWithBasics granted) := by
  have hResaved := @mem_capabilitiesFromLevels_iff (sortedWithBasics granted)
  have hHeld : ∀ capability, Granted (sortedWithBasics granted) capability →
    capability ∈ sortedWithBasics granted := by
    rintro capability ⟨area, level, _, hMem, hAll⟩
    exact contains_iff_mem.mp (all_eq_true.mp hAll capability hMem)
  constructor
  · intro hSame capability hMem
    rw [hSame] at hResaved
    exact hResaved.mp hMem
  intro hCovered
  refine filter_congr fun capability hChoice => Bool.eq_iff_iff.mpr ?_
  have hBoth : capability ∈ capabilitiesFromLevels (fun area =>
    some (levelForCapabilities area (sortedWithBasics granted))) ↔
      capability ∈ sortedWithBasics granted := by
    refine hResaved.trans ⟨?_, hCovered capability⟩
    rintro (hGranted | ⟨⟨other, hGranted⟩, hBasic⟩)
    · exact hHeld capability hGranted
    · have hOther := mem_sortedWithBasics_iff.mp (hHeld other hGranted)
      exact mem_sortedWithBasics_iff.mpr (.inr ⟨hOther.elim ne_nil_of_mem And.left, hBasic⟩)
  simpa only [capabilitiesFromLevels, sortedWithBasics, mem_filter, hChoice, true_and] using hBoth

theorem covered_capabilitiesFromLevels (values : Area → Option Level) :
    Covered (capabilitiesFromLevels values) := by
  have hGranted : ∀ capability ∈ permissionAreas.flatMap (fun area =>
    ((values area).bind (fun level => area.levels.lookup level)).getD []),
    Granted (capabilitiesFromLevels values) capability := by
    intro capability hMem
    rcases mem_flatMap.mp hMem with ⟨area, hArea, hIn⟩
    rcases hLevel : (values area).bind (fun level => area.levels.lookup level) with _ | held
    · simp [hLevel] at hIn
    rw [hLevel] at hIn
    rcases Option.bind_eq_some_iff.mp hLevel with ⟨level, _, hLookup⟩
    rcases lookup_eq_some_iff.mp hLookup with ⟨first, rest, hSplit, _⟩
    refine ⟨area, (level, held), by simp [hSplit], hIn, all_eq_true.mpr ?_⟩
    intro other hOther
    refine contains_iff_mem.mpr (mem_sortedWithBasics_iff.mpr (.inl ?_))
    exact mem_flatMap.mpr ⟨area, hArea, by rwa [hLevel]⟩
  intro capability hMem
  rcases mem_sortedWithBasics_iff.mp hMem with hMem | ⟨hSome, hBasic⟩
  · exact .inl (hGranted capability hMem)
  · rcases exists_mem_of_ne_nil _ hSome with ⟨other, hOther⟩
    exact .inr ⟨⟨other, hGranted other hOther⟩, hBasic⟩

theorem saveRoleForm_capabilities (hSaved : saveRoleForm others role post = .ok saved) :
    saved.capabilities = post.cleanCapabilities := by
  simp only [saveRoleForm, require_bind_eq_ok_iff, pure_eq_ok_iff] at hSaved
  rw [← hSaved.2.2]

/-
  The form is submitted again with the levels it shows. The capabilities are the same exactly if
  the levels cover them, as after a first form that was saved by levels.
-/
theorem role_resaved_iff {others' : List RoleRow} {resaved : RoleRow} {again : RolePost}
    (hSaved : saveRoleForm others role post = .ok saved)
    (hLevels : ∀ area, again.levels area = .choice (levelForCapabilities area saved.capabilities))
    (hAgain : saveRoleForm others' saved again = .ok resaved) :
    (resaved.capabilities = saved.capabilities ↔ Covered saved.capabilities) ∧
      (post.levelsSubmitted = true → Covered saved.capabilities) := by
  have hSecond : resaved.capabilities =
    capabilitiesFromLevels (fun area => some (levelForCapabilities area saved.capabilities)) := by
    rw [saveRoleForm_capabilities hAgain]
    unfold cleanCapabilities levelsSubmitted level
    simp [hLevels, permissionAreas]
  rw [hSecond, saveRoleForm_capabilities hSaved]
  unfold cleanCapabilities
  split
  · exact ⟨capabilitiesFromLevels_eq_self_iff, fun _ => covered_capabilitiesFromLevels _⟩
  next hList =>
    exact ⟨capabilitiesFromLevels_eq_self_iff, fun hSubmitted => absurd hSubmitted hList⟩

def ownRole (capabilities : List Capability) : RoleRow :=
  { sampleAuditor with isSystem := false, capabilities := capabilities }

def listPost (capabilities : List Capability) : RolePost :=
  { samplePost .missing with capabilities := capabilities.map some }

def shownPost (role : RoleRow) : RolePost :=
  { samplePost .missing with
    levels := fun area => .choice (levelForCapabilities area role.capabilities) }

theorem role_resaved_sample :
    let exporter := ownRole [.auditExport, .auditView, .configurationView, .consoleAccess]
    saveRoleForm [] (ownRole []) (listPost [.auditExport]) = .ok exporter ∧
      saveRoleForm [] exporter (shownPost exporter) = .ok exporter ∧
      Covered exporter.capabilities := by
  intro exporter
  have hSaved : saveRoleForm [] (ownRole []) (listPost [.auditExport]) = .ok exporter := by
    decide +kernel
  have hAgain : saveRoleForm [] exporter (shownPost exporter) = .ok exporter := by
    decide +kernel
  exact ⟨hSaved, hAgain, (role_resaved_iff hSaved (fun _ => rfl) hAgain).1.mp rfl⟩

/- Synchronizing sources without managing them falls between two levels. -/
theorem sync_lost_by_resave :
    let syncer := ownRole [.configurationView, .consoleAccess, .identitySourcesSync,
      .identitySourcesView]
    saveRoleForm [] (ownRole []) (listPost [.identitySourcesSync]) = .ok syncer ∧
      saveRoleForm [] syncer (shownPost syncer) =
        .ok (ownRole [.configurationView, .consoleAccess, .identitySourcesView]) := by
  decide +kernel

end PamOlive.Rbac
