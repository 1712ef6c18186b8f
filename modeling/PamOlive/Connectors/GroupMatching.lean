import PamOlive.Connectors.ManagedRuns

/-
  Which mappings the groups of a user select.

  A synchronization looks groups up in a dictionary with one mapping per folded name; a login takes
  every mapping whose folded name is among the groups. They agree exactly if no selected name
  belongs to two mappings.
-/

---- Selections

namespace PamOlive.Connectors

open Foundations List

variable {library : TextLibrary} {mappings : List DirectoryGroupMapping} {groups : List Text}
variable {mapping first second : DirectoryGroupMapping} {group : Text}
variable {sourceId : Uuid} {directory : Directory}

theorem mem_of_mappingByGroup (hFound : mappingByGroup library mappings group = some mapping) :
    mapping ∈ mappings ∧ normalized library mapping.externalGroup = normalized library group := by
  rcases mem_filter.mp (mem_of_getLast? hFound) with ⟨hMem, hName⟩
  exact ⟨hMem, of_decide_eq_true hName⟩

theorem exists_mappingByGroup (hMem : mapping ∈ mappings)
    (hName : normalized library mapping.externalGroup = normalized library group) :
    ∃ found, mappingByGroup library mappings group = some found := by
  refine Option.ne_none_iff_exists'.mp ?_
  rw [mappingByGroup, Ne, getLast?_eq_none_iff]
  exact ne_nil_of_mem (mem_filter.mpr ⟨hMem, decide_eq_true hName⟩)

theorem mem_matchedMappings_iff :
    mapping ∈ matchedMappings library sourceId (groups.map Json.str) directory ↔
      mapping ∈ enabledMappings sourceId directory ∧ ∃ group ∈ groups,
        normalized library mapping.externalGroup = normalized library group := by
  unfold matchedMappings
  rw [mem_filter, contains_iff_mem, map_map, mem_map]
  refine and_congr_right fun _ => exists_congr fun group => and_congr_right fun _ => ?_
  exact eq_comm

/-
  A synchronization and a login select the same mappings exactly if no two enabled mappings share
  the folded name of one of the groups.
-/
theorem selections_agree_iff : (∀ mapping, mapping ∈ groups.filterMap
    (mappingByGroup library (enabledMappings sourceId directory)) ↔
    mapping ∈ matchedMappings library sourceId (groups.map Json.str) directory) ↔
    ∀ first ∈ enabledMappings sourceId directory, ∀ second ∈ enabledMappings sourceId directory,
      normalized library first.externalGroup = normalized library second.externalGroup →
      normalized library first.externalGroup ∈ groups.map (normalized library) →
      first = second := by
  simp only [mem_matchedMappings_iff, mem_filterMap]
  constructor
  · intro hAgree first hFirst second hSecond hSame hListed
    rcases mem_map.mp hListed with ⟨group, hGroup, hName⟩
    rcases (hAgree first).mpr ⟨hFirst, group, hGroup, hName.symm⟩ with ⟨one, _, hOne⟩
    rcases (hAgree second).mpr ⟨hSecond, group, hGroup, by rw [← hSame, hName]⟩ with ⟨two, _, hTwo⟩
    have hNames : normalized library one = normalized library two := by
      rw [← (mem_of_mappingByGroup hOne).2, ← (mem_of_mappingByGroup hTwo).2, hSame]
    unfold mappingByGroup at hOne hTwo
    rw [hNames, hTwo] at hOne
    exact (Option.some.inj hOne).symm
  · intro hUnique mapping
    constructor
    · rintro ⟨group, hGroup, hFound⟩
      rcases mem_of_mappingByGroup hFound with ⟨hMem, hName⟩
      exact ⟨hMem, group, hGroup, hName⟩
    rintro ⟨hMem, group, hGroup, hName⟩
    rcases exists_mappingByGroup hMem hName with ⟨found, hFound⟩
    rcases mem_of_mappingByGroup hFound with ⟨hOther, hOtherName⟩
    have hSame : mapping = found := by
      refine hUnique mapping hMem found hOther (hName.trans hOtherName.symm) ?_
      rw [hName]
      exact mem_map_of_mem hGroup
    exact ⟨group, hGroup, by rw [hFound, hSame]⟩

/- ASCII letters are folded to lower case. -/
def foldingLibrary : TextLibrary :=
  { asciiLibrary with
    casefold := fun text => text.map (fun point =>
      if 65 ≤ point.val ∧ point.val ≤ 90 then Fin.ofNat _ (point.val + 32) else point) }

def doubledDirectory : Directory :=
  { emptyDirectory with
    mappings := ⟨[⟨11, 9, "admins", 20, true, true⟩,
      ⟨12, 9, "Admins", 21, true, true⟩], by decide⟩ }

/- The synchronization drops the first mapping, the login takes both. -/
theorem selections_differ :
    (["admins"].filterMap (mappingByGroup foldingLibrary (enabledMappings 9 doubledDirectory))).map
        DirectoryGroupMapping.id = [12] ∧
      (matchedMappings foldingLibrary 9 [.str "admins"] doubledDirectory).map
        DirectoryGroupMapping.id = [11, 12] := by
  decide +kernel

end PamOlive.Connectors
