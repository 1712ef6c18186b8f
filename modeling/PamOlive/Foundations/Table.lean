import Mathlib.Data.List.Nodup

/-
  Tables with a unique key.

  A table carries the proof that no two rows share a key. Inserting a key that is taken fails, and
  a row is modified by a function that keeps its key.
-/

---- Tables

namespace PamOlive.Foundations

variable {Row Key : Type}

structure Table (key : Row → Key) where
  rows : List Row
  nodup : (rows.map key).Nodup

namespace Table

open List

variable [DecidableEq Key] {key : Row → Key}

def empty : Table key := ⟨[], nodup_nil⟩

def get (table : Table key) (id : Key) : Option Row :=
  table.rows.find? (fun row => decide (key row = id))

def insert (table : Table key) (row : Row) : Option (Table key) :=
  if hTaken : key row ∈ table.rows.map key then none
  else
    some ⟨table.rows ++ [row], by
        rw [map_append]
        apply table.nodup.append (by simp)
        intro id hOld hNew
        simp only [map_cons, map_nil, mem_singleton] at hNew
        rw [hNew] at hOld
        exact hTaken hOld⟩

variable {id : Key} {change : Row → Row} {rows : List Row}

theorem map_key_change (hKey : ∀ row, key (change row) = key row) : (rows.map
    (fun row =>
      if key row = id then change row else row)).map key = rows.map key := by
  rw [map_map]
  apply map_congr_left
  intro row _
  simp only [Function.comp_apply]
  split
  · exact hKey row
  · rfl

def modify (table : Table key) (id : Key) (change : Row → Row)
    (hKey : ∀ row, key (change row) = key row) : Table key :=
  ⟨table.rows.map (fun row => if key row = id then change row else row), by
      rw [map_key_change hKey]
      exact table.nodup⟩

def filter (table : Table key) (keep : Row → Bool) : Table key :=
  ⟨table.rows.filter keep, table.nodup.sublist (filter_sublist.map key)⟩

---- Reading

variable {table after : Table key} {row : Row}

theorem find?_key_eq (hNodup : (rows.map key).Nodup) (hMem : row ∈ rows) :
    rows.find? (fun other => decide (key other = key row)) = some row := by
  cases hFind : rows.find? (fun other => decide (key other = key row)) with
  | none => exact absurd (decide_eq_true rfl) (find?_eq_none.mp hFind row hMem)
  | some other =>
    have hKey := find?_some hFind
    rw [inj_on_of_nodup_map hNodup (mem_of_find?_eq_some hFind) hMem (of_decide_eq_true hKey)]

theorem get_eq_some_iff : table.get id = some row ↔ row ∈ table.rows ∧ key row = id := by
  constructor
  · intro hFind
    have hKey := find?_some hFind
    exact ⟨mem_of_find?_eq_some hFind, of_decide_eq_true hKey⟩
  · rintro ⟨hMem, rfl⟩
    exact find?_key_eq table.nodup hMem

theorem get_eq_none_iff : table.get id = none ↔ id ∉ table.rows.map key := by
  unfold get
  simp

theorem insert_eq_some_iff : table.insert row = some after ↔
    key row ∉ table.rows.map key ∧ after.rows = table.rows ++ [row] := by
  unfold insert
  split
  · rename_i hTaken
    simp [hTaken]
  rename_i hFree
  simp only [Option.some.injEq, hFree, not_false_eq_true, true_and]
  constructor
  · rintro rfl
    rfl
  · intro hRows
    cases after
    simp_all

theorem exists_insert_iff :
    (∃ after, table.insert row = some after) ↔ table.get (key row) = none := by
  rw [get_eq_none_iff]
  unfold insert
  by_cases hTaken : key row ∈ table.rows.map key <;> simp [hTaken]

theorem get_insert_self (hInsert : table.insert row = some after) :
    after.get (key row) = some row := by
  rcases insert_eq_some_iff.mp hInsert with ⟨_, hRows⟩
  apply get_eq_some_iff.mpr
  rw [hRows]
  simp

theorem get_insert_of_ne (hInsert : table.insert row = some after) (hOther : id ≠ key row) :
    after.get id = table.get id := by
  rcases insert_eq_some_iff.mp hInsert with ⟨_, hRows⟩
  unfold get
  rw [hRows, find?_append]
  have hNew : [row].find? (fun row => decide (key row = id)) = none := by
    simp [Ne.symm hOther]
  rw [hNew, Option.or_none]

theorem map_key_modify {table : Table key} {hKey : ∀ row, key (change row) = key row} :
    (table.modify id change hKey).rows.map key = table.rows.map key :=
  map_key_change hKey

theorem get_modify_self {table : Table key}
    {hKey : ∀ row, key (change row) = key row} (hGet : table.get id = some row) :
    (table.modify id change hKey).get id = some (change row) := by
  rcases get_eq_some_iff.mp hGet with ⟨hMem, hId⟩
  apply get_eq_some_iff.mpr
  refine ⟨?_, (hKey row).trans hId⟩
  apply mem_map.mpr
  exact ⟨row, hMem, by simp [hId]⟩

theorem get_modify_of_ne {other : Key} {hKey : ∀ row, key (change row) = key row}
    (hOther : other ≠ id) : (table.modify id change hKey).get other = table.get other := by
  unfold get modify
  rw [find?_map]
  have hSame : ((fun row => decide (key row = other)) ∘
    (fun row => if key row = id then change row else row)) =
    (fun row => decide (key row = other)) := by
    funext row
    simp only [Function.comp_apply]
    split
    · rw [hKey]
    · rfl
  rw [hSame]
  cases hFind : table.rows.find? (fun row => decide (key row = other)) with
  | none => rfl
  | some row =>
    have hRow : key row = other := by simpa using find?_some hFind
    have hNot : key row ≠ id := by
      rw [hRow]
      exact hOther
    simp [hNot]

theorem modify_eq_self_iff {hKey : ∀ row, key (change row) = key row}
    (hGet : table.get id = some row) :
    table.modify id change hKey = table ↔ change row = row := by
  constructor
  · intro hSame
    have hAfter := @get_modify_self _ _ _ _ _ _ _ _ hKey hGet
    rw [hSame, hGet] at hAfter
    injection hAfter with hRow
    exact hRow.symm
  · intro hRow
    have hRows : table.rows.map (fun other =>
        if key other = id then change other else other) =
      table.rows.map (fun other => other) := by
      apply map_congr_left
      intro other hMem
      split
      · rename_i hId
        have hOther : table.get id = some other := get_eq_some_iff.mpr ⟨hMem, hId⟩
        cases Option.mem_unique hGet hOther
        exact hRow
      · rfl
    rw [map_id'] at hRows
    cases table
    unfold modify
    simp only [mk.injEq]
    exact hRows

---- Counting

theorem countP_modify_le {before after : Row → Bool} (hKey : ∀ row, key (change row) = key row)
    (hChanged : ∀ row ∈ table.rows, key row = id → after (change row) = true → before row = true)
    (hOther : ∀ row ∈ table.rows, key row ≠ id → after row = true → before row = true) :
    (table.modify id change hKey).rows.countP after ≤ table.rows.countP before := by
  unfold modify
  rw [countP_map]
  apply countP_mono_left
  intro row hMem hAfter
  simp only [Function.comp_apply] at hAfter
  by_cases hId : key row = id
  · rw [if_pos hId] at hAfter
    exact hChanged row hMem hId hAfter
  · rw [if_neg hId] at hAfter
    exact hOther row hMem hId hAfter

def keysWhere (table : Table key) (holds : Row → Bool) : List Key :=
  (table.rows.filter holds).map key

omit [DecidableEq Key] in
theorem length_keysWhere (table : Table key) (holds : Row → Bool) :
    (table.keysWhere holds).length = table.rows.countP holds := by
  unfold keysWhere
  rw [length_map, countP_eq_length_filter]

omit [DecidableEq Key] in
theorem nodup_keysWhere (table : Table key) (holds : Row → Bool) : (table.keysWhere holds).Nodup :=
  table.nodup.sublist (filter_sublist.map key)

variable {holds : Row → Bool}

theorem mem_keysWhere_iff : id ∈ table.keysWhere holds ↔ (table.get id).any holds = true := by
  unfold keysWhere
  simp only [mem_map, mem_filter, Option.any_eq_true, get_eq_some_iff]
  constructor
  · rintro ⟨row, ⟨hMem, hHolds⟩, hId⟩
    exact ⟨row, ⟨hMem, hId⟩, hHolds⟩
  · rintro ⟨row, ⟨hMem, hId⟩, hHolds⟩
    exact ⟨row, ⟨hMem, hHolds⟩, hId⟩

theorem countP_congr_get (hSame : ∀ id, (after.get id).any holds = (table.get id).any holds) :
    after.rows.countP holds = table.rows.countP holds := by
  rw [← length_keysWhere, ← length_keysWhere]
  apply Perm.length_eq
  apply (perm_ext_iff_of_nodup (after.nodup_keysWhere holds) (table.nodup_keysWhere holds)).mpr
  intro id
  rw [mem_keysWhere_iff, mem_keysWhere_iff, hSame id]

theorem countP_of_gained (hBefore : (table.get id).any holds = false)
    (hAfter : (after.get id).any holds = true)
    (hOthers : ∀ other, other ≠ id → after.get other = table.get other) :
    after.rows.countP holds = table.rows.countP holds + 1 := by
  have hFresh : id ∉ table.keysWhere holds := by
    rw [mem_keysWhere_iff, hBefore]
    exact Bool.false_ne_true
  rw [← length_keysWhere, ← length_keysWhere, ← length_cons]
  apply Perm.length_eq
  apply (perm_ext_iff_of_nodup (after.nodup_keysWhere holds)
    (nodup_cons.mpr ⟨hFresh, table.nodup_keysWhere holds⟩)).mpr
  intro other
  rw [mem_cons, mem_keysWhere_iff, mem_keysWhere_iff]
  by_cases hOther : other = id
  · rw [hOther, hAfter]
    simp
  · rw [hOthers other hOther]
    simp [hOther]

end Table

theorem countP_lt_of_witness {rows : List Row} {smaller larger : Row → Bool}
    (hMono : ∀ row ∈ rows, smaller row = true → larger row = true) {witness : Row}
    (hMem : witness ∈ rows) (hLarger : larger witness = true)
    (hSmaller : smaller witness = false) : rows.countP smaller < rows.countP larger := by
  induction rows with
  | nil => simp at hMem
  | cons first rest ih =>
    have hRest : ∀ row ∈ rest, smaller row = true → larger row = true :=
      fun row hRow => hMono row (by simp [hRow])
    have hFirst := hMono first (by simp)
    have hTail := List.countP_mono_left hRest
    rcases List.mem_cons.mp hMem with rfl | hIn
    · simp only [List.countP_cons, hLarger, hSmaller, if_true]
      simp
      omega
    have hStrict := ih hRest hIn
    by_cases hCounts : smaller first = true
    · simp only [List.countP_cons, hCounts, hFirst hCounts, if_true]
      omega
    · rw [List.countP_cons_of_neg hCounts]
      apply Nat.lt_of_lt_of_le hStrict
      rw [List.countP_cons]
      omega

end PamOlive.Foundations
