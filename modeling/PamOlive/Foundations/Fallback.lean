import Mathlib.Data.List.Basic

/-
  Choices from a list: among its enabled items, with a fallback for the case that no item is
  enabled, and of its first item that is eligible.
-/

namespace PamOlive.Foundations

open List

variable {α : Type} {enabled holds : α → Bool} {fallback : Bool} {items left right : List α}

def anyEnabled (enabled holds : α → Bool) (fallback : Bool) (items : List α) : Bool :=
  let chosen := items.filter enabled
  if chosen.isEmpty then fallback else chosen.any holds

theorem anyEnabled_eq_true_iff : anyEnabled enabled holds fallback items = true ↔
    (∃ item ∈ items, enabled item = true ∧ holds item = true) ∨
      ((∀ item ∈ items, enabled item = false) ∧ fallback = true) := by
  unfold anyEnabled
  dsimp only
  by_cases hNone : ∀ item ∈ items, enabled item = false
  · have hEmpty : items.filter enabled = [] := by
      simpa [filter_eq_nil_iff] using hNone
    rw [hEmpty, isEmpty_nil, if_pos rfl]
    constructor
    · exact fun hFallback => .inr ⟨hNone, hFallback⟩
    · rintro (⟨item, hMem, hOn, _⟩ | ⟨_, hFallback⟩)
      · rw [hNone item hMem] at hOn
        cases hOn
      · exact hFallback
  · have hSome : (items.filter enabled).isEmpty = false := by
      simpa using hNone
    rw [hSome, if_neg Bool.false_ne_true, any_eq_true]
    simp only [mem_filter, hNone, false_and, or_false, and_assoc]

/-
  Disabling an item turns a refusal into an acceptance exactly if it was the last enabled one, it
  did not hold itself, and the fallback does.
-/
theorem anyEnabled_widened_iff {item disabled : α} (hOn : enabled item = true)
    (hOff : enabled disabled = false) :
    (anyEnabled enabled holds fallback (left ++ item :: right) = false ∧
      anyEnabled enabled holds fallback (left ++ disabled :: right) = true) ↔
      fallback = true ∧ holds item = false ∧ ∀ other ∈ left ++ right, enabled other = false := by
  rw [← Bool.not_eq_true, anyEnabled_eq_true_iff, anyEnabled_eq_true_iff]
  simp only [mem_append, mem_cons]
  constructor
  · rintro ⟨hBefore, ⟨other, hMem, hOther, hHolds⟩ | ⟨hNone, hFallback⟩⟩
    · refine absurd (.inl ⟨other, ?_, hOther, hHolds⟩) hBefore
      rcases hMem with hLeft | rfl | hRight
      · exact .inl hLeft
      · rw [hOff] at hOther
        cases hOther
      · exact .inr (.inr hRight)
    · refine ⟨hFallback, ?_, ?_⟩
      · rw [← Bool.not_eq_true]
        exact fun hHolds => hBefore (.inl ⟨item, .inr (.inl rfl), hOn, hHolds⟩)
      · rintro other (hLeft | hRight)
        · exact hNone other (.inl hLeft)
        · exact hNone other (.inr (.inr hRight))
  · rintro ⟨hFallback, hItem, hNone⟩
    constructor
    · rintro (⟨other, hLeft | rfl | hRight, hOther, hHolds⟩ | ⟨hAll, _⟩)
      · rw [hNone other (.inl hLeft)] at hOther
        cases hOther
      · rw [hItem] at hHolds
        cases hHolds
      · rw [hNone other (.inr hRight)] at hOther
        cases hOther
      · rw [hAll item (.inr (.inl rfl))] at hOn
        cases hOn
    · refine .inr ⟨?_, hFallback⟩
      rintro other (hLeft | rfl | hRight)
      · exact hNone other (.inl hLeft)
      · exact hOff
      · exact hNone other (.inr hRight)

def FirstAccepted (eligible : α → Bool) (accepted : α → Prop) (items : List α) : Prop :=
  ∃ item, items.find? eligible = some item ∧ accepted item

/- The order does not matter exactly if the eligible items agree: any can be the first one. -/
theorem first_accepted_perm_iff {eligible : α → Bool} {accepted : α → Prop} :
    (∀ items', items'.Perm items →
      (FirstAccepted eligible accepted items' ↔ FirstAccepted eligible accepted items)) ↔
      (∀ item ∈ items, eligible item = true → accepted item) ∨
        ∀ item ∈ items, eligible item = true → ¬ accepted item := by
  have hFirst : ∀ item ∈ items, eligible item = true →
    ∃ items', items'.Perm items ∧ (FirstAccepted eligible accepted items' ↔ accepted item) := by
    intro item hMem hEligible
    rcases append_of_mem hMem with ⟨left, right, rfl⟩
    refine ⟨item :: (left ++ right), perm_middle.symm, ?_⟩
    unfold FirstAccepted
    rw [find?_cons_of_pos hEligible]
    simp
  constructor
  · intro hSame
    by_cases hAccepted : FirstAccepted eligible accepted items
    · refine .inl ?_
      intro item hMem hEligible
      rcases hFirst item hMem hEligible with ⟨items', hPerm, hIff⟩
      exact hIff.mp ((hSame items' hPerm).mpr hAccepted)
    · refine .inr ?_
      intro item hMem hEligible hItem
      rcases hFirst item hMem hEligible with ⟨items', hPerm, hIff⟩
      exact hAccepted ((hSame items' hPerm).mp (hIff.mpr hItem))
  · intro hAgree items' hPerm
    have hSome : (items'.find? eligible).isSome = (items.find? eligible).isSome := by
      rw [Bool.eq_iff_iff, find?_isSome, find?_isSome]
      simp only [hPerm.mem_iff]
    unfold FirstAccepted
    cases hFind : items.find? eligible with
    | none =>
      rw [hFind, Option.isSome_none, Option.isSome_eq_false_iff, Option.isNone_iff_eq_none] at hSome
      rw [hSome]
    | some item =>
      rw [hFind, Option.isSome_some, Option.isSome_iff_exists] at hSome
      rcases hSome with ⟨item', hFind'⟩
      rw [hFind']
      simp only [Option.some.injEq, exists_eq_left']
      have hItem := mem_of_find?_eq_some hFind
      have hItem' := hPerm.mem_iff.mp (mem_of_find?_eq_some hFind')
      rcases hAgree with hAll | hNone
      · exact iff_of_true (hAll item' hItem' (find?_some hFind'))
          (hAll item hItem (find?_some hFind))
      · exact iff_of_false (hNone item' hItem' (find?_some hFind'))
          (hNone item hItem (find?_some hFind))

end PamOlive.Foundations
