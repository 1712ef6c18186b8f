import Mathlib.Data.List.Basic

/-
  Containers whose values of one kind can be listed and replaced, in a fixed order.

  What is put in is found there afterwards, and putting back what was found changes nothing.
  Traversals of the parts make up one of the whole, as long as the parts are apart.
-/

---- Traversals

namespace PamOlive.Foundations

structure Traversal (σ α : Type) where
  get : σ → List α
  put : List α → σ → σ
  get_put : ∀ values whole, values.length = (get whole).length → get (put values whole) = values
  put_get : ∀ whole, put (get whole) whole = whole

namespace Traversal

open List

variable {σ τ α : Type}

def field (value : σ → α) (write : α → σ → σ) (hValue : ∀ new whole, value (write new whole) = new)
    (hWrite : ∀ whole, write (value whole) whole = whole) :
    Traversal σ α where
  get := fun whole => [value whole]
  put := fun values whole =>
    match values with
    | [new] => write new whole
    | _ => whole
  get_put := by
    intro values whole hLength
    rcases length_eq_one_iff.mp hLength with ⟨new, rfl⟩
    exact congrArg (fun found => [found]) (hValue new whole)
  put_get := hWrite

/- What writing the value keeps, replacing it keeps. -/
theorem field_put_keeps {β : Type} {value : σ → α} {write : α → σ → σ}
    {hValue : ∀ new whole, value (write new whole) = new}
    {hWrite : ∀ whole, write (value whole) whole = whole} {kept : σ → β}
    (hKept : ∀ new whole, kept (write new whole) = kept whole) (values : List α) (whole : σ) :
    kept ((field value write hValue hWrite).put values whole) = kept whole := by
  unfold field
  dsimp only
  split
  · exact hKept _ whole
  · rfl

/- Two traversals that do not touch each other's values. -/
structure Apart (first second : Traversal σ α) : Prop where
  left : ∀ values whole, first.get (second.put values whole) = first.get whole
  right : ∀ values whole, second.get (first.put values whole) = second.get whole

def append (first second : Traversal σ α) (hApart : Apart first second) : Traversal σ α where
  get := fun whole => first.get whole ++ second.get whole
  put := fun values whole =>
    second.put (values.drop (first.get whole).length)
      (first.put (values.take (first.get whole).length) whole)
  get_put := by
    intro values whole hLength
    rw [length_append] at hLength
    have hFirst : (values.take (first.get whole).length).length = (first.get whole).length := by
      rw [length_take]
      omega
    have hSecond : (values.drop (first.get whole).length).length =
      (second.get (first.put (values.take (first.get whole).length) whole)).length := by
      rw [length_drop, hApart.right]
      omega
    rw [hApart.left, first.get_put _ _ hFirst, second.get_put _ _ hSecond, take_append_drop]
  put_get := by
    intro whole
    rw [take_left, drop_left, first.put_get, second.put_get]

---- Rows And Tables

def putRows (row : Traversal σ α) : List α → List σ → List σ
| _, [] => []
| values, first :: rest =>
  row.put (values.take (row.get first).length) first ::
    putRows row (values.drop (row.get first).length) rest

theorem get_putRows (row : Traversal σ α) (values : List α) (rows : List σ)
    (hLength : values.length = (rows.flatMap row.get).length) :
    (putRows row values rows).flatMap row.get = values := by
  induction rows generalizing values with
  | nil => exact (length_eq_zero_iff.mp hLength).symm
  | cons first rest ih =>
    rw [flatMap_cons, length_append] at hLength
    have hFirst : (values.take (row.get first).length).length = (row.get first).length := by
      rw [length_take]
      omega
    have hRest : (values.drop (row.get first).length).length = (rest.flatMap row.get).length := by
      rw [length_drop]
      omega
    rw [putRows, flatMap_cons, row.get_put _ _ hFirst, ih _ hRest, take_append_drop]

theorem putRows_get (row : Traversal σ α) (rows : List σ) :
    putRows row (rows.flatMap row.get) rows = rows := by
  induction rows with
  | nil => rfl
  | cons first rest ih =>
    rw [putRows, flatMap_cons, take_left, drop_left, row.put_get, ih]

def rows (row : Traversal σ α) : Traversal (List σ) α where
  get := fun table => table.flatMap row.get
  put := putRows row
  get_put := get_putRows row
  put_get := putRows_get row

def within (part : σ → τ) (replace : τ → σ → σ)
    (hPart : ∀ new whole, part (replace new whole) = new)
    (hReplace : ∀ whole, replace (part whole) whole = whole)
    (inner : Traversal τ α) : Traversal σ α where
  get := fun whole => inner.get (part whole)
  put := fun values whole =>
    replace (inner.put values (part whole)) whole
  get_put := by
    intro values whole hLength
    rw [hPart, inner.get_put _ _ hLength]
  put_get := by
    intro whole
    rw [inner.put_get, hReplace]

end Traversal

end PamOlive.Foundations
