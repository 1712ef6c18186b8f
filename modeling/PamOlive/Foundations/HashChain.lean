import Mathlib.Data.List.Basic
import Mathlib.Data.List.Induction
import Mathlib.Logic.Function.Basic

/-
  Hash chains over arbitrary rows.

  Rows are linked when each names the hash before it, and numbered when their numbers count up by
  one. Where the hash of a row determines its body, the last hash commits to all bodies.
-/

---- Links

namespace PamOlive.Foundations.HashChain

open List

variable {Row Hash Body : Type} (previous current : Row → Hash)

/- Every row names the hash in front of it; the rows lead from a starting hash to a last one. -/
def Linked : Hash → List Row → Hash → Prop
| start, [], last => start = last
| start, row :: rest, last => previous row = start ∧ Linked (current row) rest last

theorem linked_concat (start last : Hash) (rows : List Row) (row : Row) :
    Linked previous current start (rows ++ [row]) last ↔
      Linked previous current start rows (previous row) ∧ current row = last := by
  induction rows generalizing start with
  | nil =>
    constructor
    all_goals
      rintro ⟨hPrevious, hLast⟩
      exact ⟨hPrevious.symm, hLast⟩
  | cons first rest ih => simp only [cons_append, Linked, ih, and_assoc]

variable {rows : List Row} {body : Row → Body}
variable {edit : Row → Row} {rows' : List Row} {start last : Hash}

/-
  Where equal hashes mean equal bodies, and a body includes the previous hash, linked lists of one
  length that end in the same hash have the same bodies.
-/
theorem map_body_eq_of_linked
    (hPrevious : ∀ row row', body row = body row' → previous row = previous row')
    {start' : Hash} (hLength : rows.length = rows'.length)
    (hCommits : ∀ row ∈ rows, ∀ row' ∈ rows', current row = current row' → body row = body row')
    (hLinked : Linked previous current start rows last)
    (hLinked' : Linked previous current start' rows' last) : rows.map body = rows'.map body := by
  induction rows using reverseRecOn generalizing rows' last with
  | nil =>
    have hNil : rows' = [] := by simpa using hLength.symm
    rw [hNil]
  | append_singleton rows row ih =>
    rcases eq_nil_or_concat rows' with rfl | ⟨rows', row', rfl⟩
    · simp at hLength
    rw [concat_eq_append] at *
    rw [linked_concat] at hLinked hLinked'
    have hRow : body row = body row' := by
      apply hCommits row (by simp) row' (by simp)
      rw [hLinked.2, hLinked'.2]
    have hRows : rows.map body = rows'.map body := by
      apply ih (by simpa using hLength) _ hLinked.1
      · rw [hPrevious row row' hRow]
        exact hLinked'.1
      · intro r hr r' hr'
        exact hCommits r (by simp [hr]) r' (by simp [hr'])
    simp [hRow, hRows]

theorem linked_map (hPrevious : ∀ row, previous (edit row) = previous row)
    (hCurrent : ∀ row, current (edit row) = current row) (start last : Hash) (rows : List Row) :
    Linked previous current start (rows.map edit) last ↔
      Linked previous current start rows last := by
  induction rows generalizing start with
  | nil => rfl
  | cons row rest ih => simp only [map_cons, Linked, hPrevious, hCurrent, ih]

---- Numbering

variable (sequence : Row → Nat)

/- Sequence numbers that count up from a given number. -/
def Numbered : Nat → List Row → Prop
| _, [] => True
| number, row :: rest => sequence row = number + 1 ∧ Numbered (number + 1) rest

theorem numbered_concat (number : Nat) (rows : List Row) (row : Row) :
    Numbered sequence number (rows ++ [row]) ↔
      Numbered sequence number rows ∧ sequence row = number + rows.length + 1 := by
  induction rows generalizing number with
  | nil => simp [Numbered]
  | cons first rest ih =>
    simp only [cons_append, Numbered, ih, length_cons, and_assoc]
    have hShift : number + 1 + rest.length + 1 = number + (rest.length + 1) + 1 := by omega
    rw [hShift]

theorem numbered_map (hSequence : ∀ row, sequence (edit row) = sequence row)
    (number : Nat) (rows : List Row) :
    Numbered sequence number (rows.map edit) ↔ Numbered sequence number rows := by
  induction rows generalizing number with
  | nil => rfl
  | cons row rest ih => simp only [map_cons, Numbered, hSequence, ih]

variable {number : Nat}

section

variable (hNumbered : Numbered sequence number rows)

include hNumbered

theorem Numbered.lt_of_mem {row : Row} (hMem : row ∈ rows) : number < sequence row := by
  induction rows generalizing number with
  | nil => simp at hMem
  | cons first rest ih =>
    rcases hNumbered with ⟨hFirst, hRest⟩
    rcases mem_cons.mp hMem with rfl | hTail
    · omega
    · have hLater := ih hRest hTail
      omega

theorem Numbered.pairwise : rows.Pairwise (fun row row' => sequence row < sequence row') := by
  induction rows generalizing number with
  | nil => exact Pairwise.nil
  | cons first rest ih =>
    rcases hNumbered with ⟨hFirst, hRest⟩
    apply Pairwise.cons
    · intro row hMem
      have hLater := hRest.lt_of_mem sequence hMem
      omega
    · exact ih hRest

theorem Numbered.map_eq : rows.map sequence = range' (number + 1) rows.length := by
  induction rows generalizing number with
  | nil => rfl
  | cons first rest ih =>
    rcases hNumbered with ⟨hFirst, hRest⟩
    simp [range'_succ, hFirst, ih hRest]

/-
  Where the body of a row includes its number, and no row has the starting hash, numbered lists
  that are linked from one hash to another have one length.
-/
theorem length_eq_of_linked
    (hSequence : ∀ row row', body row = body row' → sequence row = sequence row')
    (hCommits : ∀ row ∈ rows, ∀ row' ∈ rows', current row = current row' → body row = body row')
    (hFresh : ∀ row ∈ rows, current row ≠ start) (hFresh' : ∀ row ∈ rows', current row ≠ start)
    (hNumbered' : Numbered sequence number rows')
    (hLinked : Linked previous current start rows last)
    (hLinked' : Linked previous current start rows' last) : rows.length = rows'.length := by
  rcases eq_nil_or_concat rows with rfl | ⟨front, row, rfl⟩
  · rcases eq_nil_or_concat rows' with rfl | ⟨front', row', rfl⟩
    · rfl
    · rw [concat_eq_append] at *
      rw [linked_concat] at hLinked'
      exact absurd (hLinked'.2.trans hLinked.symm) (hFresh' row' (by simp))
  · rw [concat_eq_append] at *
    rw [linked_concat] at hLinked
    rcases eq_nil_or_concat rows' with rfl | ⟨front', row', rfl⟩
    · exact absurd (hLinked.2.trans hLinked'.symm) (hFresh row (by simp))
    rw [concat_eq_append] at *
    rw [linked_concat] at hLinked'
    have hBody : body row = body row' := by
      apply hCommits row (by simp) row' (by simp)
      rw [hLinked.2, hLinked'.2]
    have hNumber := hSequence row row' hBody
    have hRow := ((numbered_concat _ _ _ _).mp hNumbered).2
    have hRow' := ((numbered_concat _ _ _ _).mp hNumbered').2
    simp only [length_append, length_singleton]
    omega

end

end PamOlive.Foundations.HashChain
