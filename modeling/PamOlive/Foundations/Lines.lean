import Mathlib.Data.List.Basic
import Mathlib.Data.List.TakeWhile

/-
  Splitting a sequence at break symbols.

  `splitRuns` cuts at maximal runs of breaks, as a split on `[...]+` does. `closedFrom` collects
  the segments that a break has closed, and `openFrom` is the one still open. The two are folds,
  which compose over concatenation and agree with `splitRuns` on segments that are not empty.
-/

---- Segments

namespace PamOlive.Foundations.Lines

open List

variable {α : Type} (isBreak : α → Bool)

/- Given the segment read so far and whether the last symbol read was a break. -/
def splitRunsFrom : Bool → List α → List α → List (List α)
| _, current, [] => [current]
| inRun, current, symbol :: rest =>
  if isBreak symbol then
    if inRun then splitRunsFrom true [] rest
    else current :: splitRunsFrom true [] rest
  else splitRunsFrom false (current ++ [symbol]) rest

/- Split a sequence at its maximal runs of breaks. -/
def splitRuns (symbols : List α) : List (List α) := splitRunsFrom isBreak false [] symbols

/- The segments closed by a break, given the open one. -/
def closedFrom : List α → List α → List (List α)
| _, [] => []
| current, symbol :: rest =>
  if isBreak symbol then current :: closedFrom [] rest
  else closedFrom (current ++ [symbol]) rest

/- The segment left open, given the one open before. -/
def openFrom : List α → List α → List α
| current, [] => current
| current, symbol :: rest =>
  if isBreak symbol then openFrom [] rest
  else openFrom (current ++ [symbol]) rest

---- Concatenation

@[simp] theorem closedFrom_nil (current : List α) : closedFrom isBreak current [] = [] := rfl

@[simp] theorem openFrom_nil (current : List α) : openFrom isBreak current [] = current := rfl

theorem openFrom_append (current first second : List α) :
    openFrom isBreak current (first ++ second) =
      openFrom isBreak (openFrom isBreak current first) second := by
  induction first generalizing current with
  | nil => rfl
  | cons symbol rest ih =>
    by_cases hBreak : isBreak symbol = true <;> simp [openFrom, hBreak, ih]

theorem closedFrom_append (current first second : List α) :
    closedFrom isBreak current (first ++ second) = closedFrom isBreak current first ++
      closedFrom isBreak (openFrom isBreak current first) second := by
  induction first generalizing current with
  | nil => rfl
  | cons symbol rest ih =>
    by_cases hBreak : isBreak symbol = true <;> simp [closedFrom, openFrom, hBreak, ih]

variable {symbols current : List α}

theorem closedFrom_of_forall_not (hClean : ∀ symbol ∈ symbols, isBreak symbol = false) :
    closedFrom isBreak current symbols = [] := by
  induction symbols generalizing current with
  | nil => rfl
  | cons symbol rest ih =>
    rw [forall_mem_cons] at hClean
    simp [closedFrom, hClean.1, ih hClean.2]

theorem openFrom_of_forall_not (hClean : ∀ symbol ∈ symbols, isBreak symbol = false) :
    openFrom isBreak current symbols = current ++ symbols := by
  induction symbols generalizing current with
  | nil => simp
  | cons symbol rest ih =>
    rw [forall_mem_cons] at hClean
    simp [openFrom, hClean.1, ih hClean.2]

theorem openFrom_clean (hCurrent : ∀ s ∈ current, isBreak s = false) :
    ∀ s ∈ openFrom isBreak current symbols, isBreak s = false := by
  induction symbols generalizing current with
  | nil => exact hCurrent
  | cons symbol rest ih =>
    by_cases hBreak : isBreak symbol = true
    · simp only [openFrom, hBreak, if_true]
      exact ih (by simp)
    · simp only [openFrom, hBreak]
      exact ih (forall_mem_append.mpr ⟨hCurrent, by simpa using hBreak⟩)

theorem closedFrom_eq_closedFrom_nil (hCurrent : ∀ s ∈ current, isBreak s = false) :
    closedFrom isBreak current symbols = closedFrom isBreak [] (current ++ symbols) := by
  rw [closedFrom_append, closedFrom_of_forall_not isBreak hCurrent,
    openFrom_of_forall_not isBreak hCurrent]
  simp

theorem openFrom_eq_openFrom_nil (hBreak : ∃ symbol ∈ symbols, isBreak symbol = true)
    (current : List α) : openFrom isBreak current symbols = openFrom isBreak [] symbols := by
  induction symbols generalizing current with
  | nil => simp at hBreak
  | cons first rest ih =>
    by_cases hFirst : isBreak first = true
    · simp [openFrom, hFirst]
    · have hRest : ∃ symbol ∈ rest, isBreak symbol = true := by
        simpa [hFirst] using hBreak
      rw [openFrom, if_neg hFirst, openFrom, if_neg hFirst, ih hRest, ih hRest ([] ++ [first])]

---- Agreement With Splitting At Runs

variable {keep : List α → Bool}

/-
  Splitting at runs ends in the open segment, and keeps those of `closedFrom` before it that are
  not empty.
-/
theorem splitRunsFrom_eq (hEmpty : keep [] = false) (inRun : Bool) (current : List α)
    (hRun : inRun = true → current = []) (symbols : List α) :
    ∃ closed, splitRunsFrom isBreak inRun current symbols =
      closed ++ [openFrom isBreak current symbols] ∧
      closed.filter keep = (closedFrom isBreak current symbols).filter keep := by
  induction symbols generalizing inRun current with
  | nil => exact ⟨[], by simp [splitRunsFrom], rfl⟩
  | cons symbol rest ih =>
    by_cases hBreak : isBreak symbol = true
    · rcases ih true [] (fun _ => rfl) with ⟨closed, hSplit, hKeep⟩
      cases inRun with
      | true =>
        refine ⟨closed, ?_, ?_⟩
        · simp [splitRunsFrom, openFrom, hBreak, hSplit]
        · simp [closedFrom, hBreak, hKeep, hRun rfl, hEmpty]
      | false =>
        refine ⟨current :: closed, ?_, ?_⟩
        · simp [splitRunsFrom, openFrom, hBreak, hSplit]
        · simp [closedFrom, hBreak, hKeep, filter_cons]
    · rcases ih false (current ++ [symbol]) (fun h => by simp at h) with ⟨closed, hSplit, hKeep⟩
      refine ⟨closed, ?_, ?_⟩
      · simp [splitRunsFrom, openFrom, hBreak, hSplit]
      · simp [closedFrom, hBreak, hKeep]

theorem mem_of_mem_splitRunsFrom {inRun : Bool} {segment : List α} {symbol : α}
    (hMem : segment ∈ splitRunsFrom isBreak inRun current symbols) (hSymbol : symbol ∈ segment) :
    symbol ∈ current ∨ symbol ∈ symbols := by
  induction symbols generalizing inRun current with
  | nil => exact .inl (mem_singleton.mp hMem ▸ hSymbol)
  | cons first rest ih =>
    unfold splitRunsFrom at hMem
    grind

theorem filter_splitRuns (hEmpty : keep [] = false) (symbols : List α) :
    (splitRuns isBreak symbols).filter keep =
      (closedFrom isBreak [] symbols).filter keep ++ [openFrom isBreak [] symbols].filter keep := by
  rcases splitRunsFrom_eq isBreak hEmpty false [] (fun _ => rfl) symbols with
    ⟨closed, hSplit, hKeep⟩
  rw [splitRuns, hSplit, filter_append, hKeep]

theorem filter_dropLast_splitRuns (hEmpty : keep [] = false) (symbols : List α) :
    (splitRuns isBreak symbols).dropLast.filter keep =
      (closedFrom isBreak [] symbols).filter keep := by
  rcases splitRunsFrom_eq isBreak hEmpty false [] (fun _ => rfl) symbols with
    ⟨closed, hSplit, hKeep⟩
  rw [splitRuns, hSplit, dropLast_concat, hKeep]

---- Words

/- What stands between breaks, as `str.split()` gives it. -/
def words (symbols : List α) : List (List α) :=
  (splitRuns isBreak symbols).filter (fun segment => !segment.isEmpty)

theorem closedFrom_clean {segment : List α} (hCurrent : ∀ s ∈ current, isBreak s = false)
    (hMem : segment ∈ closedFrom isBreak current symbols) : ∀ s ∈ segment, isBreak s = false := by
  induction symbols generalizing current with
  | nil => exact absurd hMem not_mem_nil
  | cons symbol rest ih =>
    by_cases hBreak : isBreak symbol = true
    · simp only [closedFrom, hBreak, if_true, mem_cons] at hMem
      rcases hMem with rfl | hRest
      · exact hCurrent
      · exact ih (by simp) hRest
    · simp only [closedFrom, hBreak] at hMem
      exact ih (forall_mem_append.mpr ⟨hCurrent, by simpa using hBreak⟩) hMem

theorem words_eq (symbols : List α) : words isBreak symbols = (closedFrom isBreak [] symbols ++
    [openFrom isBreak [] symbols]).filter (fun segment => !segment.isEmpty) := by
  unfold words
  rw [filter_splitRuns isBreak rfl, filter_append]

theorem mem_words {word : List α} (hMem : word ∈ words isBreak symbols) :
    word ≠ [] ∧ ∀ s ∈ word, isBreak s = false := by
  rw [words_eq, mem_filter, mem_append, mem_singleton] at hMem
  rcases hMem with ⟨hIn, hKept⟩
  constructor
  · rintro rfl
    exact absurd hKept Bool.false_ne_true
  · rcases hIn with hClosed | rfl
    · exact closedFrom_clean isBreak (forall_mem_nil _) hClosed
    · exact openFrom_clean isBreak (forall_mem_nil _)

variable {separator : α} {first second : List α}

theorem words_break_cons (hBreak : isBreak separator = true) (second : List α) :
    words isBreak (separator :: second) = words isBreak second := by
  simp [words_eq, closedFrom, openFrom, hBreak]

section

variable (hFirst : first ≠ [] ∧ ∀ s ∈ first, isBreak s = false)

include hFirst

theorem words_append (hBreak : isBreak separator = true) :
    words isBreak (first ++ separator :: second) = first :: words isBreak second := by
  rw [words_eq, closedFrom_append, openFrom_append, closedFrom_of_forall_not isBreak hFirst.2,
    openFrom_of_forall_not isBreak hFirst.2]
  simp [words_eq, closedFrom, openFrom, hBreak, hFirst.1]

theorem words_singleton : words isBreak first = [first] := by
  rw [words_eq, closedFrom_of_forall_not isBreak hFirst.2, openFrom_of_forall_not isBreak hFirst.2]
  simp [hFirst.1]

end

theorem mem_of_mem_words {word : List α} {symbol : α} (hMem : word ∈ words isBreak symbols)
    (hSymbol : symbol ∈ word) : symbol ∈ symbols :=
  (mem_of_mem_splitRunsFrom isBreak (mem_filter.mp hMem).1 hSymbol).resolve_left not_mem_nil

---- The First Word

def firstWord (symbols : List α) : List α :=
  (symbols.dropWhile isBreak).takeWhile (fun s => !isBreak s)

def afterFirstWord (symbols : List α) : List α :=
  (symbols.dropWhile isBreak).dropWhile (fun s => !isBreak s)

theorem mem_firstWord_or_after {symbol : α} (hMem : symbol ∈ symbols) :
    isBreak symbol = true ∨ symbol ∈ firstWord isBreak symbols ∨
      symbol ∈ afterFirstWord isBreak symbols := by
  rw [← @List.takeWhile_append_dropWhile _ isBreak symbols, mem_append] at hMem
  rcases hMem with hFront | hRest
  · exact .inl (mem_takeWhile_imp hFront)
  · rw [← @List.takeWhile_append_dropWhile _ (fun s => !isBreak s) (symbols.dropWhile isBreak),
    mem_append] at hRest
    exact .inr hRest

theorem mem_afterFirstWord {front back : List α} {symbol : α}
    (hFront : ∃ s ∈ front, isBreak s = false) (hBreak : isBreak separator = true)
    (hMem : symbol ∈ back) : symbol ∈ afterFirstWord isBreak (front ++ separator :: back) := by
  rcases hFront with ⟨s, hIn, hWord⟩
  have hNonempty : front.dropWhile isBreak ≠ [] := by
    intro hNil
    rw [dropWhile_eq_nil_iff] at hNil
    rw [hNil s hIn] at hWord
    exact Bool.noConfusion hWord
  unfold afterFirstWord
  rw [List.dropWhile_append, if_neg (by rw [List.isEmpty_iff]; exact hNonempty), dropWhile_append]
  split
  · rw [dropWhile_cons_of_neg (by simp [hBreak])]
    exact mem_cons_of_mem separator hMem
  · exact mem_append_right _ (mem_cons_of_mem separator hMem)

theorem field_prefix {rest rest' : List α} (hFirst : separator ∉ first)
    (hSecond : separator ∉ second)
    (hPrefix : first ++ separator :: rest <+: second ++ separator :: rest') :
    first = second ∧ rest <+: rest' := by
  induction first generalizing second with
  | nil =>
    cases second with
    | nil =>
      rw [nil_append, nil_append, cons_prefix_cons] at hPrefix
      exact ⟨rfl, hPrefix.2⟩
    | cons symbol tail =>
      rw [nil_append, cons_append, cons_prefix_cons] at hPrefix
      rw [hPrefix.1] at hSecond
      exact absurd mem_cons_self hSecond
  | cons symbol tail ih =>
    cases second with
    | nil =>
      rw [cons_append, nil_append, cons_prefix_cons] at hPrefix
      rw [hPrefix.1] at hFirst
      exact absurd mem_cons_self hFirst
    | cons symbol' tail' =>
      rw [cons_append, cons_append, cons_prefix_cons] at hPrefix
      have hTail := ih (fun hMem => hFirst (mem_cons_of_mem symbol hMem))
        (fun hMem => hSecond (mem_cons_of_mem symbol' hMem))
        hPrefix.2
      exact ⟨by rw [hPrefix.1, hTail.1], hTail.2⟩

end PamOlive.Foundations.Lines
