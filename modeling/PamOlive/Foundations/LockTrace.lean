import PamOlive.Foundations.Locking

/-
  The locks that a transaction asks for.

  A locking statement asks for several rows at once; a row that refers to others makes its
  transaction owe key shares, taken at some time before the end.

  Main declarations:
    * `Demand` and `Arranged`
    * `Orderly` and `Orderly.ordered`
-/

---- Demands

namespace PamOlive.Foundations

open List

variable {Row : Type}

inductive Demand (Row : Type) where
  | lock (requests : List (Request Row))
  | refer (requests : List (Request Row))

/-
  The programs that meet a list of demands, with the key shares owed so far. The rows of one
  statement come in any order, and a key share at any time after it is owed, or never.
-/
inductive Arranged : List (Demand Row) → List (Request Row) → List (Request Row) → Prop
  | stop {owed : List (Request Row)} : Arranged [] owed []
  | lock {requests order owed program : List (Request Row)} {demands : List (Demand Row)}
    (hOrder : order.Perm requests)
    (hRest : Arranged demands owed program) :
    Arranged (.lock requests :: demands) owed (order ++ program)
  | refer {requests owed program : List (Request Row)} {demands : List (Demand Row)}
    (hRest : Arranged demands (owed ++ requests) program) :
    Arranged (.refer requests :: demands) owed program
  | share {owed others program : List (Request Row)} {demands : List (Demand Row)}
    {request : Request Row}
    (hOwed : owed.Perm (request :: others))
    (hRest : Arranged demands others program) :
    Arranged demands owed (request :: program)

/- The order of deferred constraints: rows as listed, and all key shares at the commit. -/
def commitOrder : List (Demand Row) → List (Request Row) → List (Request Row)
| [], owed => owed
| .lock requests :: demands, owed => requests ++ commitOrder demands owed
| .refer requests :: demands, owed => commitOrder demands (owed ++ requests)

theorem arranged_nil (owed : List (Request Row)) : Arranged [] owed owed := by
  induction owed with
  | nil => exact .stop
  | cons request others ih => exact .share (Perm.refl _) ih

theorem commitOrder_arranged (demands : List (Demand Row)) (owed : List (Request Row)) :
    Arranged demands owed (commitOrder demands owed) := by
  induction demands generalizing owed with
  | nil => exact arranged_nil owed
  | cons demand demands ih =>
    cases demand with
    | lock requests => exact .lock (Perm.refl requests) (ih owed)
    | refer requests => exact .refer (ih (owed ++ requests))

---- Orderly Demands

/- Demands whose statements lock one row each, with growing ranks. `mine` are the earlier locks. -/
inductive Orderly (rank : Row → ℕ) (Free : Row → Prop) :
    ℕ → List (Request Row) → List (Demand Row) → Prop
  | nil {low : ℕ} {mine : List (Request Row)} : Orderly rank Free low mine []
  | lock {low : ℕ} {mine : List (Request Row)} {request : Request Row} {demands : List (Demand Row)}
    (hWrites : request.Writes)
    (hTaken : ¬ Free request.row)
    (hLow : low ≤ rank request.row)
    (hRest : Orderly rank Free (rank request.row + 1) (request :: mine) demands) :
    Orderly rank Free low mine (.lock [request] :: demands)
  | refer {low : ℕ} {mine requests : List (Request Row)} {demands : List (Demand Row)} (hShares :
    ∀ request ∈ requests, ¬ request.Writes ∧ (Free request.row ∨ ⟨request.row, .update⟩ ∈ mine))
    (hRest : Orderly rank Free low mine demands) :
    Orderly rank Free low mine (.refer requests :: demands)

section Orders

variable {rank : Row → ℕ} {Free : Row → Prop} {taken mine owed program : List (Request Row)}
variable {demands : List (Demand Row)}
variable {request : Request Row}

/- One more lock at the end of an ordered program. -/
theorem Ordered.snoc (hOrdered : Ordered rank Free taken)
    (hWrite : request.Writes → ¬ Free request.row ∧
          ∀ earlier ∈ taken, earlier.Writes → rank earlier.row < rank request.row)
    (hShare : ¬ request.Writes → Free request.row ∨ ⟨request.row, .update⟩ ∈ taken) :
    Ordered rank Free (taken ++ [request]) := by
  refine ⟨?_, ?_, ?_⟩
  · rw [pairwise_append]
    refine ⟨hOrdered.climbs, pairwise_singleton _ _, ?_⟩
    intro earlier hEarlier last hLast hFirst hSecond
    rw [mem_singleton] at hLast
    subst hLast
    exact (hWrite hSecond).2 earlier hEarlier hFirst
  · intro other hOther hWrites
    rcases mem_append.mp hOther with hOld | hNew
    · exact hOrdered.writes other hOld hWrites
    · rw [mem_singleton] at hNew
      subst hNew
      exact (hWrite hWrites).1
  · intro before other rest hSplit hOther
    rcases rest.eq_nil_or_concat with rfl | ⟨init, last, rfl⟩
    · rcases append_inj' hSplit rfl with ⟨rfl, hSame⟩
      cases hSame
      exact hShare hOther
    · have hSplit' : taken ++ [request] = (before ++ other :: init) ++ [last] := by
        rw [hSplit, concat_eq_append, append_assoc, cons_append]
      rcases append_inj' hSplit' rfl with ⟨hTaken, _⟩
      exact hOrdered.shares before other init hTaken hOther

/-
  Where an orderly transaction stands: what it took is ordered and below the ranks to come, what
  its statements locked is taken, and it owes key shares.
-/
structure Standing (rank : Row → ℕ) (Free : Row → Prop) (low : ℕ)
    (mine owed taken : List (Request Row)) : Prop where
  ordered : Ordered rank Free taken
  below : ∀ request ∈ taken, request.Writes → rank request.row < low
  keeps : ∀ request ∈ mine, request ∈ taken
  owes : ∀ request ∈ owed, ¬ request.Writes ∧ (Free request.row ∨ ⟨request.row, .update⟩ ∈ mine)

variable {low : ℕ}

section

variable (hStanding : Standing rank Free low mine owed taken)

include hStanding

theorem Standing.lock
    (hWrites : request.Writes) (hTaken : ¬ Free request.row) (hLow : low ≤ rank request.row) :
    Standing rank Free (rank request.row + 1) (request :: mine) owed (taken ++ [request]) := by
  refine ⟨?_, ?_, ?_, ?_⟩
  · refine hStanding.ordered.snoc ?_ ?_
    · intro _
      refine ⟨hTaken, ?_⟩
      intro earlier hEarlier hEarlierWrites
      have hLess := hStanding.below earlier hEarlier hEarlierWrites
      omega
    · intro hShare
      exact absurd hWrites hShare
  · intro other hOther hOtherWrites
    rcases mem_append.mp hOther with hOld | hNew
    · have hLess := hStanding.below other hOld hOtherWrites
      omega
    · rw [mem_singleton] at hNew
      subst hNew
      omega
  · intro other hOther
    rcases mem_cons.mp hOther with rfl | hOther
    · exact mem_append_right _ mem_cons_self
    · exact mem_append_left _ (hStanding.keeps other hOther)
  · intro other hOther
    refine ⟨(hStanding.owes other hOther).1, ?_⟩
    exact (hStanding.owes other hOther).2.imp_right (mem_cons_of_mem _)

variable {requests : List (Request Row)}

theorem Standing.refer (hShares :
    ∀ request ∈ requests, ¬ request.Writes ∧ (Free request.row ∨ ⟨request.row, .update⟩ ∈ mine)) :
    Standing rank Free low mine (owed ++ requests) taken := by
  refine { hStanding with owes := ?_ }
  intro request hRequest
  rcases mem_append.mp hRequest with hOld | hNew
  · exact hStanding.owes request hOld
  · exact hShares request hNew

theorem Standing.share {others : List (Request Row)} (hOwed : owed.Perm (request :: others)) :
    Standing rank Free low mine others (taken ++ [request]) := by
  have hRequest := hStanding.owes request (hOwed.mem_iff.mpr mem_cons_self)
  refine ⟨?_, ?_, ?_, ?_⟩
  · refine hStanding.ordered.snoc ?_ ?_
    · intro hWrites
      exact absurd hWrites hRequest.1
    · intro _
      exact hRequest.2.imp_right (hStanding.keeps _)
  · intro other hOther hWrites
    rcases mem_append.mp hOther with hOld | hNew
    · exact hStanding.below other hOld hWrites
    · rw [mem_singleton] at hNew
      subst hNew
      exact absurd hWrites hRequest.1
  · intro other hOther
    exact mem_append_left _ (hStanding.keeps other hOther)
  · intro other hOther
    exact hStanding.owes other (hOwed.mem_iff.mpr (mem_cons_of_mem _ hOther))

theorem Standing.ordered_append (hOrderly : Orderly rank Free low mine demands)
    (hArranged : Arranged demands owed program) : Ordered rank Free (taken ++ program) := by
  induction hArranged generalizing low mine taken with
  | stop =>
    rw [append_nil]
    exact hStanding.ordered
  | lock hOrder _ ih =>
    cases hOrderly with
    | lock hWrites hTaken hLow hRest =>
      rw [perm_singleton.mp hOrder, ← append_assoc]
      exact ih (hStanding.lock hWrites hTaken hLow) hRest
  | refer _ ih =>
    cases hOrderly with
    | refer hShares hRest => exact ih (hStanding.refer hShares) hRest
  | share hOwed _ ih =>
    rw [← singleton_append, ← append_assoc]
    exact ih (hStanding.share hOwed) hOrderly

end

theorem Orderly.ordered (hOrderly : Orderly rank Free low [] demands)
    (hArranged : Arranged demands [] program) : Ordered rank Free program := by
  have hStart : Standing rank Free low [] [] [] := by
    refine ⟨⟨Pairwise.nil, ?_, ?_⟩, ?_, ?_, ?_⟩
    · intro request hRequest
      exact absurd hRequest not_mem_nil
    · intro before request rest hSplit
      simp at hSplit
    all_goals
      intro request hRequest
      exact absurd hRequest not_mem_nil
  exact hStart.ordered_append hOrderly hArranged

end Orders

end PamOlive.Foundations
