import Mathlib.Algebra.Order.Group.Defs
import Mathlib.Algebra.Order.Sub.Basic
import Mathlib.Data.List.TakeWhile

/-
  A limiter with a sliding window.

  It keeps the instants of admitted calls that are in the window, and refuses a call if there are
  too many. Calls that never go back are all admitted exactly if each is a window after the one a
  full limit before it.
-/

---- The Limiter

namespace PamOlive.Foundations.SlidingWindow

open List

variable {Time : Type} [LinearOrder Time]

/- The admitted instants after a cutoff. -/
def keptAfter (cutoff : Time) (admitted : List Time) : List Time :=
  admitted.dropWhile (fun time => decide (time ≤ cutoff))

def offer (limit : Nat) (cutoff now : Time) (admitted : List Time) : Bool × List Time :=
  let kept := keptAfter cutoff admitted
  if limit ≤ kept.length then (false, kept)
  else (true, kept ++ [now])

variable [AddCommGroup Time]

def acquire (limit : Nat) (window now : Time) (admitted : List Time) : Bool × List Time :=
  offer limit (now - window) now admitted

def acquireAll (limit : Nat) (window : Time) : List Time → List Time → Option (List Time)
| [], admitted => some admitted
| now :: rest, admitted =>
  match acquire limit window now admitted with
  | (true, after) => acquireAll limit window rest after
  | (false, _) => none

/- Every call is a window after the one a limit before it. -/
def Spaced (limit : Nat) (window : Time) (times : List Time) : Prop :=
  ∀ index earlier later,
    times[index]? = some earlier → times[index + limit]? = some later → earlier + window ≤ later

variable {times : List Time}

theorem spaced_of_length_le {limit : Nat} {window : Time}
    (hLength : times.length ≤ limit) : Spaced limit window times := by
  intro index earlier later _ hLater
  rw [getElem?_eq_some_iff] at hLater
  rcases hLater with ⟨hIndex, _⟩
  omega

variable {limit : Nat} {window : Time}

theorem countP_le_of_spaced [IsOrderedAddMonoid Time]
    (hSorted : times.Pairwise (· ≤ ·)) (hSpaced : Spaced limit window times) (start : Time) :
    times.countP (fun time => decide (start ≤ time ∧ time < start + window)) ≤ limit := by
  induction times with
  | nil => exact Nat.zero_le _
  | cons first rest ih =>
    by_cases hFirst : start ≤ first
    · -- the interval has begun: a limit later it is over
      have hOver : ∀ time ∈ (first :: rest).drop limit,
        ¬ decide (start ≤ time ∧ time < start + window) = true := by
        intro time hMem
        rcases getElem?_of_mem hMem with ⟨index, hTime⟩
        rw [getElem?_drop, Nat.add_comm] at hTime
        have hIndex : index < (first :: rest).length := by
          have hLess := (List.getElem?_eq_some_iff.mp hTime).1
          omega
        have hLe := hSpaced index _ time (getElem?_eq_getElem hIndex) hTime
        have hStart : start ≤ (first :: rest)[index] := by
          rcases mem_cons.mp (getElem_mem hIndex) with hSame | hLater
          · rw [hSame]
            exact hFirst
          · exact hFirst.trans (rel_of_pairwise_cons hSorted hLater)
        rw [decide_eq_true_eq]
        rintro ⟨_, hLess⟩
        exact absurd (le_trans (add_le_add_left hStart window) hLe) (not_le.mpr hLess)
      conv_lhs => rw [← take_append_drop limit (first :: rest)]
      rw [countP_append, countP_eq_zero.mpr hOver, Nat.add_zero]
      exact countP_le_length.trans (length_take_le _ _)
    · rw [countP_cons_of_neg (by simp [hFirst])]
      refine ih hSorted.of_cons ?_
      intro index earlier later hEarlier hLater
      refine hSpaced (index + 1) earlier later hEarlier ?_
      rw [Nat.add_right_comm]
      exact hLater

---- When All Calls Are Admitted

omit [AddCommGroup Time] in
theorem lt_of_mem_keptAfter {cutoff : Time} {admitted : List Time}
    (hSorted : admitted.Pairwise (· ≤ ·)) : ∀ time ∈ keptAfter cutoff admitted, cutoff < time := by
  intro time hMem
  unfold keptAfter at hMem
  cases hKept : admitted.dropWhile (fun time => decide (time ≤ cutoff)) with
  | nil =>
    rw [hKept] at hMem
    exact absurd hMem not_mem_nil
  | cons first rest =>
    have hHead : ¬ decide (first ≤ cutoff) = true := by
      have hNot := head_dropWhile_not (fun time => decide (time ≤ cutoff))
        (l := admitted) (by rw [hKept]; simp)
      simpa [hKept] using hNot
    rw [decide_eq_true_eq, not_le] at hHead
    have hRest : (first :: rest).Pairwise (· ≤ ·) := by
      rw [← hKept]
      exact hSorted.sublist (dropWhile_sublist _)
    rw [hKept] at hMem
    rcases mem_cons.mp hMem with rfl | hMem
    · exact hHead
    · exact lt_of_lt_of_le hHead (rel_of_pairwise_cons hRest hMem)

/- The admitted instants are the last ones; the others are out of the window of calls to come. -/
def Holds (window : Time) (past admitted future : List Time) : Prop :=
  ∃ dropped, past = dropped ++ admitted ∧ ∀ time ∈ dropped, ∀ now ∈ future, time ≤ now - window

theorem Holds.keptAfter {now : Time} {past admitted rest : List Time}
    (hHolds : Holds window past admitted (now :: rest)) (hFuture : ∀ later ∈ rest, now ≤ later)
    [IsOrderedAddMonoid Time] :
    ∃ dropped, past = dropped ++ keptAfter (now - window) admitted ∧
      (∀ time ∈ dropped, time ≤ now - window) ∧
      ∀ time ∈ dropped, ∀ later ∈ rest, time ≤ later - window := by
  rcases hHolds with ⟨dropped, rfl, hDropped⟩
  let gone := admitted.takeWhile (fun time => decide (time ≤ now - window))
  have hGone : ∀ time ∈ gone, time ≤ now - window := by
    intro time hMem
    have hTaken : decide (time ≤ now - window) = true :=
      mem_takeWhile_imp (p := fun time => decide (time ≤ now - window)) hMem
    exact of_decide_eq_true hTaken
  have hOut : ∀ time ∈ dropped ++ gone, time ≤ now - window := by
    intro time hMem
    rcases mem_append.mp hMem with hOld | hNew
    · exact hDropped time hOld now mem_cons_self
    · exact hGone time hNew
  refine ⟨dropped ++ gone, ?_, hOut, ?_⟩
  · rw [append_assoc]
    exact congrArg (dropped ++ ·) takeWhile_append_dropWhile.symm
  · intro time hMem later hLater
    exact le_trans (hOut time hMem) (sub_le_sub_right (hFuture later hLater) window)

/- Fewer than a limit are kept exactly if the call a limit before is out of the window. -/
theorem length_kept_lt_iff {now : Time} {dropped kept : List Time} (hLimit : 0 < limit)
    (hOut : ∀ time ∈ dropped, time ≤ now - window) (hKept : ∀ time ∈ kept, now - window < time) :
    kept.length < limit ↔ ∀ index earlier, index + limit = (dropped ++ kept).length →
      (dropped ++ kept)[index]? = some earlier → earlier ≤ now - window := by
  rw [length_append]
  constructor
  · intro hLess index earlier hIndex hEarlier
    rw [getElem?_append_left (by omega)] at hEarlier
    exact hOut earlier (mem_of_getElem? hEarlier)
  · intro hAll
    by_contra hFull
    have hBound : kept.length - limit < kept.length := by omega
    have hLe := hAll (dropped.length + (kept.length - limit)) kept[kept.length - limit] (by omega)
      (by rw [getElem?_append_right (Nat.le_add_right _ _), Nat.add_sub_cancel_left,
        getElem?_eq_getElem hBound])
    exact absurd hLe (not_le.mpr (hKept _ (getElem_mem hBound)))

theorem acquireAll_isSome_iff [IsOrderedAddMonoid Time] {past admitted future : List Time}
    (hLimit : 0 < limit) (hSorted : (past ++ future).Pairwise (· ≤ ·))
    (hHolds : Holds window past admitted future) :
    (acquireAll limit window future admitted).isSome ↔
      ∀ index earlier later, past.length ≤ index + limit → (past ++ future)[index]? = some earlier →
        (past ++ future)[index + limit]? = some later → earlier + window ≤ later := by
  induction future generalizing past admitted with
  | nil =>
    refine iff_of_true rfl ?_
    intro index earlier later hIndex _ hLater
    rw [append_nil, getElem?_eq_none hIndex] at hLater
    cases hLater
  | cons now rest ih =>
    have hFuture : ∀ later ∈ rest, now ≤ later := fun later =>
      rel_of_pairwise_cons (pairwise_append.mp hSorted).2.1
    have hAdmitted : admitted.Pairwise (· ≤ ·) := by
      rcases hHolds with ⟨dropped, rfl, _⟩
      exact (pairwise_append.mp (pairwise_append.mp hSorted).1).2.1
    rcases hHolds.keptAfter hFuture with ⟨dropped, hPast, hOut, hLaterOut⟩
    have hFits := length_kept_lt_iff hLimit hOut (lt_of_mem_keptAfter hAdmitted)
    rw [← hPast] at hFits
    have hNow : (past ++ now :: rest)[past.length]? = some now := by simp
    have hBefore : ∀ index, index + limit = past.length →
      (past ++ now :: rest)[index]? = past[index]? :=
      fun index hIndex => getElem?_append_left (by omega)
    unfold acquireAll acquire offer
    dsimp only
    by_cases hFull : limit ≤ (keptAfter (now - window) admitted).length
    · rw [if_pos hFull]
      refine iff_of_false Bool.false_ne_true ?_
      intro hSpaced
      refine absurd (hFits.mpr ?_) (not_lt.mpr hFull)
      intro index earlier hIndex hEarlier
      rw [← hBefore index hIndex] at hEarlier
      exact le_sub_iff_add_le.mpr
        (hSpaced index earlier now hIndex.ge hEarlier (by rw [hIndex, hNow]))
    · rw [if_neg hFull]
      rw [append_cons] at hSorted
      rw [ih hSorted ⟨dropped, by rw [hPast, append_assoc], hLaterOut⟩, length_append,
        length_singleton, ← append_cons]
      constructor
      · intro hRest index earlier later hIndex hEarlier hLater
        rcases hIndex.eq_or_lt with hLast | hLess
        · rw [← hLast, hNow] at hLater
          cases hLater
          rw [hBefore index hLast.symm] at hEarlier
          exact le_sub_iff_add_le.mp (hFits.mp (not_le.mp hFull) index earlier hLast.symm hEarlier)
        · exact hRest index earlier later hLess hEarlier hLater
      · intro hAll index earlier later hIndex
        exact hAll index earlier later (Nat.le_of_succ_le hIndex)

theorem acquireAll_iff_spaced [IsOrderedAddMonoid Time] (hLimit : 0 < limit)
    (hSorted : times.Pairwise (· ≤ ·)) :
    (acquireAll limit window times []).isSome ↔ Spaced limit window times := by
  have hHolds : Holds window [] [] times := ⟨[], rfl, fun _ hMem => absurd hMem not_mem_nil⟩
  rw [acquireAll_isSome_iff hLimit hSorted hHolds]
  unfold Spaced
  simp

---- The Queue And All Grants

omit [AddCommGroup Time]

variable {cutoff now : Time} {admitted granted : List Time}

theorem offer_granted_iff : (offer limit cutoff now admitted).1 = true ↔
    (keptAfter cutoff admitted).length < limit := by
  unfold offer
  dsimp only
  split_ifs with hFull
  · simp [hFull]
  · simpa using hFull

/- The limiter keeps the last grants, at most a limit; the others are not after the cutoff. -/
structure Exact (limit : Nat) (cutoff now : Time) (admitted granted : List Time) : Prop where
  holds : ∃ dropped, granted = dropped ++ admitted ∧ ∀ time ∈ dropped, time ≤ cutoff
  sorted : granted.Pairwise (· ≤ ·)
  past : ∀ time ∈ granted, time ≤ now
  bounded : admitted.length ≤ limit

section

variable (hExact : Exact limit cutoff now admitted granted)

include hExact

theorem exact_later {cutoff' later : Time} (hCutoff : cutoff ≤ cutoff') (hLater : now ≤ later) :
    Exact limit cutoff' later admitted granted where
  holds := by
    rcases hExact.holds with ⟨dropped, hGranted, hDropped⟩
    exact ⟨dropped, hGranted, fun time hMem => (hDropped time hMem).trans hCutoff⟩
  sorted := hExact.sorted
  past := fun time hMem => (hExact.past time hMem).trans hLater
  bounded := hExact.bounded

theorem exact_keptAfter : Exact limit cutoff now (keptAfter cutoff admitted) granted where
  holds := by
    rcases hExact.holds with ⟨dropped, hGranted, hDropped⟩
    let gone := admitted.takeWhile (fun time => decide (time ≤ cutoff))
    refine ⟨dropped ++ gone, ?_, ?_⟩
    · rw [hGranted, append_assoc]
      exact congrArg (dropped ++ ·) takeWhile_append_dropWhile.symm
    · intro time hMem
      rcases mem_append.mp hMem with hOld | hNew
      · exact hDropped time hOld
      · exact of_decide_eq_true (mem_takeWhile_imp (p := fun time => decide (time ≤ cutoff)) hNew)
  sorted := hExact.sorted
  past := hExact.past
  bounded := (dropWhile_sublist _).length_le.trans hExact.bounded

theorem length_keptAfter : (keptAfter cutoff admitted).length =
    granted.countP (fun time => decide (cutoff < time ∧ time ≤ now)) := by
  rcases (exact_keptAfter hExact).holds with ⟨dropped, hGranted, hDropped⟩
  have hOld : ∀ time ∈ dropped, ¬ decide (cutoff < time ∧ time ≤ now) = true := by
    intro time hMem
    simp [not_lt.mpr (hDropped time hMem)]
  have hRecent : ∀ time ∈ keptAfter cutoff admitted,
    decide (cutoff < time ∧ time ≤ now) = true := by
    intro time hMem
    have hAdmitted : admitted.Pairwise (· ≤ ·) := by
      rcases hExact.holds with ⟨_, hAll, _⟩
      have hSorted := hExact.sorted
      rw [hAll] at hSorted
      exact (pairwise_append.mp hSorted).2.1
    have hPast : time ≤ now := by
      apply hExact.past
      rw [hGranted]
      exact mem_append_right dropped hMem
    exact decide_eq_true ⟨lt_of_mem_keptAfter hAdmitted time hMem, hPast⟩
  rw [hGranted, countP_append, countP_eq_zero.mpr hOld, countP_eq_length.mpr hRecent, Nat.zero_add]

theorem exact_offer : Exact limit cutoff now (offer limit cutoff now admitted).2
    (if (offer limit cutoff now admitted).1 then granted ++ [now] else granted) := by
  have hKept := exact_keptAfter hExact
  unfold offer
  dsimp only
  by_cases hFull : limit ≤ (keptAfter cutoff admitted).length
  · rw [if_pos hFull]
    exact hKept
  · rw [if_neg hFull]
    constructor
    · rcases hKept.holds with ⟨dropped, hGranted, hDropped⟩
      refine ⟨dropped, ?_, hDropped⟩
      rw [if_pos rfl, hGranted, append_assoc]
    · rw [if_pos rfl, pairwise_append]
      refine ⟨hExact.sorted, pairwise_singleton _ _, ?_⟩
      intro time hMem last hLast
      rw [mem_singleton.mp hLast]
      exact hExact.past time hMem
    · intro time hMem
      rcases mem_append.mp hMem with hOld | hNew
      · exact hExact.past time hOld
      · exact (mem_singleton.mp hNew).le
    · rw [length_append, length_singleton]
      omega

end

end PamOlive.Foundations.SlidingWindow
