import Mathlib.Data.List.Induction
import PamOlive.Foundations.Rounding
import PamOlive.Foundations.SlidingWindow

/-
  The limiter, one call after the other.

  The readings of the clock never go back, and the arithmetic rounds. A call is granted by the
  grants of its operation after the rounded cutoff. A refused one is told when to come back, which
  can be too early.

  Main declarations:
    * `acquireAt`, `serveAll`
    * `limiter_exact_iff`
-/

---- Calls

namespace PamOlive.KeyringService

open Foundations List SlidingWindow Function

variable {Operation Time : Type} [DecidableEq Operation] [Ring Time] [LinearOrder Time]
variable [FloorRing Time]

section

variable (rounding : Rounding Time)

/- `now - self.window_seconds`. -/
def cutoff (window now : Time) : Time := rounding.round (now - window)

/- `max(1, math.ceil(events[0] + self.window_seconds - now))`. -/
def retryAfter (window now : Time) (events : List Time) : Int :=
  max 1 ⌈rounding.round (rounding.round (events.headD now + window) - now)⌉

/- The answer of `acquire`, and the queue after it. -/
def acquireAt (limit : Nat) (window now : Time) (events : List Time) : (Bool × Int) × List Time :=
  let answer := offer limit (cutoff rounding window now) now events
  ((answer.1, if answer.1 then 0 else retryAfter rounding window now answer.2), answer.2)

/- The queues of the operations, and all grants so far. -/
structure Served (Operation Time : Type) where
  events : Operation → List Time
  granted : Operation → List Time

variable (limits : Operation → Nat) (window : Time)

def serve (served : Served Operation Time) (call : Operation × Time) : Served Operation Time :=
  let answer := acquireAt rounding (limits call.1) window call.2 (served.events call.1)
  let granted := served.granted call.1
  { events := update served.events call.1 answer.2
    granted := update served.granted call.1 (if answer.1.1 then granted ++ [call.2] else granted) }

/- Calls by operation and reading, in the order of the lock. -/
def serveAll (calls : List (Operation × Time)) : Served Operation Time :=
  calls.foldl (serve rounding limits window) ⟨fun _ => [], fun _ => []⟩

end

/- How many grants are after an instant. -/
def grantsAfter (start now : Time) (granted : List Time) : Nat :=
  granted.countP (fun time => decide (start < time ∧ time ≤ now))

---- Runs

variable {rounding : Rounding Time} {limits : Operation → Nat} {limit : Nat}
variable {window now later : Time} {events granted : List Time}

omit [FloorRing Time] in
theorem cutoff_le [IsStrictOrderedRing Time] (hLater : now ≤ later) :
    cutoff rounding window now ≤ cutoff rounding window later :=
  rounding.monotone (sub_le_sub_right hLater window)

theorem exact_serve {served : Served Operation Time} {call : Operation × Time}
    (hExact : ∀ operation, Exact (limits operation) (cutoff rounding window call.2) call.2
      (served.events operation) (served.granted operation)) (operation : Operation) :
    Exact (limits operation) (cutoff rounding window call.2) call.2
      ((serve rounding limits window served call).events operation)
      ((serve rounding limits window served call).granted operation) := by
  unfold serve
  dsimp only
  by_cases hSame : operation = call.1
  · rw [hSame, update_self, update_self]
    exact exact_offer (hExact call.1)
  · rw [update_of_ne hSame, update_of_ne hSame]
    exact hExact operation

theorem exact_serveAll [IsStrictOrderedRing Time] {calls : List (Operation × Time)}
    (hSorted : (calls.map Prod.snd ++ [now]).Pairwise (· ≤ ·)) (operation : Operation) :
    Exact (limits operation) (cutoff rounding window now) now
      ((serveAll rounding limits window calls).events operation)
      ((serveAll rounding limits window calls).granted operation) := by
  induction calls using List.reverseRecOn generalizing now operation with
  | nil =>
    exact
      { holds := ⟨[], rfl, fun _ hMem => absurd hMem not_mem_nil⟩
        sorted := Pairwise.nil
        past := fun _ hMem => absurd hMem not_mem_nil
        bounded := Nat.zero_le _ }
  | append_singleton front call ih =>
    rw [map_append, map_singleton, pairwise_append] at hSorted
    unfold serveAll
    rw [foldl_append]
    have hLater : call.2 ≤ now :=
      hSorted.2.2 call.2 (mem_append_right _ mem_cons_self) now mem_cons_self
    exact exact_later (exact_serve (ih hSorted.1) operation) (cutoff_le hLater) hLater

theorem granted_subset {calls : List (Operation × Time)} (operation : Operation) :
    (serveAll rounding limits window calls).granted operation ⊆ calls.map Prod.snd := by
  induction calls using List.reverseRecOn with
  | nil => exact nil_subset _
  | append_singleton front call ih =>
    unfold serveAll serve
    rw [foldl_append, map_append]
    dsimp only [foldl_cons, foldl_nil]
    by_cases hSame : operation = call.1
    · rw [hSame] at ih ⊢
      rw [update_self]
      split
      · exact append_subset.mpr ⟨subset_append_of_subset_left _ ih, subset_append_right _ _⟩
      · exact subset_append_of_subset_left _ ih
    · rw [update_of_ne hSame]
      exact subset_append_of_subset_left _ ih

omit [FloorRing Time] in
/- Rounding does not move a cutoff below a grant that is not after it. -/
theorem grantsAfter_cutoff_le (hGranted : ∀ time ∈ granted, rounding.IsRounded time) :
    grantsAfter (cutoff rounding window now) now granted ≤
      grantsAfter (now - window) now granted := by
  refine countP_mono_left ?_
  intro time hMem hAfter
  rw [decide_eq_true_eq] at hAfter ⊢
  refine ⟨lt_of_not_ge ?_, hAfter.2⟩
  intro hLe
  exact absurd ((hGranted time hMem).le_round hLe) (not_le.mpr hAfter.1)

/- After a refusal a call is granted exactly if the oldest grant is not after its cutoff. -/
theorem acquireAt_again (hExact : Exact limit (cutoff rounding window now) now events granted)
    (hLimit : 1 ≤ limit) (hRefused : (acquireAt rounding limit window now events).1.1 = false) :
    (acquireAt rounding limit window later (acquireAt rounding limit window now events).2).1.1 =
        true ↔
      ∀ first ∈ (acquireAt rounding limit window now events).2.head?,
        first ≤ cutoff rounding window later := by
  have hFull : limit ≤ (keptAfter (cutoff rounding window now) events).length := by
    apply Nat.not_lt.mp
    intro hFree
    rw [← offer_granted_iff] at hFree
    exact absurd (hRefused.symm.trans hFree) Bool.false_ne_true
  have hQueue : (acquireAt rounding limit window now events).2 =
    keptAfter (cutoff rounding window now) events := by
    unfold acquireAt offer
    dsimp only
    rw [if_pos hFull]
  have hBounded := (exact_keptAfter hExact).bounded
  rw [hQueue]
  refine offer_granted_iff.trans ?_
  cases hKept : keptAfter (cutoff rounding window now) events with
  | nil =>
    rw [hKept, length_nil] at hFull
    omega
  | cons first rest =>
    rw [hKept] at hFull hBounded
    constructor
    · rintro hFree _ ⟨⟩
      by_contra hStays
      unfold keptAfter at hFree
      rw [dropWhile_cons_of_neg (by simpa using hStays)] at hFree
      omega
    · intro hGone
      have hRest : keptAfter (cutoff rounding window later) (first :: rest) =
        keptAfter (cutoff rounding window later) rest :=
        dropWhile_cons_of_pos (decide_eq_true (hGone first rfl))
      rw [hRest]
      rw [length_cons] at hBounded
      exact (dropWhile_sublist _).length_le.trans_lt (Nat.lt_of_succ_le hBounded)

end PamOlive.KeyringService
