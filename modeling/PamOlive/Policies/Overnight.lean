import PamOlive.Policies.Services

/-
  Windows that pass midnight.

  The weekday is tested at each instant: after midnight a window needs the following day in its
  list, and in the morning of a listed day it is open without the evening before.
-/

namespace PamOlive.Policies

/- Days are counted from a Monday. -/
def localInstant (day time : Nat) : LocalTime := ⟨day + 1, time⟩

/- The tests of `_time_frame_is_current` besides the validity dates. -/
def isCurrentAt (frame : TimeFrame) (instant : LocalTime) : Bool :=
  weekdayIsCurrent frame.weekdays instant.weekday &&
    clockIsCurrent instant.time frame.startTime frame.endTime

theorem timeFrameIsCurrent_eq {site : Site} {frame : TimeFrame} (hFrom : frame.validFrom = none)
    (hUntil : frame.validUntil = none) (instant : Int) :
    timeFrameIsCurrent site frame instant = isCurrentAt frame (site.localTime instant) := by
  unfold timeFrameIsCurrent isCurrentAt
  rw [hFrom, hUntil]
  rfl

/-
  A window that is open in an evening stays open until its end, and it is open in a morning only if
  it was in the evening before.
-/
structure Contiguous (frame : TimeFrame) (start finish : Nat) : Prop where
  stays : ∀ day time, start ≤ time → time < dayLength →
    isCurrentAt frame (localInstant day time) = true →
    (∀ later, time ≤ later → later < dayLength →
      isCurrentAt frame (localInstant day later) = true) ∧
    ∀ morning < finish, isCurrentAt frame (localInstant (day + 1) morning) = true
  opened : ∀ day morning, morning < finish →
    isCurrentAt frame (localInstant (day + 1) morning) = true →
    ∀ time, start ≤ time → time < dayLength → isCurrentAt frame (localInstant day time) = true

section Windows

variable {frame : TimeFrame} {start finish : Nat}

/- Inside an overnight window only the weekday decides. -/
theorem isCurrentAt_iff (hStart : frame.startTime = some start)
    (hFinish : frame.endTime = some finish) (hOvernight : finish < start) {day time : Nat}
    (hTime : start ≤ time ∨ time < finish) :
    isCurrentAt frame (localInstant day time) = true ↔
      frame.weekdays = [] ∨ day % 7 ∈ frame.weekdays := by
  have hDay : (localInstant day time).weekday = day % 7 := Nat.add_mod_right day 7
  unfold isCurrentAt clockIsCurrent weekdayIsCurrent
  rw [hStart, hFinish, hDay]
  have hClock : ¬ start ≤ finish := by omega
  simp [hClock, hTime, localInstant]

theorem mem_of_closed {weekdays : List Nat} {first other : Nat} (hFirst : first % 7 ∈ weekdays)
    (hNext : ∀ day, day % 7 ∈ weekdays → (day + 1) % 7 ∈ weekdays) (hOther : other < 7) :
    other ∈ weekdays := by
  have hAll : ∀ count, (first + count) % 7 ∈ weekdays := by
    intro count
    induction count with
    | zero => exact hFirst
    | succ count ih => exact hNext (first + count) ih
  have hMem := hAll (other + 6 * first)
  have hSame : (first + (other + 6 * first)) % 7 = other := by omega
  rwa [hSame] at hMem

/-
  An overnight window is contiguous exactly when it has no morning part, lists no weekday or all,
  or is never open.
-/
theorem overnight_contiguous_iff (hStart : frame.startTime = some start)
    (hFinish : frame.endTime = some finish) (hOvernight : finish < start)
    (hTime : start < dayLength) : Contiguous frame start finish ↔
      finish = 0 ∨ frame.weekdays = [] ∨ (∀ day < 7, day ∈ frame.weekdays) ∨
        ∀ day < 7, day ∉ frame.weekdays := by
  have hCurrent := fun {day time : Nat} =>
    @isCurrentAt_iff frame start finish hStart hFinish hOvernight day time
  constructor
  · intro hContiguous
    by_cases hMorning : finish = 0
    · exact .inl hMorning
    by_cases hNone : frame.weekdays = []
    · exact .inr (.inl hNone)
    by_cases hSome : ∃ day < 7, day ∈ frame.weekdays
    · rcases hSome with ⟨first, hFirst, hMem⟩
      rw [← Nat.mod_eq_of_lt hFirst] at hMem
      refine .inr (.inr (.inl fun other hOther => mem_of_closed hMem ?_ hOther))
      intro day hDay
      have hEvening := (hCurrent (.inl (Nat.le_refl start))).mpr (.inr hDay)
      have hNext := (hContiguous.stays day start (Nat.le_refl start) hTime hEvening).2 0
        (Nat.pos_of_ne_zero hMorning)
      exact ((hCurrent (.inr (Nat.pos_of_ne_zero hMorning))).mp hNext).resolve_left hNone
    · exact .inr (.inr (.inr fun day hDay hMem => hSome ⟨day, hDay, hMem⟩))
  · intro hDays
    -- From one day of the list the next and the previous one are listed as well.
    have hListed : finish ≠ 0 → ∀ day other, (frame.weekdays = [] ∨ day % 7 ∈ frame.weekdays) →
      frame.weekdays = [] ∨ other % 7 ∈ frame.weekdays := by
      intro hMorning day other hDay
      rcases hDays with hZero | hNone | hAll | hNever
      · exact absurd hZero hMorning
      · exact .inl hNone
      · exact .inr (hAll _ (Nat.mod_lt _ (by decide)))
      · exact hDay.imp_right (fun hMem => absurd hMem (hNever _ (Nat.mod_lt _ (by decide))))
    refine ⟨fun day time hLate _ hOpen => ⟨fun later hLater _ => ?_, fun morning hEarly => ?_⟩,
      fun day morning hEarly hOpen time hLate _ => ?_⟩
    · exact (hCurrent (.inl (hLate.trans hLater))).mpr ((hCurrent (.inl hLate)).mp hOpen)
    · exact (hCurrent (.inr hEarly)).mpr
        (hListed (by omega) day _ ((hCurrent (.inl hLate)).mp hOpen))
    · exact (hCurrent (.inl hLate)).mpr
        (hListed (by omega) (day + 1) _ ((hCurrent (.inr hEarly)).mp hOpen))

end Windows

def nightFrame (weekdays : List Nat) : TimeFrame where
  enabled := true
  weekdays := weekdays
  startTime := some (22 * 60 * 60 * 1000000)
  endTime := some (6 * 60 * 60 * 1000000)
  validFrom := none
  validUntil := none

theorem overnight_contiguous_sample :
    Contiguous (nightFrame []) (22 * 60 * 60 * 1000000) (6 * 60 * 60 * 1000000) :=
  (overnight_contiguous_iff rfl rfl (by decide) (by decide)).mpr (.inr (.inl rfl))

/- Open on Monday at eleven in the evening, and shut at one in the morning. -/
theorem monday_night_shuts_at_midnight :
    isCurrentAt (nightFrame [0]) (localInstant 0 (23 * 60 * 60 * 1000000)) = true ∧
      isCurrentAt (nightFrame [0]) (localInstant 1 (60 * 60 * 1000000)) = false := by
  decide

end PamOlive.Policies
