import PamOlive.Foundations.Text

/-
  UTC timestamps with microseconds, and their ISO text.

  The fields of an aware Python `datetime` in UTC, each within its range. `isoformat` leaves
  microseconds out when they are zero; its text determines the timestamp.
-/

---- Zero-Padded Numerals

namespace PamOlive.Foundations

open List

def padded : Nat → Nat → Text
| 0, _ => []
| width + 1, number => padded width (number / 10) ++ [Fin.ofNat 0x110000 (48 + number % 10)]

@[simp] theorem length_padded (width number : Nat) : (padded width number).length = width := by
  induction width generalizing number with
  | zero => rfl
  | succ width ih => simp [padded, ih]

theorem padded_inj {width first second : Nat} (hFirst : first < 10 ^ width)
    (hSecond : second < 10 ^ width)
    (hEq : padded width first = padded width second) : first = second := by
  induction width generalizing first second with
  | zero =>
    omega
  | succ width ih =>
    rcases append_inj hEq (by simp) with ⟨hHigh, hLow⟩
    have hQuotient : first / 10 = second / 10 := ih (by omega) (by omega) hHigh
    have hDigit : (48 + first % 10) % 0x110000 = (48 + second % 10) % 0x110000 := by
      simpa [Fin.ofNat, Fin.ext_iff] using hLow
    omega

---- Timestamps

structure DateTime where
  year : Nat
  month : Nat
  day : Nat
  hour : Nat
  minute : Nat
  second : Nat
  microsecond : Nat
  hYear : year < 10000
  hMonth : month < 13
  hDay : day < 32
  hHour : hour < 24
  hMinute : minute < 60
  hSecond : second < 60
  hMicrosecond : microsecond < 1000000
deriving DecidableEq

namespace DateTime

def isoSeconds (stamp : DateTime) : Text :=
  padded 4 stamp.year ++ 45 :: (padded 2 stamp.month ++ 45 :: (padded 2 stamp.day ++
    84 :: (padded 2 stamp.hour ++ 58 :: (padded 2 stamp.minute ++ 58 :: padded 2 stamp.second))))

def isoFraction (stamp : DateTime) : Text :=
  if stamp.microsecond = 0 then []
  else 46 :: padded 6 stamp.microsecond

def isoformat (stamp : DateTime) : Text := isoSeconds stamp ++ (isoFraction stamp ++ "+00:00")

theorem length_isoSeconds (stamp : DateTime) : (isoSeconds stamp).length = 19 := by
  simp [isoSeconds]

theorem isoFraction_injective {stamp stamp' : DateTime}
    (hEq : isoFraction stamp = isoFraction stamp') : stamp.microsecond = stamp'.microsecond := by
  unfold isoFraction at hEq
  by_cases hZero : stamp.microsecond = 0
  · by_cases hZero' : stamp'.microsecond = 0
    · rw [hZero, hZero']
    · simp [hZero, hZero'] at hEq
  · by_cases hZero' : stamp'.microsecond = 0
    · simp [hZero, hZero'] at hEq
    · simp only [hZero, hZero', if_false, cons.injEq, true_and] at hEq
      exact padded_inj stamp.hMicrosecond stamp'.hMicrosecond hEq

theorem isoformat_injective : Function.Injective isoformat := by
  intro stamp stamp' hEq
  have hLength : (isoSeconds stamp).length = (isoSeconds stamp').length := by
    rw [length_isoSeconds, length_isoSeconds]
  rcases append_inj hEq hLength with ⟨hSeconds, hRest⟩
  have hFraction : isoFraction stamp = isoFraction stamp' := append_cancel_right hRest
  have hMicrosecond := isoFraction_injective hFraction
  rcases append_inj hSeconds (by simp) with ⟨hYear, hSeconds⟩
  rw [cons.injEq] at hSeconds
  rcases append_inj hSeconds.2 (by simp) with ⟨hMonth, hSeconds⟩
  rw [cons.injEq] at hSeconds
  rcases append_inj hSeconds.2 (by simp) with ⟨hDay, hSeconds⟩
  rw [cons.injEq] at hSeconds
  rcases append_inj hSeconds.2 (by simp) with ⟨hHour, hSeconds⟩
  rw [cons.injEq] at hSeconds
  rcases append_inj hSeconds.2 (by simp) with ⟨hMinute, hSeconds⟩
  rw [cons.injEq] at hSeconds
  have hYear' := padded_inj stamp.hYear stamp'.hYear hYear
  have hMonth' :=
    padded_inj (by have := stamp.hMonth; omega) (by have := stamp'.hMonth; omega) hMonth
  have hDay' := padded_inj (by have := stamp.hDay; omega) (by have := stamp'.hDay; omega) hDay
  have hHour' := padded_inj (by have := stamp.hHour; omega) (by have := stamp'.hHour; omega) hHour
  have hMinute' :=
    padded_inj (by have := stamp.hMinute; omega) (by have := stamp'.hMinute; omega) hMinute
  have hSecond' :=
    padded_inj (by have := stamp.hSecond; omega) (by have := stamp'.hSecond; omega) hSeconds.2
  cases stamp
  cases stamp'
  simp_all

end DateTime

end PamOlive.Foundations
