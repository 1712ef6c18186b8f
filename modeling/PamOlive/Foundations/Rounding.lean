import Mathlib.Algebra.Order.Field.Rat
import Mathlib.Algebra.Order.Floor.Ring
import Mathlib.Data.Rat.Floor

/-
  Arithmetic that rounds, and the rounding of double-precision numbers.

  Main declarations:
    * `Rounding`
    * `roundNat_monotone`
    * `double`
-/

---- Rounding

namespace PamOlive.Foundations

variable {Number : Type} [LinearOrder Number]

/- Rounding keeps the order. -/
structure Rounding (Number : Type) [LinearOrder Number] where
  round : Number → Number
  monotone : Monotone round

/- The numbers of the format are those that rounding leaves alone. -/
def Rounding.IsRounded (rounding : Rounding Number) (number : Number) : Prop :=
  rounding.round number = number

instance (rounding : Rounding Number) : DecidablePred rounding.IsRounded :=
  fun number => inferInstanceAs (Decidable (rounding.round number = number))

theorem Rounding.IsRounded.le_round {rounding : Rounding Number} {number other : Number}
    (hRounded : rounding.IsRounded number) (hLe : number ≤ other) :
    number ≤ rounding.round other := by
  rw [← hRounded]
  exact rounding.monotone hLe

---- The Nearest Multiple

/- How many times the unit is in the number, to the nearest; halfway, the even of the two. -/
def nearestCount (unit n : Nat) : Nat :=
  if unit < 2 * (n % unit) ∨ (unit = 2 * (n % unit) ∧ n / unit % 2 = 1) then n / unit + 1
  else n / unit

variable {unit n m : Nat}

theorem nearestCount_monotone (unit : Nat) : Monotone (nearestCount unit) := by
  intro n m hLe
  have hDiv : n / unit ≤ m / unit := Nat.div_le_div_right hLe
  unfold nearestCount
  rcases hDiv.eq_or_lt with hSame | hLess
  · have hRest : n % unit ≤ m % unit := by
      have hN := Nat.div_add_mod n unit
      have hM := Nat.div_add_mod m unit
      rw [hSame] at hN
      omega
    rw [hSame]
    split_ifs <;> omega
  · split_ifs <;> omega

theorem nearestCount_mul (hUnit : 0 < unit) (count : Nat) :
    nearestCount unit (count * unit) = count := by
  unfold nearestCount
  rw [Nat.mul_mod_left, Nat.mul_div_cancel count hUnit]
  exact if_neg (by omega)

---- Fifty-Three Bits

/- The last of the 53 bits that are kept. -/
def lastBit (n : Nat) : Nat := 2 ^ (n.log2 - 52)

def roundNat (n : Nat) : Nat := nearestCount (lastBit n) n * lastBit n

theorem lastBit_pos (n : Nat) : 0 < lastBit n := Nat.two_pow_pos _

/- A multiple of the last bit is kept. -/
theorem nearestCount_of_dvd (hUnit : 0 < unit) (hDvd : unit ∣ n) :
    nearestCount unit n * unit = n := by
  rcases hDvd with ⟨count, rfl⟩
  rw [Nat.mul_comm unit count, nearestCount_mul hUnit]

theorem lastBit_dvd (n : Nat) {exponent : Nat} (hLe : n.log2 - 52 ≤ exponent) :
    lastBit n ∣ 2 ^ exponent :=
  Nat.pow_dvd_pow 2 hLe

/- Rounding does not leave the binade. -/
theorem roundNat_bounds (hPos : n ≠ 0) :
    2 ^ n.log2 ≤ roundNat n ∧ roundNat n ≤ 2 ^ (n.log2 + 1) := by
  have hLow := nearestCount_monotone (lastBit n) (Nat.log2_self_le hPos)
  have hHigh := nearestCount_monotone (lastBit n) (Nat.lt_log2_self (n := n)).le
  constructor
  · rw [← nearestCount_of_dvd (lastBit_pos n) (lastBit_dvd n (Nat.sub_le n.log2 52))]
    exact Nat.mul_le_mul_right _ hLow
  · rw [← nearestCount_of_dvd (lastBit_pos n) (lastBit_dvd n (by omega : _ ≤ n.log2 + 1))]
    exact Nat.mul_le_mul_right _ hHigh

theorem roundNat_monotone : Monotone roundNat := by
  intro n m hLe
  by_cases hZero : n = 0
  · rw [hZero]
    exact Nat.zero_le _
  have hPos : m ≠ 0 := by omega
  have hLog : n.log2 ≤ m.log2 := by
    rw [Nat.le_log2 hPos]
    exact (Nat.log2_self_le hZero).trans hLe
  rcases hLog.eq_or_lt with hSame | hLess
  · unfold roundNat lastBit
    rw [hSame]
    exact Nat.mul_le_mul_right _ (nearestCount_monotone _ hLe)
  · calc roundNat n ≤ 2 ^ (n.log2 + 1) := (roundNat_bounds hZero).2
      _ ≤ 2 ^ m.log2 := Nat.pow_le_pow_right Nat.two_pos hLess
      _ ≤ roundNat m := (roundNat_bounds hPos).1

---- Doubles

def roundInt : Int → Int
| .ofNat n => roundNat n
| .negSucc n => -roundNat (n + 1)

theorem roundInt_le {n m : Int} (hLe : n ≤ m) : roundInt n ≤ roundInt m := by
  cases n with
  | ofNat n =>
    cases m with
    | ofNat m => exact Int.ofNat_le.mpr (roundNat_monotone (Int.ofNat_le.mp hLe))
    | negSucc m => exact absurd (Int.le_trans (Int.natCast_nonneg n) hLe) (by omega)
  | negSucc n =>
    cases m with
    | ofNat m =>
      unfold roundInt
      dsimp only
      omega
    | negSucc m =>
      have hRound : roundNat (m + 1) ≤ roundNat (n + 1) := roundNat_monotone (by omega)
      unfold roundInt
      dsimp only
      omega

/- The smallest double above zero. -/
def tiny : Rat := 1 / 2 ^ 1074

/-
  The rounding of double-precision numbers to the nearest, on multiples of the smallest one: sums
  and differences of doubles are such multiples. The largest double is left out.
-/
def double : Rounding Rat where
  round := fun number => roundInt ⌊number / tiny⌋ * tiny
  monotone := by
    intro number other hLe
    have hTiny : 0 < tiny := by decide +kernel
    have hFloor : ⌊number / tiny⌋ ≤ ⌊other / tiny⌋ :=
      Int.floor_mono (div_le_div_of_nonneg_right hLe hTiny.le)
    exact mul_le_mul_of_nonneg_right (Int.cast_le.mpr (roundInt_le hFloor)) hTiny.le

end PamOlive.Foundations
