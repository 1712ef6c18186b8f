import Mathlib.Data.PNat.Defs
import PamOlive.Foundations.Json

/-
  Column values shared by all applications of the program.

  User keys are positive, and an address column holds no empty text. A UUID is a 128-bit number,
  read back from 32 hexadecimal digits with the marks that `uuid.UUID` drops.
-/

---- Keys And Addresses

namespace PamOlive

open Foundations List

abbrev UserId := ℕ+

/- A stored address: an `inet` column has no empty text. -/
abbrev IpText := {text : Text // text ≠ []}

abbrev Uuid := BitVec 128

namespace Uuid

def hexPadded : Nat → Nat → Text
| 0, _ => []
| width + 1, number => hexPadded width (number / 16) ++ [Json.hexDigit (number % 16)]

/- `str(uuid)`. -/
def str (uuid : Uuid) : Text :=
  let digits := hexPadded 32 uuid.toNat
  digits.take 8 ++ 45 :: ((digits.drop 8).take 4 ++
    45 :: ((digits.drop 12).take 4 ++ 45 :: ((digits.drop 16).take 4 ++ 45 :: digits.drop 20)))

def hexDigitValue (point : CodePoint) : Option Nat :=
  let code := point.val
  if 48 ≤ code ∧ code ≤ 57 then some (code - 48)
  else if 97 ≤ code ∧ code ≤ 102 then some (code - 87)
  else if 65 ≤ code ∧ code ≤ 70 then some (code - 55)
  else none

def readHex : Nat → Text → Option Nat
| number, [] => some number
| number, point :: rest =>
  match hexDigitValue point with
  | some value => readHex (16 * number + value) rest
  | none => none

/- `text.replace(part, "")`; `skip` more code points belong to an occurrence. -/
def without (part : Text) : Nat → Text → Text
| _, [] => []
| skip + 1, _ :: rest => without part skip rest
| 0, point :: rest =>
  if part.isPrefixOf (point :: rest) then without part (part.length - 1) rest
  else point :: without part 0 rest

def isBrace (point : CodePoint) : Bool := point == 123 || point == 125

/-
  `uuid.UUID(text)`: 32 hexadecimal digits remain without `urn:`, `uuid:`, the braces at the ends
  and the dashes. What `int` reads besides digits (`0x`, a sign, `_`, spaces) is left out.
-/
def parse (text : Text) : Option Uuid :=
  let plain := without "uuid:" 0 (without "urn:" 0 text)
  let digits := ((plain.dropWhile isBrace).rdropWhile isBrace).filter (fun point => point ≠ 45)
  if digits.length = 32 then (readHex 0 digits).map (BitVec.ofNat 128)
  else none

---- Round Trip

@[simp] theorem length_hexPadded (width number : Nat) :
    (hexPadded width number).length = width := by
  induction width generalizing number with
  | zero => rfl
  | succ width ih => simp [hexPadded, ih]

theorem hexDigitValue_hexDigit :
    ∀ number < 16, hexDigitValue (Json.hexDigit number) = some number := by
  decide

theorem readHex_append (number : Nat) (first second : Text) : readHex number (first ++ second) =
    (readHex number first).bind (fun value => readHex value second) := by
  induction first generalizing number with
  | nil => rfl
  | cons point rest ih =>
    simp only [cons_append, readHex]
    cases hexDigitValue point with
    | none => rfl
    | some value => exact ih _

variable {width number : Nat} {point : CodePoint}

theorem readHex_hexPadded (hNumber : number < 16 ^ width) :
    readHex 0 (hexPadded width number) = some number := by
  induction width generalizing number with
  | zero =>
    have hZero : number = 0 := by omega
    simp [hexPadded, readHex, hZero]
  | succ width ih =>
    rw [hexPadded, readHex_append, ih (by omega)]
    simp only [Option.bind_some, readHex, hexDigitValue_hexDigit (number % 16) (by omega)]
    congr 1
    omega

theorem hexDigit_graphic : ∀ number < 16, 45 < (Json.hexDigit number).val ∧
    (Json.hexDigit number).val < 103 ∧ (Json.hexDigit number).val ≠ 58 := by
  decide

theorem mem_hexPadded_graphic (hMem : point ∈ hexPadded width number) :
    45 < point.val ∧ point.val < 103 ∧ point.val ≠ 58 := by
  induction width generalizing number with
  | zero => simp [hexPadded] at hMem
  | succ width ih =>
    rcases mem_append.mp hMem with hHigh | hLow
    · exact ih hHigh
    · rw [mem_singleton.mp hLow]
      exact hexDigit_graphic _ (by omega)

theorem filter_str (uuid : Uuid) :
    (str uuid).filter (fun point => point ≠ 45) = hexPadded 32 uuid.toNat := by
  have hDigits : (hexPadded 32 uuid.toNat).filter (fun point => point ≠ 45) =
    hexPadded 32 uuid.toNat := by
    rw [filter_eq_self]
    intro point hMem
    exact decide_eq_true (Fin.ne_of_gt (mem_hexPadded_graphic hMem).1)
  generalize hWhole : hexPadded 32 uuid.toNat = digits at hDigits ⊢
  have hJoin : ∀ start count : Nat,
    (digits.drop start).take count ++ digits.drop (start + count) = digits.drop start := by
    intro start count
    rw [← drop_drop]
    exact take_append_drop _ _
  have hParts : digits.take 8 ++ ((digits.drop 8).take 4 ++ ((digits.drop 12).take 4 ++
    ((digits.drop 16).take 4 ++ digits.drop 20))) = digits := by
    rw [hJoin 16 4, hJoin 12 4, hJoin 8 4, take_append_drop]
  refine Eq.trans ?_ hDigits
  rw [← congrArg (filter _) hParts]
  simp [str, hWhole]

theorem mem_str_graphic {uuid : Uuid} (hMem : point ∈ str uuid) :
    45 ≤ point.val ∧ point.val < 103 ∧ point.val ≠ 58 := by
  by_cases hDash : point = 45
  · rw [hDash]
    decide
  · have hDigit : point ∈ hexPadded 32 uuid.toNat := by
      rw [← filter_str, mem_filter]
      exact ⟨hMem, decide_eq_true hDash⟩
    have hRange := mem_hexPadded_graphic hDigit
    exact ⟨hRange.1.le, hRange.2⟩

theorem str_ne_nil (uuid : Uuid) : str uuid ≠ [] := by
  intro hNil
  have hDigits := congrArg length (filter_str uuid)
  rw [hNil, length_hexPadded] at hDigits
  exact absurd hDigits (by decide)

theorem without_eq_self {part text : Text} (hPart : 58 ∈ part) (hText : 58 ∉ text) :
    without part 0 text = text := by
  induction text with
  | nil => rfl
  | cons point rest ih =>
    have hNot : ¬ part.isPrefixOf (point :: rest) = true := by
      rw [ isPrefixOf_iff_prefix]
      exact fun hStart => hText (hStart.subset hPart)
    rw [without, if_neg hNot, ih (fun hMem => hText (mem_cons_of_mem _ hMem))]

theorem parse_str (uuid : Uuid) : parse (str uuid) = some uuid := by
  have hColon : 58 ∉ str uuid := fun hMem => (mem_str_graphic hMem).2.2 rfl
  have hBrace : ∀ point ∈ str uuid, ¬ isBrace point = true := by
    intro point hMem hMark
    have hRange := (mem_str_graphic hMem).2.1
    have hPoint : point = 123 ∨ point = 125 := by simpa [isBrace] using hMark
    rcases hPoint with rfl | rfl <;> exact absurd hRange (by decide)
  have hBound : uuid.toNat < 16 ^ 32 := uuid.isLt
  unfold parse
  dsimp only
  rw [without_eq_self (by decide) hColon, without_eq_self (by decide) hColon,
    dropWhile_eq_self_iff.mpr (fun _ => hBrace _ (getElem_mem _)),
    rdropWhile_eq_self_iff.mpr (fun _ => hBrace _ (getLast_mem _))]
  simp only [filter_str, length_hexPadded, if_true, readHex_hexPadded hBound, Option.map_some]
  simp

end Uuid

end PamOlive
