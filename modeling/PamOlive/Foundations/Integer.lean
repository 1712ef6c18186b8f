import PamOlive.Foundations.Lines
import PamOlive.Foundations.Text

/-
  Reading a decimal integer from a text, as `int` does.

  Whitespace at the ends, a sign, and single underscores between digits are allowed. Which code
  points are decimal digits is a parameter.
-/

---- Definition

namespace PamOlive.Foundations

open Lines List

def isAsciiSpace (point : CodePoint) : Bool :=
  decide (point.val = 32 ∨ (9 ≤ point.val ∧ point.val ≤ 13))

def isAsciiDigit (point : CodePoint) : Bool :=
  decide (48 ≤ point.val ∧ point.val ≤ 57)

def codePoint (value : Nat) : CodePoint := ⟨value % 0x110000, Nat.mod_lt _ (by decide)⟩

/- ASCII is kept; other spaces and digits are replaced, the rest becomes a question mark. -/
def toAscii (decimal : CodePoint → Option (Fin 10)) (point : CodePoint) : CodePoint :=
  if point.val < 127 then point
  else if point.isSpace then codePoint 32
  else
    match decimal point with
    | some digit => codePoint (48 + digit.val)
    | none => codePoint 63

/- Digits with single underscores between them. -/
def readDigits : Nat → Text → Option Nat
| _, [] => none
| number, [point] =>
  if isAsciiDigit point then some (10 * number + (point.val - 48))
  else none
| number, point :: next :: rest =>
  if isAsciiDigit point then
    if next.val = 95 then readDigits (10 * number + (point.val - 48)) rest
    else readDigits (10 * number + (point.val - 48)) (next :: rest)
  else none

def readSigned : Text → Option Int
| [] => none
| sign :: rest =>
  if sign.val = 43 then (readDigits 0 rest).map Int.ofNat
  else if sign.val = 45 then (readDigits 0 rest).map (fun value => -Int.ofNat value)
  else (readDigits 0 (sign :: rest)).map Int.ofNat

/- The length from which `int` refuses a decimal text. -/
def maxDigits : Nat := 4300

/- `int(text)`, with `none` for `ValueError`. -/
def parseInt (decimal : CodePoint → Option (Fin 10)) (text : Text) : Option Int :=
  let ascii := text.map (toAscii decimal)
  let token := firstWord isAsciiSpace ascii
  if (afterFirstWord isAsciiSpace ascii).all isAsciiSpace ∧
    token.countP isAsciiDigit ≤ maxDigits then
    readSigned token
  else none

---- What Is Accepted

def isMark (point : CodePoint) : Prop := point.val = 43 ∨ point.val = 45 ∨ point.val = 95

variable {text : Text}

theorem readDigits_points {number value : Nat} (hRead : readDigits number text = some value) :
    ∀ point ∈ text, isAsciiDigit point = true ∨ isMark point := by
  fun_induction readDigits number text generalizing value with
  | case1 => cases hRead
  | case2 number point hDigit => exact forall_mem_singleton.mpr (.inl hDigit)
  | case3 => cases hRead
  | case4 number point next rest hDigit hNext ih =>
    exact forall_mem_cons.mpr ⟨.inl hDigit,
      forall_mem_cons.mpr ⟨.inr (.inr (.inr hNext)), ih hRead⟩⟩
  | case5 number point next rest hDigit hNext ih =>
    exact forall_mem_cons.mpr ⟨.inl hDigit, ih hRead⟩
  | case6 => cases hRead

theorem readSigned_points {value : Int} (hRead : readSigned text = some value) :
    text ≠ [] ∧ ∀ point ∈ text, isAsciiDigit point = true ∨ isMark point := by
  cases text with
  | nil => cases hRead
  | cons sign rest =>
    refine ⟨cons_ne_nil _ _, ?_⟩
    unfold readSigned at hRead
    dsimp only at hRead
    split_ifs at hRead with hPlus hMinus
    all_goals rcases Option.map_eq_some_iff.mp hRead with ⟨_, hDigits, _⟩
    · exact forall_mem_cons.mpr ⟨.inr (.inl hPlus), readDigits_points hDigits⟩
    · exact forall_mem_cons.mpr ⟨.inr (.inr (.inl hMinus)), readDigits_points hDigits⟩
    · exact readDigits_points hDigits

variable {decimal : CodePoint → Option (Fin 10)}

theorem parseInt_points (hAccepted : (parseInt decimal text).isSome) :
    ∀ point ∈ text, isAsciiSpace (toAscii decimal point) = true ∨
      isAsciiDigit (toAscii decimal point) = true ∨ isMark (toAscii decimal point) := by
  rcases Option.isSome_iff_exists.mp hAccepted with ⟨value, hValue⟩
  unfold parseInt at hValue
  dsimp only at hValue
  split at hValue
  · rename_i hTail
    intro point hMem
    rcases mem_firstWord_or_after isAsciiSpace (mem_map_of_mem hMem) with hSpace | hToken | hAfter
    · exact .inl hSpace
    · exact .inr ((readSigned_points hValue).2 _ hToken)
    · exact .inl (all_eq_true.mp hTail.1 _ hAfter)
  · cases hValue

theorem exists_not_space (hAccepted : (parseInt decimal text).isSome) :
    ∃ point ∈ text.map (toAscii decimal), isAsciiSpace point = false := by
  rcases Option.isSome_iff_exists.mp hAccepted with ⟨value, hValue⟩
  unfold parseInt at hValue
  dsimp only at hValue
  split at hValue
  · rcases exists_mem_of_ne_nil _ (readSigned_points hValue).1 with ⟨point, hMem⟩
    refine ⟨point, ?_, ?_⟩
    · exact dropWhile_subset _ (takeWhile_subset _ hMem)
    · simpa using mem_takeWhile_imp hMem
  · cases hValue

/- An accepted text that goes on with a space after an accepted one goes on with spaces only. -/
theorem space_after_parseInt {more : Text} {separator : CodePoint}
    (hSpace : isAsciiSpace (toAscii decimal separator) = true)
    (hShort : (parseInt decimal text).isSome)
    (hLong : (parseInt decimal (text ++ separator :: more)).isSome) :
    ∀ point ∈ more, isAsciiSpace (toAscii decimal point) = true := by
  rcases Option.isSome_iff_exists.mp hLong with ⟨value, hValue⟩
  unfold parseInt at hValue
  dsimp only at hValue
  split at hValue
  · rename_i hTail
    intro point hMem
    refine all_eq_true.mp hTail.1 _ ?_
    rw [map_append, map_cons]
    exact mem_afterFirstWord isAsciiSpace (exists_not_space hShort) hSpace (mem_map_of_mem hMem)
  · cases hValue

end PamOlive.Foundations
