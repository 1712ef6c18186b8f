import Mathlib.Algebra.Group.Nat.Defs
import Mathlib.Data.List.DropRight
import Mathlib.Data.Fin.Basic

/-
  Python text.

  A Python `str` is a sequence of code points, and may hold lone surrogates, which have no UTF-8
  encoding. Encoded bytes are represented by the code points that they encode, since UTF-8 is
  injective and leaves carriage return and line feed alone.
-/

---- Code Points

namespace PamOlive.Foundations

/- A Unicode code point, surrogates included. -/
abbrev CodePoint := Fin 0x110000

/- What numerals for code points rest on. -/
instance codePoint_neZero : @NeZero Nat Zero.ofOfNat0 0x110000 := ⟨by decide⟩

namespace CodePoint

def ofChar (character : Char) : CodePoint :=
  ⟨character.toNat, by
    have hValid := character.valid
    simp only [UInt32.isValidChar, Nat.isValidChar] at hValid
    change character.val.toNat < _
    omega⟩

theorem ofChar_injective : Function.Injective ofChar := by
  intro first second hEq
  have hNat : first.toNat = second.toNat := by simpa [ofChar] using hEq
  exact Char.toNat_inj.mp hNat

def isSurrogate (point : CodePoint) : Bool :=
  decide (0xD800 ≤ point.val ∧ point.val ≤ 0xDFFF)

def isNewline (point : CodePoint) : Bool := point == 10 || point == 13

/- Whitespace in the sense of `str.isspace`, `\s` and `str.strip`. -/
def isSpace (point : CodePoint) : Bool :=
  let code := point.val
  decide ((9 ≤ code ∧ code ≤ 13) ∨ (28 ≤ code ∧ code ≤ 32) ∨
    code = 0x85 ∨ code = 0xA0 ∨ code = 0x1680 ∨ (0x2000 ≤ code ∧ code ≤ 0x200A) ∨
    code = 0x2028 ∨ code = 0x2029 ∨ code = 0x202F ∨ code = 0x205F ∨ code = 0x3000)

@[simp] theorem isSpace_space : isSpace 32 = true := by decide

end CodePoint

abbrev Text := List CodePoint

namespace Text

open CodePoint List

def ofString (literal : String) : Text := literal.toList.map ofChar

instance : Coe String Text := ⟨ofString⟩

@[simp] theorem ofString_inj {first second : String} :
    ofString first = ofString second ↔ first = second := by
  unfold ofString
  rw [map_inj_right (fun _ _ hEq => ofChar_injective hEq)]
  exact String.toList_inj

/- A database column takes a text that UTF-8 can encode. -/
def isStorable (text : Text) : Bool := !text.any isSurrogate

theorem isStorable_take {text : Text} (hStorable : text.isStorable = true) (count : Nat) :
    isStorable (text.take count) = true := by
  unfold isStorable at hStorable ⊢
  rw [Bool.not_eq_true', any_eq_false] at hStorable ⊢
  exact fun point hMem => hStorable point (mem_of_mem_take hMem)

/- Encoding as UTF-8 fails on a lone surrogate. -/
def encode (text : Text) : Option Text :=
  if text.any isSurrogate then none else some text

def strip (text : Text) : Text := (text.dropWhile isSpace).rdropWhile isSpace

@[simp] theorem strip_nil : strip [] = [] := rfl

variable {text : Text}

theorem head_strip_not_space (hNonempty : strip text ≠ []) :
    isSpace ((strip text).head hNonempty) = false := by
  have hPrefix : strip text <+: text.dropWhile isSpace := rdropWhile_prefix _ _
  have hDropped : text.dropWhile isSpace ≠ [] := by
    intro hNil
    rw [hNil] at hPrefix
    exact hNonempty (prefix_nil.mp hPrefix)
  have hHead := head_dropWhile_not isSpace hDropped
  rw [hPrefix.head hNonempty]
  simpa using hHead

theorem strip_idempotent (text : Text) : strip (strip text) = strip text := by
  have hDrop : (strip text).dropWhile isSpace = strip text := by
    cases hStrip : strip text with
    | nil => rfl
    | cons point rest =>
      have hHead := @head_strip_not_space text (by simp [hStrip])
      simp only [hStrip, head_cons] at hHead
      simp [hHead]
  rw [strip, hDrop]
  exact rdropWhile_idempotent _ _

variable {point : CodePoint}

theorem mem_of_mem_strip (hMem : point ∈ strip text) : point ∈ text := by
  have hFront := rdropWhile_prefix isSpace (text.dropWhile isSpace)
  exact (dropWhile_suffix _).subset (hFront.subset hMem)

theorem strip_eq_self_iff (hNonempty : text ≠ []) : strip text = text ↔
    isSpace (text.head hNonempty) = false ∧ isSpace (text.getLast hNonempty) = false := by
  constructor
  · intro hSame
    have hFront := rdropWhile_prefix isSpace (text.dropWhile isSpace)
    have hDrop : text.dropWhile isSpace = text := (dropWhile_suffix isSpace).eq_of_length_le
      ((congrArg length hSame.symm).trans_le hFront.length_le)
    have hLast : text.rdropWhile isSpace = text := by
      unfold strip at hSame
      rwa [hDrop] at hSame
    cases text with
    | nil => exact absurd rfl hNonempty
    | cons point rest =>
      exact ⟨by simpa using dropWhile_eq_self_iff.mp hDrop,
        by simpa using rdropWhile_eq_self_iff.mp hLast hNonempty⟩
  · rintro ⟨hHead, hLast⟩
    have hDrop : text.dropWhile isSpace = text := by
      cases text with
      | nil => rfl
      | cons point rest => exact dropWhile_cons_of_neg (by simpa using hHead)
    unfold strip
    rw [hDrop, rdropWhile_eq_self_iff]
    intro _
    simp [hLast]

---- Collapsing Whitespace

/- `re.sub(r"\s+", " ", text)`, given whether the last code point read was whitespace. -/
def collapseFrom : Bool → Text → Text
| _, [] => []
| inRun, point :: rest =>
  if isSpace point then
    if inRun then collapseFrom true rest
    else 32 :: collapseFrom true rest
  else point :: collapseFrom false rest

def collapse (text : Text) : Text := collapseFrom false text

/- All whitespace is single spaces, and none starts a text that follows whitespace. -/
def CollapsedFrom : Bool → Text → Prop
| _, [] => True
| inRun, point :: rest =>
  if isSpace point then point = 32 ∧ inRun = false ∧ CollapsedFrom true rest
  else CollapsedFrom false rest

theorem collapsedFrom_collapseFrom (inRun : Bool) (text : Text) :
    CollapsedFrom inRun (collapseFrom inRun text) := by
  induction text generalizing inRun with
  | nil => trivial
  | cons point rest ih =>
    by_cases hSpace : isSpace point = true
    · cases inRun with
      | true => simpa [collapseFrom, hSpace] using ih true
      | false => simpa [collapseFrom, hSpace, CollapsedFrom] using ih true
    · simpa [collapseFrom, hSpace, CollapsedFrom] using ih false

variable {inRun : Bool} {first second : Text}

theorem collapseFrom_of_collapsedFrom (hCollapsed : CollapsedFrom inRun text) :
    collapseFrom inRun text = text := by
  induction text generalizing inRun with
  | nil => rfl
  | cons point rest ih =>
    by_cases hSpace : isSpace point = true
    · simp only [CollapsedFrom, hSpace, if_true]
      at hCollapsed
      rcases hCollapsed with ⟨hPoint, hRun, hRest⟩
      simp [collapseFrom, hRun, ih hRest, hPoint]
    · simp only [CollapsedFrom, hSpace] at hCollapsed
      simp [collapseFrom, hSpace, ih hCollapsed]

theorem CollapsedFrom.weaken (hCollapsed : CollapsedFrom inRun text) :
    CollapsedFrom false text := by
  cases text with
  | nil => trivial
  | cons point rest =>
    by_cases hSpace : isSpace point = true
    · simp only [CollapsedFrom, hSpace, if_true]
      at hCollapsed ⊢
      exact ⟨hCollapsed.1, trivial, hCollapsed.2.2⟩
    · simpa [CollapsedFrom, hSpace] using hCollapsed

theorem CollapsedFrom.of_append_left (hCollapsed : CollapsedFrom inRun (first ++ second)) :
    CollapsedFrom inRun first := by
  induction first generalizing inRun with
  | nil => trivial
  | cons point rest ih =>
    by_cases hSpace : isSpace point = true
    · simp only [cons_append, CollapsedFrom, hSpace, if_true] at hCollapsed ⊢
      exact ⟨hCollapsed.1, hCollapsed.2.1, ih hCollapsed.2.2⟩
    · simp only [cons_append, CollapsedFrom, hSpace]
      at hCollapsed ⊢
      exact ih hCollapsed

theorem CollapsedFrom.of_append_right (hCollapsed : CollapsedFrom inRun (first ++ second)) :
    CollapsedFrom false second := by
  induction first generalizing inRun with
  | nil => exact hCollapsed.weaken
  | cons point rest ih =>
    by_cases hSpace : isSpace point = true
    · simp only [cons_append, CollapsedFrom, hSpace, if_true] at hCollapsed
      exact ih hCollapsed.2.2
    · simp only [cons_append, CollapsedFrom, hSpace]
      at hCollapsed
      exact ih hCollapsed

theorem collapse_strip_collapse (text : Text) :
    collapse (strip (collapse text)) = strip (collapse text) := by
  have hCollapsed : CollapsedFrom false (collapse text) := collapsedFrom_collapseFrom false text
  have hSuffix : (collapse text).dropWhile isSpace <:+ collapse text := dropWhile_suffix isSpace
  rcases hSuffix with ⟨leading, hLeading⟩
  rw [← hLeading] at hCollapsed
  have hDropped := hCollapsed.of_append_right
  rcases rdropWhile_prefix isSpace ((collapse text).dropWhile isSpace) with ⟨trailing, hTrailing⟩
  rw [← hTrailing] at hDropped
  exact collapseFrom_of_collapsedFrom hDropped.of_append_left

---- Decimal Rendering

def decimal (number : Nat) : Text := (Nat.toDigits 10 number).map ofChar

def decimalInt (number : Int) : Text :=
  if number < 0 then 45 :: decimal number.natAbs
  else decimal number.natAbs

def isDigit (point : CodePoint) : Bool :=
  decide (48 ≤ point.val ∧ point.val ≤ 57)

/- `[0-9a-f]`. -/
def isLowerHex (point : CodePoint) : Bool :=
  isDigit point || decide (97 ≤ point.val ∧ point.val ≤ 102)

theorem decimal_injective : Function.Injective decimal := by
  intro first second hEq
  have hDigits : Nat.toDigits 10 first = Nat.toDigits 10 second :=
    map_injective_iff.mpr ofChar_injective hEq
  have hFirst := Nat.ofDigitChars_ten_toDigits (n := first)
  rw [hDigits, Nat.ofDigitChars_ten_toDigits] at hFirst
  exact hFirst.symm

theorem decimal_ne_nil (number : Nat) : decimal number ≠ [] := by
  simp [decimal, Nat.toDigits_ne_nil]

theorem isDigit_of_mem_decimal {number : Nat} (hMem : point ∈ decimal number) :
    isDigit point = true := by
  rcases mem_map.mp hMem with ⟨character, hCharacter, rfl⟩
  have hDigit := Nat.isDigit_of_mem_toDigits (by decide) (by decide) hCharacter
  simp only [Char.isDigit, Bool.and_eq_true, decide_eq_true_eq] at hDigit
  have hLow : 48 ≤ character.val.toNat := hDigit.1
  have hHigh : character.val.toNat ≤ 57 := hDigit.2
  exact decide_eq_true ⟨hLow, hHigh⟩

theorem decimalInt_injective : Function.Injective decimalInt := by
  have hMinus : ∀ number : Nat, (45 : CodePoint) ∉ decimal number := by
    intro number hMem
    exact absurd (isDigit_of_mem_decimal hMem) (by decide)
  intro first second hEq
  unfold decimalInt at hEq
  by_cases hFirst : first < 0
  · by_cases hSecond : second < 0
    · simp only [hFirst, hSecond, if_true, cons.injEq, true_and] at hEq
      have hAbs := decimal_injective hEq
      omega
    · simp only [hFirst, hSecond, if_true, if_false]
      at hEq
      exact absurd (hEq ▸ mem_cons_self) (hMinus second.natAbs)
  · by_cases hSecond : second < 0
    · simp only [hFirst, hSecond, if_true, if_false]
      at hEq
      exact absurd (hEq ▸ mem_cons_self) (hMinus first.natAbs)
    · simp only [hFirst, hSecond, if_false] at hEq
      have hAbs := decimal_injective hEq
      omega

end Text

end PamOlive.Foundations
