import PamOlive.Foundations.Json

/-
  The canonical JSON text determines the value.

  Scalars other than strings are *atoms*: nonempty texts of letters, digits, signs and points. A
  JSON text is read back uniquely before any rest that does not continue an atom.
-/

---- Strings

namespace PamOlive.Foundations.Json

open List

def hexValue (point : CodePoint) : Nat :=
  if point.val < 58 then point.val - 48 else point.val - 87

def unescape : Text → Option (CodePoint × Text)
| 92 :: 34 :: rest => some (34, rest)
| 92 :: 92 :: rest => some (92, rest)
| 92 :: 98 :: rest => some (8, rest)
| 92 :: 102 :: rest => some (12, rest)
| 92 :: 110 :: rest => some (10, rest)
| 92 :: 114 :: rest => some (13, rest)
| 92 :: 116 :: rest => some (9, rest)
| 92 :: 117 :: 48 :: 48 :: high :: low :: rest =>
  some (Fin.ofNat 0x110000 (16 * hexValue high + hexValue low), rest)
| point :: rest => some (point, rest)
| [] => none

theorem hexValue_hexDigit : ∀ number < 16, hexValue (hexDigit number) = number := by
  decide

variable {rest rest' text text' : Text} {point : CodePoint}

theorem unescape_cons (hSlash : point ≠ 92) : unescape (point :: rest) = some (point, rest) := by
  unfold unescape
  split
  case h_9 hEq =>
    rcases cons.inj hEq with ⟨rfl, rfl⟩
    rfl
  case h_10 hEq => exact absurd hEq (cons_ne_nil _ _)
  all_goals
    rename_i hEq
    exact absurd (cons.inj hEq).1 hSlash

theorem escapePoint_cases (point : CodePoint) :
    (∃ tail, escapePoint point = 92 :: tail) ∨ (escapePoint point = [point] ∧ point ≠ 34) := by
  unfold escapePoint
  split_ifs with hQuote
  case neg => exact .inr ⟨rfl, hQuote⟩
  all_goals exact .inl ⟨_, rfl⟩

theorem unescape_escapePoint (point : CodePoint) (rest : Text) :
    unescape (escapePoint point ++ rest) = some (point, rest) := by
  unfold escapePoint
  split_ifs with h₁ h₂ h₃ h₄ h₅ h₆ h₇ h₈
  · subst h₁
    rfl
  · subst h₂
    rfl
  · subst h₃
    rfl
  · subst h₄
    rfl
  · subst h₅
    rfl
  · subst h₆
    rfl
  · subst h₇
    rfl
  · have hHigh := hexValue_hexDigit (point.val / 16) (by omega)
    have hLow := hexValue_hexDigit (point.val % 16) (by omega)
    have hCode : 16 * (point.val / 16) + point.val % 16 = point.val := by
      omega
    have hPoint : Fin.ofNat 0x110000 point.val = point := by
      apply Fin.ext
      exact Nat.mod_eq_of_lt point.isLt
    change some (Fin.ofNat 0x110000 (16 * hexValue (hexDigit (point.val / 16)) +
      hexValue (hexDigit (point.val % 16))), rest) = some (point, rest)
    rw [hHigh, hLow, hCode, hPoint]
  · exact unescape_cons h₂

theorem escapePoint_append_inj {point' : CodePoint}
    (hEq : escapePoint point ++ rest = escapePoint point' ++ rest') :
    point = point' ∧ rest = rest' := by
  have hRead := congrArg unescape hEq
  simpa [unescape_escapePoint] using hRead

theorem escapePoint_ne_quote (point : CodePoint) (rest rest' : Text) :
    escapePoint point ++ rest ≠ 34 :: rest' := by
  intro hEq
  rcases escapePoint_cases point with ⟨tail, hEscape⟩ | ⟨hEscape, hQuote⟩
  · rw [hEscape] at hEq
    exact absurd (cons.inj hEq).1 (by decide)
  · rw [hEscape] at hEq
    exact hQuote (cons.inj hEq).1

theorem quoteBody_append_inj
    (hEq : text.flatMap escapePoint ++ 34 :: rest = text'.flatMap escapePoint ++ 34 :: rest') :
    text = text' ∧ rest = rest' := by
  induction text generalizing text' with
  | nil =>
    cases text' with
    | nil => simpa using hEq
    | cons point' tail' =>
      simp only [flatMap_nil, nil_append, flatMap_cons, append_assoc] at hEq
      exact absurd hEq.symm (escapePoint_ne_quote point' _ _)
  | cons point tail ih =>
    cases text' with
    | nil =>
      simp only [flatMap_nil, nil_append, flatMap_cons, append_assoc] at hEq
      exact absurd hEq (escapePoint_ne_quote point _ _)
    | cons point' tail' =>
      simp only [flatMap_cons, append_assoc] at hEq
      rcases escapePoint_append_inj hEq with ⟨hPoint, hRest⟩
      rcases ih hRest with ⟨hTail, hRest⟩
      exact ⟨by rw [hPoint, hTail], hRest⟩

theorem quote_append_inj (hEq : quote text ++ rest = quote text' ++ rest') :
    text = text' ∧ rest = rest' := by
  apply quoteBody_append_inj
  simpa [quote] using hEq

---- Atoms

def isAtomPoint (point : CodePoint) : Bool :=
  let code := point.val
  decide (code = 43 ∨ code = 45 ∨ code = 46 ∨ (48 ≤ code ∧ code ≤ 57) ∨ (65 ≤ code ∧ code ≤ 90) ∨
    (97 ≤ code ∧ code ≤ 122))

def atom : Json → Option Text
| .null => some "null"
| .bool true => some "true"
| .bool false => some "false"
| .int value => some (Text.decimalInt value)
| .float value => some (dumpsFloat value)
| _ => none

variable {value value' : Json}

theorem dumps_of_atom (hAtom : atom value = some text) : dumps value = text := by
  cases value with
  | bool value =>
    cases value with
    | true => simpa [atom, dumps] using hAtom
    | false => simpa [atom, dumps] using hAtom
  | null | int | float => simpa [atom, dumps] using hAtom
  | str | arr | obj => simp [atom] at hAtom

theorem isNumeric_of_mem_decimalInt {number : Int} (hMem : point ∈ Text.decimalInt number) :
    Text.isDigit point = true ∨ point = 45 := by
  unfold Text.decimalInt at hMem
  split at hMem
  · rcases mem_cons.mp hMem with rfl | hDigit
    · exact Or.inr rfl
    · exact Or.inl (Text.isDigit_of_mem_decimal hDigit)
  · exact Or.inl (Text.isDigit_of_mem_decimal hMem)

theorem isAtomPoint_of_isDigit (hDigit : Text.isDigit point = true) : isAtomPoint point = true := by
  simp only [Text.isDigit, decide_eq_true_eq] at hDigit
  simp only [isAtomPoint, decide_eq_true_eq]
  omega

theorem isAtomPoint_of_mem_floatText {value : FloatText} (hMem : point ∈ value.text) :
    isAtomPoint point = true := by
  rcases value.numeric point hMem with hDigit | hSign
  · exact isAtomPoint_of_isDigit hDigit
  · simp only [mem_cons, not_mem_nil, or_false]
    at hSign
    rcases hSign with rfl | rfl | rfl | rfl <;> decide

def words : List (Text × Json) :=
  [("null", .null), ("true", .bool true), ("false", .bool false), ("NaN", .float .nan),
    ("Infinity", .float .inf), ("-Infinity", .float .negInf)]

def isNumeralPoint (point : CodePoint) : Bool :=
  Text.isDigit point || ([43, 45, 46, 101] : Text).contains point

section

variable (hAtom : atom value = some text)

include hAtom

theorem atom_cases : (text ∈ words.map Prod.fst ∧ lookup text words = some value) ∨
    (∃ number, value = .int number ∧ text = Text.decimalInt number) ∨
    (∃ number, value = .float (.finite number) ∧ text = number.text) := by
  cases value with
  | null =>
    simp only [atom, Option.some.injEq] at hAtom
    subst hAtom
    exact Or.inl ⟨by decide, rfl⟩
  | bool value =>
    cases value <;>
    · simp only [atom, Option.some.injEq] at hAtom
      subst hAtom
      exact Or.inl ⟨by decide, rfl⟩
  | int value =>
    simp only [atom, Option.some.injEq] at hAtom
    exact Or.inr (Or.inl ⟨value, rfl, hAtom.symm⟩)
  | float value =>
    simp only [atom, Option.some.injEq] at hAtom
    cases value with
    | finite value => exact Or.inr (Or.inr ⟨value, rfl, hAtom.symm⟩)
    | nan | inf | negInf =>
      subst hAtom
      exact Or.inl ⟨by decide, rfl⟩
  | str | arr | obj => simp [atom] at hAtom

theorem all_isAtomPoint_of_atom : text.all isAtomPoint = true := by
  have hWords : ∀ word ∈ words.map Prod.fst, word.all isAtomPoint = true := by
    decide
  rcases atom_cases hAtom with ⟨hWord, _⟩ | ⟨number, _, rfl⟩ | ⟨number, _, rfl⟩
  · exact hWords text hWord
  · rw [all_eq_true]
    intro point hMem
    rcases isNumeric_of_mem_decimalInt hMem with hDigit | rfl
    · exact isAtomPoint_of_isDigit hDigit
    · decide
  · rw [all_eq_true]
    intro point hMem
    exact isAtomPoint_of_mem_floatText hMem

theorem atom_ne_nil : text ≠ [] := by
  rcases atom_cases hAtom with ⟨hWord, _⟩ | ⟨number, _, rfl⟩ | ⟨number, _, rfl⟩
  · rintro rfl
    revert hWord
    decide
  · unfold Text.decimalInt
    split
    · simp
    · exact Text.decimal_ne_nil _
  · intro hNil
    have hMarked := number.marked
    simp [hNil] at hMarked

end

theorem all_isNumeralPoint_decimalInt (number : Int) :
    (Text.decimalInt number).all isNumeralPoint = true := by
  rw [all_eq_true]
  intro point hMem
  rcases isNumeric_of_mem_decimalInt hMem with hDigit | rfl
  · simp [isNumeralPoint, hDigit]
  · decide

theorem all_isNumeralPoint_floatText (value : FloatText) :
    value.text.all isNumeralPoint = true := by
  rw [all_eq_true]
  intro point hMem
  rcases value.numeric point hMem with hDigit | hSign
  · simp [isNumeralPoint, hDigit]
  · simp [isNumeralPoint, hSign]

theorem not_all_isNumeralPoint_of_mem_words :
    ∀ text ∈ words.map Prod.fst, text.all isNumeralPoint = false := by
  decide

theorem decimalInt_ne_floatText (number : Int) (value : FloatText) :
    Text.decimalInt number ≠ value.text := by
  intro hEq
  have hNone : ∀ point ∈ value.text, Text.isDigit point = true ∨ point = 45 := by
    intro point hMem
    rw [← hEq] at hMem
    exact isNumeric_of_mem_decimalInt hMem
  rcases value.marked with hPoint | hExponent
  · exact absurd (hNone 46 hPoint) (by decide)
  · exact absurd (hNone 101 hExponent) (by decide)

theorem floatText_injective {value value' : FloatText} (hEq : value.text = value'.text) :
    value = value' := by
  cases value
  cases value'
  simpa using hEq

theorem atom_injective (hAtom : atom value = some text) (hAtom' : atom value' = some text) :
    value = value' := by
  rcases atom_cases hAtom with ⟨hWord, hLookup⟩ | ⟨number, rfl, hText⟩ | ⟨number, rfl, hText⟩
  · have hNumeral := not_all_isNumeralPoint_of_mem_words text hWord
    rcases atom_cases hAtom' with ⟨_, hLookup'⟩ | ⟨number', _, hText'⟩ | ⟨number', _, hText'⟩
    · exact Option.some.inj (hLookup.symm.trans hLookup')
    · rw [hText', all_isNumeralPoint_decimalInt] at hNumeral
      simp at hNumeral
    · rw [hText', all_isNumeralPoint_floatText] at hNumeral
      simp at hNumeral
  · rcases atom_cases hAtom' with ⟨hWord, _⟩ | ⟨number', rfl, hText'⟩ | ⟨number', rfl, hText'⟩
    · have hNumeral := not_all_isNumeralPoint_of_mem_words text hWord
      rw [hText, all_isNumeralPoint_decimalInt] at hNumeral
      simp at hNumeral
    · rw [Text.decimalInt_injective (hText.symm.trans hText')]
    · exact absurd (hText.symm.trans hText') (decimalInt_ne_floatText number number')
  · rcases atom_cases hAtom' with ⟨hWord, _⟩ | ⟨number', rfl, hText'⟩ | ⟨number', rfl, hText'⟩
    · have hNumeral := not_all_isNumeralPoint_of_mem_words text hWord
      rw [hText, all_isNumeralPoint_floatText] at hNumeral
      simp at hNumeral
    · exact absurd (hText'.symm.trans hText) (decimalInt_ne_floatText number' number)
    · rw [floatText_injective (hText.symm.trans hText')]

---- Reading A Value Back

/- A rest that does not continue an atom. -/
def Stops : Text → Prop
| [] => True
| point :: _ => isAtomPoint point = false

theorem atomText_append_inj (hText : text.all isAtomPoint = true)
    (hText' : text'.all isAtomPoint = true) (hStops : Stops rest) (hStops' : Stops rest')
    (hEq : text ++ rest = text' ++ rest') : text = text' ∧ rest = rest' := by
  have hRead : ∀ {text rest : Text}, text.all isAtomPoint = true → Stops rest →
    (text ++ rest).takeWhile isAtomPoint = text := by
    intro text rest hAll hStops
    rw [takeWhile_append_of_pos (all_eq_true.mp hAll)]
    cases rest with
    | nil => simp
    | cons point tail =>
      rw [takeWhile_cons_of_neg (ne_true_of_eq_false hStops), append_nil]
  have hSame : text = text' := by rw [← hRead hText hStops, hEq, hRead hText' hStops']
  subst hSame
  exact ⟨rfl, append_cancel_left hEq⟩

theorem stops_dumpsItems (items : List Json) (rest : Text) : Stops (dumpsItems items ++ rest) := by
  cases items with
  | nil | cons =>
    simp only [dumpsItems, cons_append, Stops]
    decide

theorem stops_dumpsFields (fields : List (Text × Json)) (rest : Text) :
    Stops (dumpsFields fields ++ rest) := by
  cases fields with
  | nil | cons =>
    simp only [dumpsFields, cons_append, Stops]
    decide

def opener : Json → Option CodePoint
| .str _ => some 34
| .arr _ => some 91
| .obj _ => some 123
| _ => none

theorem exists_cons_dumps (value : Json) :
    ∃ point tail, dumps value = point :: tail ∧ opener value =
      if isAtomPoint point then none
      else some point := by
  have hAtomic : ∀ text, atom value = some text → opener value = none →
    ∃ point tail, dumps value = point :: tail ∧ opener value =
      if isAtomPoint point then none
      else some point := by
    intro text hAtom hOpener
    have hAll := all_isAtomPoint_of_atom hAtom
    cases text with
    | nil => exact absurd rfl (atom_ne_nil hAtom)
    | cons point tail =>
      simp only [all_cons, Bool.and_eq_true] at hAll
      exact ⟨point, tail, dumps_of_atom hAtom, by
        simp [hOpener, hAll.1]⟩
  cases value with
  | null | int | float => exact hAtomic _ rfl rfl
  | bool value => cases value <;> exact hAtomic _ rfl rfl
  | str text => exact ⟨34, _, rfl, rfl⟩
  | arr items => cases items <;> exact ⟨91, _, rfl, rfl⟩
  | obj fields => cases fields <;> exact ⟨123, _, rfl, rfl⟩

theorem opener_eq_of_dumps_append_eq (hEq : dumps value ++ rest = dumps value' ++ rest') :
    opener value = opener value' := by
  rcases exists_cons_dumps value with ⟨point, tail, hDumps, hOpener⟩
  rcases exists_cons_dumps value' with ⟨point', tail', hDumps', hOpener'⟩
  rw [hDumps, hDumps'] at hEq
  simp only [cons_append, cons.injEq] at hEq
  rw [hOpener, hOpener', hEq.1]

theorem exists_atom_of_opener_none (hOpener : opener value = none) :
    ∃ text, atom value = some text := by
  cases value with
  | bool value => cases value <;> exact ⟨_, rfl⟩
  | null | int | float => exact ⟨_, rfl⟩
  | str | arr | obj => simp [opener] at hOpener

theorem dumps_append_ne_close (value : Json) (rest rest' : Text) :
    dumps value ++ rest ≠ 93 :: rest' := by
  intro hEq
  rcases exists_cons_dumps value with ⟨point, tail, hDumps, hOpener⟩
  rw [hDumps] at hEq
  simp only [cons_append, cons.injEq] at hEq
  have hClose : (if isAtomPoint 93 then none else some (93 : CodePoint)) = some 93 := by
    decide
  rw [hEq.1, hClose] at hOpener
  cases value <;> simp [opener] at hOpener

theorem atom_append_inj (hOpener : opener value = none) (hStops : Stops rest)
    (hStops' : Stops rest')
    (hEq : dumps value ++ rest = dumps value' ++ rest') : value = value' ∧ rest = rest' := by
  have hOpener' : opener value' = none := by rw [← opener_eq_of_dumps_append_eq hEq, hOpener]
  rcases exists_atom_of_opener_none hOpener with ⟨text, hAtom⟩
  rcases exists_atom_of_opener_none hOpener' with ⟨text', hAtom'⟩
  rw [dumps_of_atom hAtom, dumps_of_atom hAtom'] at hEq
  rcases atomText_append_inj (all_isAtomPoint_of_atom hAtom) (all_isAtomPoint_of_atom hAtom')
    hStops hStops' hEq with
    ⟨rfl, hRest⟩
  exact ⟨atom_injective hAtom hAtom', hRest⟩

theorem dumpsItems_append_eq {items items' : List Json}
    (hEq : dumps (.arr items) ++ rest = dumps (.arr items') ++ rest') :
    dumpsItems items ++ rest = dumpsItems items' ++ rest' := by
  cases items with
  | nil =>
    cases items' with
    | nil => simpa [dumps] using hEq
    | cons item' items' =>
      simp only [dumps, cons_append, cons.injEq, append_assoc, nil_append, true_and] at hEq
      exact absurd hEq.symm (dumps_append_ne_close _ _ _)
  | cons item items =>
    cases items' with
    | nil =>
      simp only [dumps, cons_append, cons.injEq, append_assoc, nil_append, true_and] at hEq
      exact absurd hEq (dumps_append_ne_close _ _ _)
    | cons item' items' => simpa [dumps, dumpsItems] using hEq

theorem dumpsFields_append_eq {fields fields' : List (Text × Json)}
    (hEq : dumps (.obj fields) ++ rest = dumps (.obj fields') ++ rest') :
    dumpsFields fields ++ rest = dumpsFields fields' ++ rest' := by
  cases fields with
  | nil =>
    cases fields' with
    | nil => simpa [dumps] using hEq
    | cons => simp [dumps, quote] at hEq
  | cons =>
    cases fields' with
    | nil => simp [dumps, quote] at hEq
    | cons => simpa [dumps, dumpsFields] using hEq

mutual

/- A JSON text is read back uniquely in front of any rest that does not continue an atom. -/
theorem dumps_append_inj : ∀ (value value' : Json) (rest rest' : Text), Stops rest → Stops rest' →
    dumps value ++ rest = dumps value' ++ rest' → value = value' ∧ rest = rest'
  | .null, value', rest, rest', hStops, hStops', hEq => atom_append_inj rfl hStops hStops' hEq
  | .bool _, value', rest, rest', hStops, hStops', hEq => atom_append_inj rfl hStops hStops' hEq
  | .int _, value', rest, rest', hStops, hStops', hEq => atom_append_inj rfl hStops hStops' hEq
  | .float _, value', rest, rest', hStops, hStops', hEq => atom_append_inj rfl hStops hStops' hEq
  | .str text, value', rest, rest', _, _, hEq => by
    have hOpener := opener_eq_of_dumps_append_eq hEq
    cases value' with
    | str text' =>
      simp only [dumps] at hEq
      rcases quote_append_inj hEq with ⟨rfl, hRest⟩
      exact ⟨rfl, hRest⟩
    | null | bool | int | float | arr | obj => simp [opener] at hOpener
  | .arr items, value', rest, rest', _, _, hEq => by
    have hOpener := opener_eq_of_dumps_append_eq hEq
    cases value' with
    | arr items' =>
      rcases dumpsItems_append_inj items items' rest rest' (dumpsItems_append_eq hEq) with
        ⟨rfl, hRest⟩
      exact ⟨rfl, hRest⟩
    | null | bool | int | float | str | obj => simp [opener] at hOpener
  | .obj fields, value', rest, rest', _, _, hEq => by
    have hOpener := opener_eq_of_dumps_append_eq hEq
    cases value' with
    | obj fields' =>
      rcases dumpsFields_append_inj fields fields' rest rest' (dumpsFields_append_eq hEq) with
        ⟨rfl, hRest⟩
      exact ⟨rfl, hRest⟩
    | null | bool | int | float | str | arr => simp [opener] at hOpener

theorem dumpsItems_append_inj : ∀ (items items' : List Json) (rest rest' : Text),
    dumpsItems items ++ rest = dumpsItems items' ++ rest' → items = items' ∧ rest = rest'
  | [], [], rest, rest', hEq => by
    simpa [dumpsItems] using hEq
  | [], _ :: _, rest, rest', hEq => by
    simp [dumpsItems] at hEq
  | _ :: _, [], rest, rest', hEq => by
    simp [dumpsItems] at hEq
  | item :: items, item' :: items', rest, rest', hEq => by
    simp only [dumpsItems, cons_append, cons.injEq, append_assoc, true_and] at hEq
    rcases dumps_append_inj item item' _ _ (stops_dumpsItems items rest)
      (stops_dumpsItems items' rest') hEq with
      ⟨hItem, hTail⟩
    rcases dumpsItems_append_inj items items' rest rest' hTail with ⟨hItems, hRest⟩
    exact ⟨by rw [hItem, hItems], hRest⟩

theorem dumpsFields_append_inj : ∀ (fields fields' : List (Text × Json)) (rest rest' : Text),
    dumpsFields fields ++ rest = dumpsFields fields' ++ rest' → fields = fields' ∧ rest = rest'
  | [], [], rest, rest', hEq => by
    simpa [dumpsFields] using hEq
  | [], (_, _) :: _, rest, rest', hEq => by
    simp [dumpsFields] at hEq
  | (_, _) :: _, [], rest, rest', hEq => by
    simp [dumpsFields] at hEq
  | (key, value) :: fields, (key', value') :: fields', rest, rest', hEq => by
    simp only [dumpsFields, cons_append, cons.injEq, append_assoc, true_and] at hEq
    rcases quote_append_inj hEq with ⟨hKey, hEq⟩
    simp only [cons.injEq, true_and] at hEq
    rcases dumps_append_inj value value' _ _ (stops_dumpsFields fields rest)
      (stops_dumpsFields fields' rest') hEq with
      ⟨hValue, hTail⟩
    rcases dumpsFields_append_inj fields fields' rest rest' hTail with ⟨hFields, hRest⟩
    exact ⟨by rw [hKey, hValue, hFields], hRest⟩

end

theorem dumps_injective : Function.Injective dumps := by
  intro value value' hEq
  have hAppend : dumps value ++ [] = dumps value' ++ [] := by rw [hEq]
  exact (dumps_append_inj value value' [] [] trivial trivial hAppend).1

theorem insertField_ne_nil (field : Text × Json) (fields : List (Text × Json)) :
    insertField field fields ≠ [] := by
  cases fields with
  | nil => simp [insertField]
  | cons next rest =>
    unfold insertField
    split <;> simp

theorem sortKeys_eq_empty_iff (value : Json) : sortKeys value = .obj [] ↔ value = .obj [] := by
  cases value with
  | obj fields =>
    cases fields with
    | nil => simp [sortKeys, sortKeysFields]
    | cons field rest => simp [sortKeys, sortKeysFields, insertField_ne_nil]
  | _ => simp [sortKeys]

theorem truthy_sortKeys (value : Json) : (sortKeys value).truthy = value.truthy := by
  cases value with
  | arr items =>
    cases items with
    | nil => rfl
    | cons item rest => rfl
  | obj fields =>
    cases fields with
    | nil => rfl
    | cons field rest => simp [sortKeys, sortKeysFields, truthy, insertField_ne_nil]
  | _ => rfl

/- Two values have one canonical text exactly when they are equal up to the order of entries. -/
theorem canonical_eq_iff (value value' : Json) :
    canonical value = canonical value' ↔ sortKeys value = sortKeys value' :=
  dumps_injective.eq_iff

end PamOlive.Foundations.Json
