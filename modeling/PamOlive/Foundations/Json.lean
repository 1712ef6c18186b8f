import PamOlive.Foundations.Text

/-
  JSON values as Python sees them.

  Numbers split into integers and floats, strings are Python texts, and objects are dictionaries in
  insertion order. A finite float is carried by its `repr`, which determines it. `Json.canonical`
  is `json.dumps` with sorted keys and no blanks.
-/

---- Values

namespace PamOlive.Foundations

/- The `repr` of a finite float: a decimal numeral with a fraction or an exponent. -/
structure FloatText where
  text : Text
  numeric : ∀ point ∈ text, Text.isDigit point = true ∨ point ∈ ([43, 45, 46, 101] : Text)
  marked : 46 ∈ text ∨ 101 ∈ text
deriving DecidableEq

inductive PyFloat where
  | finite (value : FloatText)
  | nan | inf | negInf
deriving DecidableEq

inductive Json where
  | null
  | bool (value : Bool)
  | int (value : Int)
  | float (value : PyFloat)
  | str (value : Text)
  | arr (items : List Json)
  | obj (fields : List (Text × Json))

namespace PyFloat

def truthy : PyFloat → Bool
| .finite value => decide (value.text ≠ "0.0" ∧ value.text ≠ "-0.0")
| _ => true

end PyFloat

namespace Json

def truthy : Json → Bool
| .null => false
| .bool value => value
| .int value => decide (value ≠ 0)
| .float value => value.truthy
| .str value => decide (value ≠ [])
| .arr items => !items.isEmpty
| .obj fields => !fields.isEmpty

def lookup (key : Text) : List (Text × Json) → Option Json
| [] => none
| (name, value) :: rest => if name = key then some value else lookup key rest

/- `value.get(key, default)`; anything but a dictionary raises `AttributeError`. -/
def get (value : Json) (key : Text) (fallback : Json) : Option Json :=
  match value with
  | .obj fields => some ((lookup key fields).getD fallback)
  | _ => none

def isStr (value : Json) (text : Text) : Bool :=
  match value with
  | .str content => decide (content = text)
  | _ => false

---- Rendering With `str`

def hex (width number : Nat) : Text :=
  let digits := (Nat.toDigits 16 number).map CodePoint.ofChar
  List.replicate (width - digits.length) 48 ++ digits

/- One code point inside a `repr`. Printability beyond ASCII is a parameter. -/
def reprPoint (printable : CodePoint → Bool) (quote point : CodePoint) : Text :=
  let code := point.val
  if point = quote ∨ point = 92 then [92, point]
  else if code = 9 then [92, 116]
  else if code = 10 then [92, 110]
  else if code = 13 then [92, 114]
  else if code < 32 ∨ code = 127 then [92, 120] ++ hex 2 code
  else if code < 127 ∨ printable point then [point]
  else if code < 256 then [92, 120] ++ hex 2 code
  else if code < 65536 then [92, 117] ++ hex 4 code
  else [92, 85] ++ hex 8 code

def reprText (printable : CodePoint → Bool) (text : Text) : Text :=
  let quote : CodePoint :=
    if 39 ∈ text ∧ 34 ∉ text then 34 else 39
  quote :: (text.flatMap (reprPoint printable quote) ++ [quote])

def reprFloat : PyFloat → Text
| .finite value => value.text
| .nan => "nan"
| .inf => "inf"
| .negInf => "-inf"

mutual

def repr (printable : CodePoint → Bool) : Json → Text
| .null => "None"
| .bool true => "True"
| .bool false => "False"
| .int value => Text.decimalInt value
| .float value => reprFloat value
| .str value => reprText printable value
| .arr items => 91 :: (reprItems printable items ++ [93])
| .obj fields => 123 :: (reprFields printable fields ++ [125])

def reprItems (printable : CodePoint → Bool) : List Json → Text
| [] => []
| [item] => repr printable item
| item :: rest => repr printable item ++ [44, 32] ++ reprItems printable rest

def reprFields (printable : CodePoint → Bool) : List (Text × Json) → Text
| [] => []
| [(key, value)] => reprText printable key ++ [58, 32] ++ repr printable value
| (key, value) :: rest =>
  reprText printable key ++ [58, 32] ++
    repr printable value ++ [44, 32] ++ reprFields printable rest

end

/- `str(value)`: a string is itself, the rest is `repr`. -/
def pyStr (printable : CodePoint → Bool) : Json → Text
| .str value => value
| value => repr printable value

---- Canonical Serialization

def keyLe : Text → Text → Bool
| [], _ => true
| _ :: _, [] => false
| first :: rest, first' :: rest' =>
  if first = first' then keyLe rest rest'
  else decide (first.val < first'.val)

/- Insert an entry before the first larger key. -/
def insertField (field : Text × Json) : List (Text × Json) → List (Text × Json)
| [] => [field]
| next :: rest =>
  if keyLe field.1 next.1 then field :: next :: rest
  else next :: insertField field rest

mutual

def sortKeys : Json → Json
| .arr items => .arr (sortKeysItems items)
| .obj fields => .obj (sortKeysFields fields)
| value => value

def sortKeysItems : List Json → List Json
| [] => []
| item :: rest => sortKeys item :: sortKeysItems rest

def sortKeysFields : List (Text × Json) → List (Text × Json)
| [] => []
| (key, value) :: rest => insertField (key, sortKeys value) (sortKeysFields rest)

end

def hexDigit (number : Nat) : CodePoint := CodePoint.ofChar (Nat.digitChar number)

def escapePoint (point : CodePoint) : Text :=
  if point = 34 then [92, 34]
  else if point = 92 then [92, 92]
  else if point = 8 then [92, 98]
  else if point = 12 then [92, 102]
  else if point = 10 then [92, 110]
  else if point = 13 then [92, 114]
  else if point = 9 then [92, 116]
  else if point.val < 32 then
    [92, 117, 48, 48, hexDigit (point.val / 16), hexDigit (point.val % 16)]
  else [point]

def quote (text : Text) : Text := 34 :: (text.flatMap escapePoint ++ [34])

def dumpsFloat : PyFloat → Text
| .finite value => value.text
| .nan => "NaN"
| .inf => "Infinity"
| .negInf => "-Infinity"

mutual

/- `json.dumps` with separators `,` and `:` and `ensure_ascii=False`, entries in their order. -/
def dumps : Json → Text
| .null => "null"
| .bool true => "true"
| .bool false => "false"
| .int value => Text.decimalInt value
| .float value => dumpsFloat value
| .str value => quote value
| .arr [] => [91, 93]
| .arr (item :: rest) => 91 :: (dumps item ++ dumpsItems rest)
| .obj [] => [123, 125]
| .obj ((key, value) :: rest) => 123 :: (quote key ++ 58 :: (dumps value ++ dumpsFields rest))

/- The items after the first, and the closing bracket. -/
def dumpsItems : List Json → Text
| [] => [93]
| item :: rest => 44 :: (dumps item ++ dumpsItems rest)

/- The entries after the first, and the closing brace. -/
def dumpsFields : List (Text × Json) → Text
| [] => [125]
| (key, value) :: rest => 44 :: (quote key ++ 58 :: (dumps value ++ dumpsFields rest))

end

/- `json.dumps` with `sort_keys=True`. -/
def canonical (value : Json) : Text := dumps (sortKeys value)

end Json

/- What `json.loads` does with a text: a value, an error of decoding, or another exception. -/
inductive Loaded where
  | value (payload : Json)
  | decodeError | raised

end PamOlive.Foundations
