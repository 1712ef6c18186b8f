import PamOlive.Foundations.Text

/-
  Bytes, and the UTF-8 encoding of texts.

  The code of a code point never starts another, so of two encoded texts that start the same bytes,
  one starts the other.
-/

---- Encoding

namespace PamOlive.Foundations

open List

abbrev Byte := Fin 256

abbrev Bytes := List Byte

def byte (value : Nat) : Byte := ⟨value % 256, Nat.mod_lt _ (by decide)⟩

def encodePoint (point : CodePoint) : Bytes :=
  let code := point.val
  if code < 0x80 then [byte code]
  else if code < 0x800 then [byte (0xC0 + code / 64), byte (0x80 + code % 64)]
  else if code < 0x10000 then
    [byte (0xE0 + code / 4096), byte (0x80 + code / 64 % 64), byte (0x80 + code % 64)]
  else
    [byte (0xF0 + code / 262144), byte (0x80 + code / 4096 % 64),
      byte (0x80 + code / 64 % 64), byte (0x80 + code % 64)]

variable {rest rest' : Bytes} {first second : CodePoint}

theorem length_encodePoint_eq (hEq : encodePoint first ++ rest = encodePoint second ++ rest') :
    (encodePoint first).length = (encodePoint second).length := by
  unfold encodePoint byte at hEq ⊢
  dsimp only at hEq ⊢
  split_ifs at hEq ⊢ <;>
    simp only [cons_append, cons.injEq, Fin.mk.injEq, length_cons] at hEq ⊢ <;>
    omega

theorem encodePoint_injective : Function.Injective encodePoint := by
  intro first second hEq
  refine Fin.ext ?_
  unfold encodePoint byte at hEq
  dsimp only at hEq
  split_ifs at hEq <;>
    simp only [cons.injEq, Fin.mk.injEq] at hEq <;>
    omega

theorem encodePoint_append_inj (hEq : encodePoint first ++ rest = encodePoint second ++ rest') :
    first = second ∧ rest = rest' := by
  have hLength := length_encodePoint_eq hEq
  rcases append_inj hEq hLength with ⟨hCode, hRest⟩
  exact ⟨encodePoint_injective hCode, hRest⟩

def encodePoints (text : Text) : Bytes := text.flatMap encodePoint

/- `str.encode`, with `none` for its exception. -/
def Text.toUtf8 (text : Text) : Option Bytes := text.encode.map encodePoints

theorem encodePoints_append (first second : Text) :
    encodePoints (first ++ second) = encodePoints first ++ encodePoints second :=
  flatMap_append

theorem encodePoints_comparable {first second : Text}
    (hEq : encodePoints first ++ rest = encodePoints second ++ rest') :
    first <+: second ∨ second <+: first := by
  induction first generalizing second with
  | nil => exact .inl nil_prefix
  | cons point tail ih =>
    cases second with
    | nil => exact .inr nil_prefix
    | cons point' tail' =>
      unfold encodePoints at hEq
      rw [flatMap_cons, flatMap_cons, append_assoc, append_assoc] at hEq
      rcases encodePoint_append_inj hEq with ⟨hPoint, hTail⟩
      rw [hPoint, cons_prefix_cons, cons_prefix_cons]
      rcases ih hTail with hStart | hStart
      · exact .inl ⟨rfl, hStart⟩
      · exact .inr ⟨rfl, hStart⟩

---- Decoding

def latin1Point (value : Byte) : CodePoint := ⟨value.val, Nat.lt_trans value.isLt (by decide)⟩

/- `bytes.decode("latin1")`. -/
def latin1 (bytes : Bytes) : Text := bytes.map latin1Point

/- The code point with the given code; longer codes than needed are excluded. -/
def checkedPoint (code : Nat) (bytes : Bytes) : Option CodePoint :=
  if hCode : code < 0x110000 then
    let point : CodePoint := ⟨code, hCode⟩
    if encodePoint point = bytes ∧ point.isSurrogate = false then some point
    else none
  else none

def continued (value : Byte) : Nat := value.val % 64

/- `bytes.decode()`, with `none` for its exception. -/
def decodeUtf8 : Bytes → Option Text
| [] => some []
| lead :: rest =>
  if lead.val < 0x80 then do
    let text ← decodeUtf8 rest
    return latin1Point lead :: text
  else if lead.val < 0xE0 then
    match rest with
    | second :: rest => do
      let point ← checkedPoint (lead.val % 32 * 64 + continued second) [lead, second]
      let text ← decodeUtf8 rest
      return point :: text
    | _ => none
  else if lead.val < 0xF0 then
    match rest with
    | second :: third :: rest => do
      let point ← checkedPoint (lead.val % 16 * 4096 + continued second * 64 + continued third)
        [lead, second, third]
      let text ← decodeUtf8 rest
      return point :: text
    | _ => none
  else
    match rest with
    | second :: third :: fourth :: rest => do
      let point ← checkedPoint (lead.val % 8 * 262144 + continued second * 4096 +
        continued third * 64 + continued fourth)
        [lead, second, third, fourth]
      let text ← decodeUtf8 rest
      return point :: text
    | _ => none

theorem encodePoint_continued (point : CodePoint) :
    ∀ value ∈ (encodePoint point).tail, 0x80 ≤ value.val := by
  unfold encodePoint byte
  dsimp only
  split_ifs <;>
    simp only [tail_cons, forall_mem_cons, not_mem_nil, false_imp_iff, forall_const, and_true] <;>
    omega

variable {code : Nat} {lead value : Byte}

theorem checkedPoint_eq_none (hMem : value ∈ rest)
    (hAscii : value.val < 0x80) : checkedPoint code (lead :: rest) = none := by
  unfold checkedPoint
  split
  · rw [if_neg]
    rintro ⟨hCode, _⟩
    have hValue := encodePoint_continued _ value (by rw [hCode]; exact hMem)
    omega
  · rfl

theorem decodeUtf8_cons_ascii (rest : Bytes) (hLead : lead.val < 0x80) :
    decodeUtf8 (lead :: rest) = do
      let text ← decodeUtf8 rest
      return latin1Point lead :: text := by
  conv_lhs => unfold decodeUtf8
  exact if_pos hLead

/- A byte below 128 is no part of a longer code: both sides of it are decoded on their own. -/
theorem decodeUtf8_append_ascii (bytes rest : Bytes) (hAscii : value.val < 0x80) :
    decodeUtf8 (bytes ++ value :: rest) = do
      let text ← decodeUtf8 bytes
      let text' ← decodeUtf8 rest
      return text ++ latin1Point value :: text' := by
  have hNone : ∀ code lead rest, value ∈ rest → checkedPoint code (lead :: rest) = none :=
    fun _ _ _ hMem => checkedPoint_eq_none hMem hAscii
  fun_induction decodeUtf8 bytes with
  | case1 => simp [decodeUtf8_cons_ascii rest hAscii]
  | case2 lead tail hLead ih => simp [decodeUtf8_cons_ascii _ hLead, ih, Option.bind_assoc]
  | case3 lead hLead hTwo second tail ih => simp [decodeUtf8, hLead, hTwo, ih, Option.bind_assoc]
  | case4 lead tail hLead hTwo hShort =>
    -- The byte below 128 would have to continue the code.
    rcases tail with _ | ⟨second, tail⟩
    · simp [decodeUtf8, hLead, hTwo, hNone]
    · exact (hShort _ _ rfl).elim
  | case5 lead hLead hTwo hThree second third tail ih =>
    simp [decodeUtf8, hLead, hTwo, hThree, ih, Option.bind_assoc]
  | case6 lead tail hLead hTwo hThree hShort =>
    rcases tail with _ | ⟨second, _ | ⟨third, tail⟩⟩
    · cases rest with
      | nil => simp [decodeUtf8, hLead, hTwo, hThree]
      | cons next rest => simp [decodeUtf8, hLead, hTwo, hThree, hNone]
    · simp [decodeUtf8, hLead, hTwo, hThree, hNone]
    · exact (hShort _ _ _ rfl).elim
  | case7 lead hLead hTwo hThree second third fourth tail ih =>
    simp [decodeUtf8, hLead, hTwo, hThree, ih, Option.bind_assoc]
  | case8 lead tail hLead hTwo hThree hShort =>
    rcases tail with _ | ⟨second, _ | ⟨third, _ | ⟨fourth, tail⟩⟩⟩
    · rcases rest with _ | ⟨next, _ | ⟨after, rest⟩⟩
      · simp [decodeUtf8, hLead, hTwo, hThree]
      · simp [decodeUtf8, hLead, hTwo, hThree]
      · simp [decodeUtf8, hLead, hTwo, hThree, hNone]
    · cases rest with
      | nil => simp [decodeUtf8, hLead, hTwo, hThree]
      | cons next rest => simp [decodeUtf8, hLead, hTwo, hThree, hNone]
    · simp [decodeUtf8, hLead, hTwo, hThree, hNone]
    · exact (hShort _ _ _ _ rfl).elim

variable {bytes : Bytes}

theorem decodeUtf8_ascii (hAscii : ∀ value ∈ bytes, value.val < 0x80) :
    decodeUtf8 bytes = some (latin1 bytes) := by
  induction bytes with
  | nil => rfl
  | cons lead rest ih =>
    have hRest := ih (fun value hMem => hAscii value (mem_cons_of_mem lead hMem))
    rw [decodeUtf8_cons_ascii _ (hAscii lead mem_cons_self), hRest]
    rfl

---- Round Trip

variable {point : CodePoint}

theorem checkedPoint_encodePoint (hCode : code = point.val) (hBytes : encodePoint point = bytes)
    (hPlain : point.isSurrogate = false) : checkedPoint code bytes = some point := by
  subst hCode hBytes
  unfold checkedPoint
  rw [dif_pos point.isLt]
  exact if_pos ⟨rfl, hPlain⟩

theorem decodeUtf8_encodePoint (rest : Bytes) (hPlain : point.isSurrogate = false) :
    decodeUtf8 (encodePoint point ++ rest) = do
      let text ← decodeUtf8 rest
      return point :: text := by
  -- one case per length of the code
  unfold encodePoint
  dsimp only
  split_ifs with hOne hTwo hThree
  · have hByte : (byte point.val).val = point.val := by
      simp only [byte]
      omega
    have hPoint : latin1Point (byte point.val) = point := Fin.ext hByte
    rw [singleton_append, decodeUtf8_cons_ascii _ (by omega), hPoint]
  all_goals
    simp only [cons_append, nil_append]
    conv_lhs => unfold decodeUtf8
  · rw [if_neg (by simp only [byte]; omega), if_pos (by simp only [byte]; omega)]
    dsimp only
    rw [checkedPoint_encodePoint (by simp only [byte, continued]; omega)
      (by simp [encodePoint, hOne, hTwo]) hPlain]
    rfl
  · rw [if_neg (by simp only [byte]; omega), if_neg (by simp only [byte]; omega),
      if_pos (by simp only [byte]; omega)]
    dsimp only
    rw [checkedPoint_encodePoint (by simp only [byte, continued]; omega)
      (by simp [encodePoint, hOne, hTwo, hThree]) hPlain]
    rfl
  · rw [if_neg (by simp only [byte]; omega), if_neg (by simp only [byte]; omega),
      if_neg (by simp only [byte]; omega)]
    dsimp only
    rw [checkedPoint_encodePoint (by simp only [byte, continued]; omega)
      (by simp [encodePoint, hOne, hTwo, hThree]) hPlain]
    rfl

variable {text : Text}

theorem decodeUtf8_encodePoints (hPlain : ∀ point ∈ text, point.isSurrogate = false) :
    decodeUtf8 (encodePoints text) = some text := by
  induction text with
  | nil => rfl
  | cons point rest ih =>
    rw [forall_mem_cons] at hPlain
    unfold encodePoints at ih ⊢
    rw [flatMap_cons, decodeUtf8_encodePoint _ hPlain.1, ih hPlain.2]
    rfl

theorem decodeUtf8_toUtf8 (hBytes : text.toUtf8 = some bytes) : decodeUtf8 bytes = some text := by
  unfold Text.toUtf8 Text.encode at hBytes
  by_cases hAny : text.any CodePoint.isSurrogate = true
  · rw [if_pos hAny] at hBytes
    exact absurd hBytes (Option.some_ne_none bytes).symm
  · rw [if_neg hAny, Option.map_some, Option.some.injEq]
    at hBytes
    rw [← hBytes]
    refine decodeUtf8_encodePoints ?_
    simpa using hAny

end PamOlive.Foundations
