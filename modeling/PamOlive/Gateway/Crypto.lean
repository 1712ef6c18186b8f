import PamOlive.Common.Values
import PamOlive.Foundations.Integer
import PamOlive.Foundations.Utf8
import PamOlive.Gateway.Control

/-
  Signatures of requests between the services, on bytes.

  Version 2 signs the timestamp, the request id, the method, the path and the body on lines of
  their own, version 1 the timestamp and the body. The timestamp is signed as written, and still
  the bytes determine all parts: one that goes on after a line feed holds only spaces there, and
  the request id holds none.
-/

---- Signing And Verifying

namespace PamOlive.Gateway.Crypto

open Foundations List

/- What the functions use of the libraries of Python. -/
structure CryptoLibrary where
  upper : Text → Text
  upper_line : ∀ text, 10 ∉ text → 10 ∉ upper text
  decimal : CodePoint → Option (Fin 10)
  hmacHex : Bytes → Bytes → Text

/- The arguments of a call; `requestId` empty for version 1. -/
structure SignedRequest where
  timestamp : Text
  requestId : Text
  method : Text
  path : Text
  body : Bytes

section

variable (library : CryptoLibrary)

/- The bytes that are signed, `none` after an exception. -/
def signedBytes (request : SignedRequest) : Option Bytes :=
  if request.requestId ≠ [] then do
    let timestamp ← request.timestamp.toUtf8
    let requestId ← request.requestId.toUtf8
    let method ← (library.upper request.method).toUtf8
    let path ← request.path.toUtf8
    return intercalate [byte 10]
      [encodePoints "v2", timestamp, requestId, method, path, request.body]
  else do
    let timestamp ← request.timestamp.toUtf8
    return timestamp ++ byte 46 :: request.body

def requestSignature (sharedKey : Text) (request : SignedRequest) : Option Text := do
  let signed ← signedBytes library request
  let key ← sharedKey.toUtf8
  return library.hmacHex key signed

/- `verify_request_signature`, at an instant in seconds. -/
def verifyRequestSignature (sharedKey : Text) (now : Int) (request : SignedRequest)
    (signature : Text) : Option Bool :=
  match parseInt library.decimal request.timestamp with
  | none => some false
  | some issuedAt =>
    if (now - issuedAt).natAbs > 30 then some false
    else do
      let expected ← requestSignature library sharedKey request
      if signature = [] then return false
      else compareDigest expected signature

end

variable {library : CryptoLibrary} {first second request : SignedRequest}

def signedHead (library : CryptoLibrary) (request : SignedRequest) : Text :=
  if request.requestId ≠ [] then
    Text.ofString "v2" ++ 10 :: (request.timestamp ++ 10 :: (request.requestId ++
      10 :: (library.upper request.method ++ 10 :: (request.path ++ [10]))))
  else request.timestamp ++ [46]

theorem encodePoint_line : encodePoint 10 = [byte 10] := rfl

theorem eq_of_toUtf8 {text : Text} {bytes : Bytes} (hBytes : text.toUtf8 = some bytes) :
    bytes = encodePoints text := by
  unfold Text.toUtf8 Text.encode at hBytes
  split at hBytes
  · cases hBytes
  · exact (Option.some.inj hBytes).symm

variable {message : Bytes}

theorem signedBytes_eq_some (hSigned : signedBytes library request = some message) :
    message = encodePoints (signedHead library request) ++ request.body := by
  unfold signedBytes at hSigned
  unfold signedHead
  split at hSigned
  · rename_i hVersion
    rw [if_pos hVersion]
    simp only [bind, Option.bind_eq_some_iff, pure, Option.some.injEq] at hSigned
    rcases hSigned with
      ⟨timestamp, hTimestamp, requestId, hRequestId, method, hMethod, path, hPath, hMessage⟩
    rw [← hMessage, eq_of_toUtf8 hTimestamp, eq_of_toUtf8 hRequestId, eq_of_toUtf8 hMethod,
      eq_of_toUtf8 hPath]
    simp [intercalate, encodePoints, encodePoint_line]
  · rename_i hVersion
    rw [if_neg hVersion]
    simp only [bind, Option.bind_eq_some_iff, pure, Option.some.injEq] at hSigned
    rcases hSigned with ⟨timestamp, hTimestamp, hMessage⟩
    rw [← hMessage, eq_of_toUtf8 hTimestamp, encodePoints_append, append_assoc]
    rfl

---- Reading The Parts Back

/-
  A timestamp that `int` accepts, a canonical or absent request id, and a method and a path on one
  line.
-/
structure Signable (library : CryptoLibrary) (request : SignedRequest) : Prop where
  timestamp : (parseInt library.decimal request.timestamp).isSome
  requestId : request.requestId = [] ∨ ∃ id : Uuid, request.requestId = id.str
  method : 10 ∉ request.method
  path : 10 ∉ request.path

/- Two requests that agree on all that is signed. -/
structure SameSigned (library : CryptoLibrary) (first second : SignedRequest) : Prop where
  timestamp : first.timestamp = second.timestamp
  requestId : first.requestId = second.requestId
  body : first.body = second.body
  method : first.requestId ≠ [] → library.upper first.method = library.upper second.method
  path : first.requestId ≠ [] → first.path = second.path

variable {point : CodePoint} {id : Uuid}

theorem toAscii_of_lt (hAscii : point.val < 127) : toAscii library.decimal point = point :=
  if_pos hAscii

theorem isAsciiSpace_line : isAsciiSpace (toAscii library.decimal 10) = true := by
  rw [toAscii_of_lt (by decide)]
  decide

theorem Signable.not_mem_timestamp (hRequest : Signable library request)
    (hPoint : point = 46 ∨ point = 118) : point ∉ request.timestamp := by
  intro hMem
  have hRange := parseInt_points hRequest.timestamp point hMem
  have hAscii : point.val < 127 := by
    rcases hPoint with rfl | rfl <;> decide
  rw [toAscii_of_lt hAscii] at hRange
  unfold isMark at hRange
  rcases hPoint with rfl | rfl <;> exact absurd hRange (by decide)

theorem Signable.timestamp_ne_nil (hRequest : Signable library request) :
    request.timestamp ≠ [] := by
  intro hNil
  rcases exists_not_space hRequest.timestamp with ⟨point, hMem, _⟩
  rw [hNil] at hMem
  exact not_mem_nil hMem

theorem not_space_of_mem_str (hMem : point ∈ id.str) :
    isAsciiSpace (toAscii library.decimal point) = false := by
  have hRange := Uuid.mem_str_graphic hMem
  rw [toAscii_of_lt (by omega)]
  unfold isAsciiSpace
  rw [decide_eq_false_iff_not]
  omega

theorem line_not_mem_str (id : Uuid) : 10 ∉ id.str := by
  intro hMem
  exact absurd (Uuid.mem_str_graphic hMem).1 (by decide)

/-
  After a shorter timestamp and its line feed a longer one has spaces, where the text goes on with
  the request id.
-/
theorem timestamp_not_longer {short long rest rest' whole : Text}
    (hShort : (parseInt library.decimal short).isSome)
    (hLong : (parseInt library.decimal long).isSome)
    (hFirst : short ++ 10 :: (id.str ++ rest) <+: whole)
    (hSecond : long ++ 10 :: rest' <+: whole) : ¬ short.length < long.length := by
  intro hLess
  have hStart : short ++ [10] <+: long := by
    refine prefix_of_prefix_length_le ?_ ((prefix_append _ _).trans hSecond) ?_
    · refine IsPrefix.trans ?_ hFirst
      exact ⟨id.str ++ rest, by simp⟩
    · rw [length_append, length_singleton]
      omega
  rcases hStart with ⟨more, rfl⟩
  rw [append_assoc, singleton_append] at hLong
  have hSpaces := space_after_parseInt isAsciiSpace_line hShort hLong
  -- The code point after the line feed is the first of the
  -- request id, and a space.
  rcases exists_cons_of_ne_nil (Uuid.str_ne_nil id) with ⟨point, tail, hStr⟩
  have hGraphic : isAsciiSpace (toAscii library.decimal point) = false :=
    not_space_of_mem_str (hStr ▸ mem_cons_self)
  rcases hFirst with ⟨suffix, rfl⟩
  simp only [hStr, append_assoc, cons_append,
    nil_append, prefix_append_right_inj, cons_prefix_cons] at hSecond
  have hSpace : isAsciiSpace (toAscii library.decimal point) = true := by
    cases more with
    | nil =>
      rw [nil_append, cons_prefix_cons] at hSecond
      rw [← hSecond.2.1]
      exact isAsciiSpace_line
    | cons other others =>
      rw [cons_append, cons_prefix_cons] at hSecond
      rw [← hSecond.2.1]
      exact hSpaces other mem_cons_self
  rw [hGraphic] at hSpace
  exact Bool.noConfusion hSpace

theorem timestamp_eq {first second rest rest' : Text} {id' : Uuid}
    (hFirst : (parseInt library.decimal first).isSome)
    (hSecond : (parseInt library.decimal second).isSome)
    (hPrefix : first ++ 10 :: (id.str ++ rest) <+: second ++ 10 :: (id'.str ++ rest')) :
    first = second := by
  have hNotLess := timestamp_not_longer hFirst hSecond hPrefix (prefix_refl _)
  have hNotMore := timestamp_not_longer hSecond hFirst (prefix_refl _) hPrefix
  have hLength : first.length = second.length := by omega
  rcases hPrefix with ⟨suffix, hEq⟩
  rw [append_assoc] at hEq
  exact (append_inj hEq hLength).1

section

variable (hFirst : Signable library first)

include hFirst

theorem parts_of_signedHead (hSecond : Signable library second)
    (hVersion : first.requestId ≠ []) (hVersion' : second.requestId ≠ [])
    (hPrefix : signedHead library first <+: signedHead library second) :
    first.timestamp = second.timestamp ∧ first.requestId = second.requestId ∧
      library.upper first.method = library.upper second.method ∧ first.path = second.path := by
  rcases hFirst.requestId.resolve_left hVersion with ⟨id, hId⟩
  rcases hSecond.requestId.resolve_left hVersion' with ⟨id', hId'⟩
  unfold signedHead at hPrefix
  rw [if_pos hVersion, if_pos hVersion', prefix_append_right_inj, cons_prefix_cons,
    hId, hId'] at hPrefix
  have hTimestamp := timestamp_eq hFirst.timestamp hSecond.timestamp hPrefix.2
  rw [hTimestamp, prefix_append_right_inj, cons_prefix_cons] at hPrefix
  rcases Lines.field_prefix (line_not_mem_str id) (line_not_mem_str id') hPrefix.2.2 with
    ⟨hRequestId, hPrefix⟩
  rcases Lines.field_prefix (library.upper_line _ hFirst.method)
    (library.upper_line _ hSecond.method) hPrefix with
    ⟨hMethod, hPrefix⟩
  rcases Lines.field_prefix hFirst.path hSecond.path hPrefix with ⟨hPath, _⟩
  exact ⟨hTimestamp, by rw [hId, hId', hRequestId], hMethod, hPath⟩

theorem timestamp_of_signedHead
    (hSecond : Signable library second) (hVersion : first.requestId = [])
    (hVersion' : second.requestId = [])
    (hPrefix : signedHead library first <+: signedHead library second) :
    first.timestamp = second.timestamp := by
  unfold signedHead at hPrefix
  rw [if_neg (not_not_intro hVersion), if_neg (not_not_intro hVersion')] at hPrefix
  exact (Lines.field_prefix (hFirst.not_mem_timestamp (.inl rfl))
    (hSecond.not_mem_timestamp (.inl rfl)) hPrefix).1

theorem versions_differ (hVersion : first.requestId = []) (hVersion' : second.requestId ≠ [])
    (hComparable : signedHead library first <+: signedHead library second ∨
      signedHead library second <+: signedHead library first) :
    False := by
  rcases exists_cons_of_ne_nil hFirst.timestamp_ne_nil with ⟨point, tail, hStart⟩
  have hNotV : point ≠ 118 := by
    rintro rfl
    exact hFirst.not_mem_timestamp (.inr rfl) (hStart ▸ mem_cons_self)
  have hLegacy : signedHead library first = point :: (tail ++ [46]) := by
    unfold signedHead
    rw [if_neg (not_not_intro hVersion), hStart]
    rfl
  have hCurrent : ∃ rest, signedHead library second = 118 :: rest := by
    unfold signedHead
    rw [if_pos hVersion']
    exact ⟨_, rfl⟩
  rcases hCurrent with ⟨rest, hCurrent⟩
  rw [hLegacy, hCurrent, cons_prefix_cons, cons_prefix_cons] at hComparable
  rcases hComparable with hSame | hSame
  · exact hNotV hSame.1
  · exact hNotV hSame.1.symm

theorem sameSigned_of_signedBytes
    (hSecond : Signable library second) (hSigned : signedBytes library first = some message)
    (hSigned' : signedBytes library second = some message) : SameSigned library first second := by
  have hEq := (signedBytes_eq_some hSigned).symm.trans (signedBytes_eq_some hSigned')
  have hComparable := encodePoints_comparable hEq
  by_cases hVersion : first.requestId = []
  · by_cases hVersion' : second.requestId = []
    · have hTimestamp : first.timestamp = second.timestamp := by
        rcases hComparable with hPrefix | hPrefix
        · exact timestamp_of_signedHead hFirst hSecond hVersion hVersion' hPrefix
        · exact (timestamp_of_signedHead hSecond hFirst hVersion' hVersion hPrefix).symm
      have hHead : signedHead library first = signedHead library second := by
        unfold signedHead
        rw [if_neg (not_not_intro hVersion), if_neg (not_not_intro hVersion'), hTimestamp]
      rw [hHead, append_cancel_left_eq] at hEq
      exact ⟨hTimestamp, hVersion.trans hVersion'.symm, hEq, fun hNot => absurd hVersion hNot,
        fun hNot => absurd hVersion hNot⟩
    · exact (versions_differ hFirst hVersion hVersion' hComparable).elim
  · by_cases hVersion' : second.requestId = []
    · exact (versions_differ hSecond hVersion' hVersion hComparable.symm).elim
    have hParts : first.timestamp = second.timestamp ∧ first.requestId = second.requestId ∧
      library.upper first.method = library.upper second.method ∧
      first.path = second.path := by
      rcases hComparable with hPrefix | hPrefix
      · exact parts_of_signedHead hFirst hSecond hVersion hVersion' hPrefix
      · have hParts := parts_of_signedHead hSecond hFirst hVersion' hVersion hPrefix
        exact ⟨hParts.1.symm, hParts.2.1.symm, hParts.2.2.1.symm, hParts.2.2.2.symm⟩
    rcases hParts with ⟨hTimestamp, hRequestId, hMethod, hPath⟩
    have hHead : signedHead library first = signedHead library second := by
      unfold signedHead
      rw [hTimestamp, hRequestId, hMethod, hPath]
    rw [hHead, append_cancel_left_eq] at hEq
    exact ⟨hTimestamp, hRequestId, hEq, fun _ => hMethod, fun _ => hPath⟩

end

---- Accepted Signatures

/- No two of the messages have the same keyed hash. -/
def CollisionFree (library : CryptoLibrary) (first second : SignedRequest) : Prop :=
  ∀ key message message', signedBytes library first = some message →
    signedBytes library second = some message' →
      library.hmacHex key message = library.hmacHex key message' → message = message'

theorem signature_of_verified {sharedKey signature : Text} {now : Int}
    (hVerified : verifyRequestSignature library sharedKey now request signature = some true) :
    ∃ key message, sharedKey.toUtf8 = some key ∧ signedBytes library request = some message ∧
      library.hmacHex key message = signature := by
  unfold verifyRequestSignature at hVerified
  split at hVerified
  · cases hVerified
  split at hVerified
  · cases hVerified
  simp only [bind, Option.bind_eq_some_iff] at hVerified
  rcases hVerified with ⟨expected, hExpected, hVerified⟩
  unfold requestSignature at hExpected
  simp only [bind, Option.bind_eq_some_iff, pure, Option.some.injEq] at hExpected
  rcases hExpected with ⟨message, hMessage, key, hKey, hHash⟩
  refine ⟨key, message, hKey, hMessage, ?_⟩
  rw [hHash]
  split at hVerified
  · cases hVerified
  · unfold compareDigest at hVerified
    split at hVerified
    · exact of_decide_eq_true (Option.some.inj hVerified)
    · cases hVerified

/-
  The signed bytes determine the version, the timestamp, the body and, in version 2, the request
  id, the method in capitals and the path. A signature is accepted for one request only.
-/
theorem signed_requests_unambiguous (hFirst : Signable library first)
    (hSecond : Signable library second) :
    (∀ message, signedBytes library first = some message →
      signedBytes library second = some message → SameSigned library first second) ∧
      ∀ sharedKey now now' signature, CollisionFree library first second →
        verifyRequestSignature library sharedKey now first signature = some true →
          verifyRequestSignature library sharedKey now' second signature = some true →
            SameSigned library first second := by
  refine ⟨fun message hSigned hSigned' =>
    sameSigned_of_signedBytes hFirst hSecond hSigned hSigned', ?_⟩
  intro sharedKey now now' signature hFree hVerified hVerified'
  rcases signature_of_verified hVerified with ⟨key, message, hKey, hSigned, hHash⟩
  rcases signature_of_verified hVerified' with ⟨key', message', hKey', hSigned', hHash'⟩
  rw [hKey] at hKey'
  injection hKey' with hKey'
  rw [← hKey'] at hHash'
  have hSame := hFree key message message' hSigned hSigned' (hHash.trans hHash'.symm)
  rw [← hSame] at hSigned'
  exact sameSigned_of_signedBytes hFirst hSecond hSigned hSigned'

def upperAscii (point : CodePoint) : CodePoint :=
  if 97 ≤ point.val ∧ point.val ≤ 122 then codePoint (point.val - 32)
  else point

theorem upperAscii_ne_line (hPoint : point ≠ 10) : upperAscii point ≠ 10 := by
  unfold upperAscii
  split
  · rename_i hLetter
    intro hEq
    have hVal := congrArg Fin.val hEq
    change (point.val - 32) % 0x110000 = 10 at hVal
    omega
  · exact hPoint

def sampleCrypto : CryptoLibrary where
  upper := fun text => text.map upperAscii
  upper_line := by
    intro text hText hMem
    rcases mem_map.mp hMem with ⟨point, hPoint, hEq⟩
    refine upperAscii_ne_line ?_ hEq
    rintro rfl
    exact hText hPoint
  decimal := fun _ => none
  hmacHex := fun _ message => latin1 message

def sampleRequest (method : String) : SignedRequest where
  timestamp := " 1_000"
  requestId := Uuid.str 7
  method := Text.ofString method
  path := "/api"
  body := [byte 10, byte 46]

theorem signable_sampleRequest {method : String} (hMethod : 10 ∉ Text.ofString method) :
    Signable sampleCrypto (sampleRequest method) where
  timestamp := rfl
  requestId := .inr ⟨7, rfl⟩
  method := hMethod
  path := by
    change 10 ∉ Text.ofString "/api"
    decide

def sampleSignature : Text :=
  latin1 (encodePoints (signedHead sampleCrypto (sampleRequest "POST")) ++ [byte 10, byte 46])

theorem signed_requests_unambiguous_sample :
    ∃ signature, verifyRequestSignature sampleCrypto [] 1000
      (sampleRequest "post") signature = some true ∧
      verifyRequestSignature sampleCrypto [] 1001 (sampleRequest "POST") signature = some true ∧
      SameSigned sampleCrypto (sampleRequest "post") (sampleRequest "POST") := by
  have hVerified : verifyRequestSignature sampleCrypto [] 1000 (sampleRequest "post")
    sampleSignature = some true := by decide
  have hVerified' : verifyRequestSignature sampleCrypto [] 1001 (sampleRequest "POST")
    sampleSignature = some true := by decide
  have hFree : CollisionFree sampleCrypto (sampleRequest "post") (sampleRequest "POST") := by
    intro key message message' hMessage hMessage' _
    have hSame : signedBytes sampleCrypto (sampleRequest "post") =
      signedBytes sampleCrypto (sampleRequest "POST") := by decide
    rw [hMessage, hMessage'] at hSame
    exact Option.some.inj hSame
  exact ⟨_, hVerified, hVerified', (signed_requests_unambiguous (signable_sampleRequest (by decide))
    (signable_sampleRequest (by decide))).2 _ _ _ _ hFree hVerified hVerified'⟩

---- The Model On Texts

def Encodable (text : Text) : Prop := text.any CodePoint.isSurrogate = false

theorem toUtf8_of_encodable {text : Text} (hText : Encodable text) :
    text.toUtf8 = some (encodePoints text) := by
  unfold Text.toUtf8 Text.encode
  rw [hText]
  rfl

section

variable {body : Text} (hBody : request.body = encodePoints body)
  (hUpper : library.upper request.method = request.method)
  (hTimestamp : Encodable request.timestamp) (hRequestId : Encodable request.requestId)
  (hMethod : Encodable request.method) (hPath : Encodable request.path)

include hBody hUpper hTimestamp hRequestId hMethod hPath

theorem signedBytes_eq_signedText : signedBytes library request = some (encodePoints
    (signedText request.timestamp body request.method request.path request.requestId)) := by
  unfold signedBytes signedText
  rw [hUpper, hBody, toUtf8_of_encodable hTimestamp, toUtf8_of_encodable hRequestId,
    toUtf8_of_encodable hMethod, toUtf8_of_encodable hPath]
  split
  · simp [intercalate, encodePoints, encodePoint_line]
  · simp [encodePoints]
    rfl

/- On bodies that are text the check is the one of the control endpoint. -/
theorem verifyRequestSignature_eq {env : ControlEnv} {now : Int} {signature : Text}
    (hKey : Encodable env.sharedKey) (hInt : env.textToInt = parseInt library.decimal)
    (hHash :
      ∀ key text, env.hmacHex key text = library.hmacHex (encodePoints key) (encodePoints text)) :
    verifyRequestSignature library env.sharedKey (now / 1000000) request signature =
      Gateway.verifyRequestSignature env now request.timestamp body signature request.method
        request.path request.requestId := by
  have hSignature : requestSignature library env.sharedKey request = some (env.hmacHex env.sharedKey
    (signedText request.timestamp body request.method request.path request.requestId)) := by
    unfold requestSignature
    rw [signedBytes_eq_signedText hBody hUpper hTimestamp
      hRequestId hMethod hPath, toUtf8_of_encodable hKey, hHash]
    rfl
  unfold verifyRequestSignature Gateway.verifyRequestSignature
  rw [hInt, hSignature]
  rfl

end

end PamOlive.Gateway.Crypto
