import PamOlive.Foundations.DateTime
import Mathlib.Algebra.Group.Int.Defs

/-
  One-time codes.

  A code is computed from a base32 secret and the number of the interval of thirty seconds. Upper
  case, base32 and HMAC-SHA1 are parameters. Instants are in microseconds.
-/

---- Secrets

namespace PamOlive.Vault

open Foundations

abbrev Byte := BitVec 8

/- `str.upper`, `base64.b32decode(..., casefold=True)`, and the HMAC-SHA1 digest. -/
structure TotpPrimitives where
  upper : Text → Text
  b32decode : Text → Option (List Byte)
  hmacSha1 : List Byte → List Byte → Vector Byte 20

variable (primitives : TotpPrimitives)

/- Without blanks and dashes, in upper case. -/
def normalizeTotpSecret (secret : Text) : Text :=
  primitives.upper (secret.filter (fun point => point != 32 && point != 45))

/- The signs `=` up to the next multiple of eight. -/
def totpPadding (normalized : Text) : Text := List.replicate ((8 - normalized.length % 8) % 8) 61

---- Codes

def totpInterval : Nat := 30

def totpDigits : Nat := 6

/- `struct.pack(">Q", counter)`, for eight bytes at most. -/
def packCounter (counter : Int) : Option (List Byte) :=
  if 0 ≤ counter ∧ counter < 2 ^ 64 then
    some ((List.range 8).map (fun index => BitVec.ofNat 8 (counter.toNat / 256 ^ (7 - index))))
  else none

def codeWindow (digest : Vector Byte 20) : List Byte :=
  (digest.toList.drop (digest[19] &&& 0x0F).toNat).take 4

/- `struct.unpack(">I", window)[0] & 0x7FFFFFFF`. -/
def truncated (window : List Byte) : Nat :=
  window.foldl (fun value byte => value * 256 + byte.toNat) 0 % 2 ^ 31

/- `totp_code`. An instant that is missing or zero stands for the clock. -/
def totpCode (clock : Int) (timestamp : Option Int) (secret : Text) : Option Text := do
  let normalized := normalizeTotpSecret primitives secret
  let key ← primitives.b32decode (normalized ++ totpPadding normalized)
  let instant :=
    match timestamp with
    | some given => if given = 0 then clock else given
    | none => clock
  let message ← packCounter (instant / (totpInterval * 1000000))
  let digest := primitives.hmacSha1 key message
  return padded totpDigits (truncated (codeWindow digest) % 10 ^ totpDigits)

---- Two Secrets

/- The HMAC-SHA1 digests of the first counters, under the key `12345` and under `67890`. -/
def sampleDigests (key : List Byte) : List Nat :=
  if key = [49, 50, 51, 52, 53] then
    [0xe019406b7712078dcee7f1d778e404b8fd8424a6, 0x51e8b48ad88d82576c061cca168f079dbffc9871,
      0x7e1d2cdcf540007e7c530d7de2003b695d3ae456, 0x5b75adf0590e9f8e8a137918f44b00cf2cb0f849,
      0xe630f02fc1a782627542c685084e470f50113214, 0x573f47b3d9fe9b9486949f72af8c8976f564a745]
  else [0x1651d8c325d29151e7417122aea9af74ae98cd54, 0x19b99455fdb17badbd28db822b8ca42baea5058c]

/- The primitives on texts in upper case, on the two base32 secrets and on their digests. -/
def sampleTotp : TotpPrimitives where
  upper := fun text => text
  b32decode := fun text =>
    if text = "GEZDGNBV" then some [49, 50, 51, 52, 53]
    else if text = "GY3TQOJQ" then some [54, 55, 56, 57, 48]
    else none
  hmacSha1 := fun key message => Vector.ofFn fun index =>
    BitVec.ofNat 8 ((sampleDigests key).getD (message.getLastD 0).toNat 0 / 256 ^ (19 - index.val))

end PamOlive.Vault
