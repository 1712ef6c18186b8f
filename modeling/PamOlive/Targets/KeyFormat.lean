import PamOlive.Targets.FirstUse

/-
  The format of an accepted host key.

  The declared length of the type is the end of a slice, which stops at the end of the key. A key
  that ends with its type is accepted, whatever longer length it declares.
-/

namespace PamOlive.Targets

open Foundations List
open Foundations.CodePoint (isSpace)

variable {library : KeyLibrary} {value keyType : Text} {parsed : ParsedKey} {blob : List UInt8}

def blobOf (library : KeyLibrary) (value : Text) : Option (List UInt8) :=
  match Lines.words isSpace (Text.strip value) with
  | _ :: encoded :: _ => library.b64decode encoded
  | _ => none

/- The length of the type in four bytes, the type, and something after it. -/
def WellFormed (keyType : Text) (blob : List UInt8) : Prop :=
  ∃ header body rest, blob = header ++ body ++ rest ∧ header.length = 4 ∧
    bigEndian header = keyType.length ∧ body.map ofByte = keyType ∧ rest ≠ []

theorem checked_of_parseSshPublicKey (hParse : parseSshPublicKey library value = .ok parsed) :
    ∃ blob, blobOf library value = some blob ∧ 5 ≤ blob.length ∧
      ((blob.drop 4).take (bigEndian (blob.take 4))).map ofByte = parsed.keyType ∧
      parsed.fingerprint = "SHA256:" ++ library.digest blob := by
  unfold parseSshPublicKey at hParse
  split at hParse
  next hWords =>
    unfold blobOf
    rw [hWords]
    unfold parseWords embeddedType decodeAscii at hParse
    simp only [require_bind_eq_ok_iff, found_bind_eq_ok_iff, pure_eq_ok_iff] at hParse
    rcases hParse with ⟨_, blob, hBlob, hLength, embedded, hEmbedded, rfl, rfl⟩
    split at hEmbedded
    · exact ⟨blob, hBlob, hLength, Option.some.inj hEmbedded, rfl⟩
    · cases hEmbedded
  next => cases hParse

theorem wellFormed_iff (hType : ((blob.drop 4).take (bigEndian (blob.take 4))).map ofByte = keyType)
    (hLength : 5 ≤ blob.length) :
    WellFormed keyType blob ↔ 4 + bigEndian (blob.take 4) < blob.length := by
  constructor
  · rintro ⟨header, body, rest, rfl, hHeader, hDeclared, hBody, hRest⟩
    have hTake : (header ++ body ++ rest).take 4 = header := by
      rw [append_assoc, ← hHeader, take_left]
    have hSame := congrArg length hBody
    have hMore := length_pos_iff.mpr hRest
    rw [length_map] at hSame
    rw [hTake, hDeclared, length_append, length_append]
    omega
  · intro hMore
    refine ⟨blob.take 4, (blob.drop 4).take (bigEndian (blob.take 4)),
      blob.drop (4 + bigEndian (blob.take 4)), ?_, ?_, ?_, hType, ?_⟩
    · rw [append_assoc, ← drop_drop, take_append_drop, take_append_drop]
    · rw [length_take]
      omega
    · rw [← hType, length_map, length_take, length_drop]
      omega
    · rw [ne_eq, drop_eq_nil_iff]
      omega

/-
  An accepted key is well formed exactly when it goes on after the declared end of its type. Its
  text is parsed to the same key again, and one fingerprint means one key unless the hash collides.
-/
theorem host_key_format_iff (hParse : parseSshPublicKey library value = .ok parsed) :
    ∃ blob, blobOf library value = some blob ∧
      (WellFormed parsed.keyType blob ↔ 4 + bigEndian (blob.take 4) < blob.length) ∧
      parseSshPublicKey library parsed.publicKey = .ok parsed ∧
      ∀ value' parsed' blob', parseSshPublicKey library value' = .ok parsed' →
        blobOf library value' = some blob' → parsed.fingerprint = parsed'.fingerprint →
        (library.digest blob = library.digest blob' → blob = blob') → blob = blob' := by
  rcases checked_of_parseSshPublicKey hParse with ⟨blob, hBlob, hLength, hType, hPrint⟩
  refine ⟨blob, hBlob, wellFormed_iff hType hLength, parseSshPublicKey_normalized hParse, ?_⟩
  intro value' parsed' blob' hParse' hBlob' hSame hCollisionFree
  rcases checked_of_parseSshPublicKey hParse' with ⟨other, hOther, _, _, hPrint'⟩
  cases Option.mem_unique hBlob' hOther
  rw [hPrint, hPrint'] at hSame
  exact hCollisionFree (append_cancel_left hSame)

def longKey : Text := "ssh-ed25519 AAAAC3NzaC1lZDI1NTE5AQ=="

theorem host_key_format_sample : ∃ blob parsed,
    parseSshPublicKey sampleLibrary longKey = .ok parsed ∧
    blobOf sampleLibrary longKey = some blob ∧ WellFormed parsed.keyType blob := by
  have hParse : parseSshPublicKey sampleLibrary longKey = .ok ⟨"ssh-ed25519", longKey,
    "SHA256:F1Oj6E+218czm09FOPtfQcbJPeR0MsA2QxD1cRRU+fA"⟩ := rfl
  rcases host_key_format_iff hParse with ⟨blob, hBlob, hFormat, _⟩
  refine ⟨blob, _, hParse, hBlob, hFormat.mpr ?_⟩
  cases hBlob
  decide

/- A key that ends with its type is accepted. -/
theorem short_key_accepted : ∃ blob parsed, parseSshPublicKey sampleLibrary sampleKey = .ok parsed ∧
    blobOf sampleLibrary sampleKey = some blob ∧ ¬ WellFormed parsed.keyType blob := by
  refine ⟨bareBlob, ⟨"ssh-ed25519", sampleKey, samplePrint⟩, rfl, rfl, ?_⟩
  rw [wellFormed_iff (by decide) (by decide)]
  decide

end PamOlive.Targets
