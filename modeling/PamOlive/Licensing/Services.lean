import PamOlive.Foundations.Json
import PamOlive.Foundations.Outcome

/-
  Which licence is in force.

  A Business or Enterprise installation needs a signed document, of any JSON value. Most of what
  can go wrong is caught, but not a text of which `json.loads` raises another exception than
  `JSONDecodeError`, a document that is no object, or a list of features that is none.

  Main declarations:
    * `verifySignedLicense`, `getLicenseStatus`
    * `license_status_fail_closed_iff`
-/

---- The Document

namespace PamOlive.Licensing.Services

open Foundations Json

inductive Edition where
  | community | lab | business | enterprise
deriving DecidableEq

def Edition.text : Edition → Text
| .community => "community"
| .lab => "lab"
| .business => "business"
| .enterprise => "enterprise"

/- The exceptions that no handler of `get_license_status` catches. -/
inductive LicenseRaise where
  | attributeError | typeError | valueError | recursionError

/-
  The libraries. A public key of Ed25519 is its `verify`, false on `InvalidSignature`; the other
  results are none on `ValueError`, or its text.
-/
structure LicenseLibrary where
  loadPemPublicKey : List UInt8 → Except Text (Option (List UInt8 → Text → Bool))
  urlsafeB64decode : Text → Option (List UInt8)
  fromIsoFormat : Text → Option Int
  lower : Text → Text
  printable : CodePoint → Bool
  now : Int

/-
  `_load_license_document` without a document: the text of an `OSError` or `JSONDecodeError`; or a
  `ValueError` (a number of over 4300 digits, a file that is not UTF-8) or `RecursionError`.
-/
inductive LoadError where
  | caught (text : Text)
  | raised (raised : LicenseRaise)

/- `settings`, with the results of `_load_license_document` and `_load_public_key`. -/
structure Settings where
  edition : Text
  document : Except LoadError (Json × Text)
  publicKey : Except Text (List UInt8)

section

variable (library : LicenseLibrary) (settings : Settings)

def configuredEdition : Edition :=
  let edition := Text.strip (library.lower settings.edition)
  ([Edition.lab, .business, .enterprise].find? (fun known => decide (known.text = edition))).getD
    .community

/- `ensure_ascii`: what is not printable ASCII is escaped, with two surrogates if need be. -/
def escapePoint (point : CodePoint) : Text :=
  let code := point.val
  if code < 127 then [point]
  else if code < 65536 then "\\u" ++ hex 4 code
  else "\\u" ++ hex 4 (55296 + (code - 65536) / 1024) ++
    "\\u" ++ hex 4 (56320 + (code - 65536) % 1024)

def canonicalPayload (payload : List (Text × Json)) : Text :=
  (canonical (.obj payload)).flatMap escapePoint

def b64decode (value : Text) : Option (List UInt8) :=
  library.urlsafeB64decode
    (value ++ List.replicate ((4 - value.length % 4) % 4) (CodePoint.ofChar '='))

/- `str(payload.get(key, "") or "")`. -/
def textOf (key : Text) (payload : List (Text × Json)) : Text :=
  let value := (lookup key payload).getD (.str [])
  if value.truthy then value.pyStr library.printable else []

/- `expires_at.replace("Z", "+00:00")`; a date without an offset is in UTC. -/
def expiry (expiresAt : Text) : Option Int :=
  library.fromIsoFormat
    (expiresAt.flatMap (fun point => if point = 90 then Text.ofString "+00:00" else [point]))

def checkExpiry (expiresAt : Text) : Except Text Unit :=
  if expiresAt = [] then .ok ()
  else do
    let expires ← found (expiry library expiresAt) (Text.ofString
      "License expiration date is invalid.")
    require (library.now ≤ expires) "License has expired."

/- The checks on a payload and its signature: a reason, or the text of what is caught. -/
def verifyPayload (payload : List (Text × Json)) (signature : Text) :
    Except Text (List (Text × Json)) := do
  let data ← settings.publicKey
  require (data ≠ []) (Text.ofString "No license public key configured.")
  let publicKey ← library.loadPemPublicKey data
  let verify ← found publicKey (Text.ofString "License public key must be Ed25519.")
  require ((b64decode library signature).any (verify · (canonicalPayload payload)) = true)
    (Text.ofString "License signature is invalid.")
  checkExpiry library (textOf library "expires_at" payload)
  return payload

def verifySignedLicense (document : Json) :
    Except LicenseRaise (Except Text (List (Text × Json))) := do
  let payload ← found (document.get "payload" .null) .attributeError
  let signature ← found (document.get "signature" .null) .attributeError
  match payload, signature with
  | .obj payload, .str signature => return verifyPayload library settings payload signature
  | _, _ => return .error "License must contain a payload object and a signature."

---- The Status

structure LicenseStatus where
  edition : Edition
  valid : Bool
  source : Text
  reason : Text := []
  customer : Text := []
  features : List Text := []
  maxUsers : Json := .null
  maxTargets : Json := .null
  maxNodes : Json := .int 1
  expiresAt : Text := []

/- The values a `for` goes through; none on `TypeError`. -/
def iterate : Json → Option (List Json)
| .arr items => some items
| .str text => some (text.map (fun point => .str [point]))
| .obj fields => some (fields.map (fun field => .str field.1))
| _ => none

def licenseEdition (payload : List (Text × Json)) : Text :=
  library.lower (((lookup "edition" payload).getD (.str [])).pyStr library.printable)

/- The status of a document whose signature was verified. -/
def signedStatus (edition : Edition) (source : Text) (payload : List (Text × Json)) :
    Except LicenseRaise LicenseStatus :=
  if licenseEdition library payload ≠ edition.text then
    .ok { edition, valid := false, source,
          reason := "License edition " ++
            reprText library.printable (licenseEdition library payload) ++
            " does not match configured edition." }
  else do
    let features ← found (iterate ((lookup "features" payload).getD (.arr []))) .typeError
    return { edition, valid := true, source,
             customer := textOf library "customer" payload,
             features := features.map (pyStr library.printable),
             maxUsers := (lookup "max_users" payload).getD .null,
             maxTargets := (lookup "max_targets" payload).getD .null,
             maxNodes := (lookup "max_nodes" payload).getD .null,
             expiresAt := textOf library "expires_at" payload }

def documentStatus (edition : Edition) : Except LicenseRaise LicenseStatus :=
  match settings.document with
  | .error (.raised raised) => .error raised
  | .error (.caught text) => .ok { edition, valid := false, source := "invalid", reason := text }
  | .ok (document, source) =>
    if document.truthy then
      match verifySignedLicense library settings document with
      | .error raised => .error raised
      | .ok (.error text) => .ok { edition, valid := false, source, reason := text }
      | .ok (.ok payload) => signedStatus library edition source payload
    else .ok { edition, valid := false, source, reason :=
      "A signed license is required for Business and Enterprise editions." }

def getLicenseStatus : Except LicenseRaise LicenseStatus :=
  match configuredEdition library settings with
  | .community => .ok { edition := .community, valid := true, source := "built-in" }
  | .lab => .ok
    { edition := .lab, valid := true, source := "built-in", features := ["cluster"],
      maxUsers := .int 5, maxTargets := .int 2, maxNodes := .null,
      reason := "Lab edition is limited to evaluation use." }
  | edition => documentStatus library settings edition

---- Signed Documents

/- The payload of a document is signed with the configured key, and has not expired. -/
structure Signed (document : Json) (payload : List (Text × Json)) : Prop where
  hasPayload : document.get "payload" .null = some (.obj payload)
  hasSignature : ∃ signature data verify, document.get "signature" .null = some (.str signature) ∧
    settings.publicKey = .ok data ∧ data ≠ [] ∧ library.loadPemPublicKey data = .ok (some verify) ∧
    (b64decode library signature).any (verify · (canonicalPayload payload)) = true
  current : textOf library "expires_at" payload ≠ [] →
    ∃ expires, expiry library (textOf library "expires_at" payload) = some expires ∧
      library.now ≤ expires

/-
  The document is loaded or its exception caught; if it is not empty it is an object; and if it is
  signed for the edition its features are listed.
-/
structure WellFormed (edition : Edition) : Prop where
  loaded : ∀ raised, settings.document ≠ .error (.raised raised)
  object : ∀ document source, settings.document = .ok (document, source) →
    document.truthy = true → ∃ fields, document = .obj fields
  features : ∀ document source payload, settings.document = .ok (document, source) →
    document.truthy = true → Signed library settings document payload →
    licenseEdition library payload = edition.text →
    (iterate ((lookup "features" payload).getD (.arr []))).isSome

end

variable {library : LicenseLibrary} {settings : Settings} {document : Json}
variable {payload : List (Text × Json)} {edition : Edition} {source : Text}

theorem checkExpiry_eq_ok_iff {expiresAt : Text} :
    checkExpiry library expiresAt = .ok () ↔ (expiresAt ≠ [] →
      ∃ expires, expiry library expiresAt = some expires ∧ library.now ≤ expires) := by
  unfold checkExpiry
  split
  · rename_i hNone
    simp [hNone]
  · rename_i hSome
    simp [hSome, found_bind_eq_ok_iff, require_eq_ok_iff]

theorem verifySignedLicense_eq_ok_iff :
    verifySignedLicense library settings document = .ok (.ok payload) ↔
      Signed library settings document payload := by
  unfold verifySignedLicense
  simp only [found_bind_eq_ok_iff]
  constructor
  · rintro ⟨value, hPayload, value', hSignature, hMatch⟩
    split at hMatch
    · rename_i payload' signature
      injection hMatch with hMatch
      simp only [verifyPayload, bind_eq_ok_iff, found_eq_ok_iff, exists_unit_iff,
        require_eq_ok_iff, checkExpiry_eq_ok_iff] at hMatch
      rcases hMatch with ⟨data, hData, hKeyed, _, hKey, verify, rfl, hSigned, hExpiry, hSame⟩
      cases hSame
      exact ⟨hPayload, ⟨signature, data, verify, hSignature, hData, hKeyed, hKey, hSigned⟩, hExpiry⟩
    · cases hMatch
  · rintro ⟨hPayload, ⟨signature, data, verify, hSignature, hData, hKeyed, hKey, hSigned⟩, hExpiry⟩
    refine ⟨_, hPayload, _, hSignature, congrArg Except.ok ?_⟩
    simp only [verifyPayload, bind_eq_ok_iff, found_eq_ok_iff, exists_unit_iff,
      require_eq_ok_iff, checkExpiry_eq_ok_iff]
    exact ⟨data, hData, hKeyed, _, hKey, verify, rfl, hSigned, hExpiry, rfl⟩

theorem verifySignedLicense_obj (fields : List (Text × Json)) :
    ∃ result, verifySignedLicense library settings (.obj fields) = .ok result := by
  unfold verifySignedLicense
  simp only [found_bind_eq_ok_iff, Json.get, Option.some.injEq, exists_eq_left']
  split
  · exact ⟨_, rfl⟩
  · exact ⟨_, rfl⟩

---- Total And Fail-Closed

theorem verifySignedLicense_of_not_obj (hOther : ∀ fields, document ≠ .obj fields) :
    verifySignedLicense library settings document = .error .attributeError := by
  cases document with
  | obj fields => exact absurd rfl (hOther fields)
  | _ => rfl

theorem signedStatus_ok_iff :
    (∃ status, signedStatus library edition source payload = .ok status) ↔
      (licenseEdition library payload = edition.text →
        (iterate ((lookup "features" payload).getD (.arr []))).isSome) := by
  dsimp only [signedStatus]
  split
  · rename_i hOther
    simp [hOther]
  · rename_i hSame
    rw [not_not] at hSame
    cases iterate ((lookup "features" payload).getD (.arr [])) with
    | none => simp [hSame, found]
    | some features => simp [found]

theorem wellFormed_loaded_iff (hDocument : settings.document = .ok (document, source)) :
    WellFormed library settings edition ↔ (document.truthy = true →
      (∃ fields, document = .obj fields) ∧ ∀ payload, Signed library settings document payload →
        licenseEdition library payload = edition.text →
        (iterate ((lookup "features" payload).getD (.arr []))).isSome) := by
  constructor
  · intro hFormed hTrue
    exact ⟨hFormed.object document source hDocument hTrue,
      fun payload => hFormed.features document source payload hDocument hTrue⟩
  · intro hFormed
    refine ⟨by simp [hDocument], ?_, ?_⟩
    · rintro _ _ hSame hTrue
      cases hDocument.symm.trans hSame
      exact (hFormed hTrue).1
    · rintro _ _ payload hSame hTrue
      cases hDocument.symm.trans hSame
      exact (hFormed hTrue).2 payload

theorem documentStatus_ok_iff : (∃ status, documentStatus library settings edition = .ok status) ↔
    WellFormed library settings edition := by
  unfold documentStatus
  cases hDocument : settings.document with
  | error failure =>
    cases failure with
    | caught text => exact iff_of_true ⟨_, rfl⟩ ⟨by simp [hDocument], by simp [hDocument],
        by simp [hDocument]⟩
    | raised raised =>
      refine iff_of_false (by simp) ?_
      exact fun hFormed => hFormed.loaded raised hDocument
  | ok loaded =>
    rcases loaded with ⟨document, source⟩
    rw [wellFormed_loaded_iff hDocument]
    dsimp only
    split
    · rename_i hTrue
      simp only [hTrue, forall_const]
      by_cases hObject : ∃ fields, document = .obj fields
      · rcases hObject with ⟨fields, rfl⟩
        rcases verifySignedLicense_obj fields with ⟨result, hVerify⟩
        rw [hVerify]
        cases result with
        | error text =>
          refine iff_of_true ⟨_, rfl⟩ ⟨⟨_, rfl⟩, ?_⟩
          intro payload hSigned
          cases hVerify.symm.trans (verifySignedLicense_eq_ok_iff.mpr hSigned)
        | ok payload =>
          dsimp only
          rw [signedStatus_ok_iff]
          constructor
          · intro hFeatures
            refine ⟨⟨_, rfl⟩, ?_⟩
            intro other hSigned
            cases hVerify.symm.trans (verifySignedLicense_eq_ok_iff.mpr hSigned)
            exact hFeatures
          · exact fun hFormed => hFormed.2 payload (verifySignedLicense_eq_ok_iff.mp hVerify)
      · rw [verifySignedLicense_of_not_obj (fun fields hSame => hObject ⟨fields, hSame⟩)]
        exact iff_of_false (by simp) (fun hFormed => hObject hFormed.1)
    · rename_i hFalse
      exact iff_of_true ⟨_, rfl⟩ (fun hTrue => absurd hTrue hFalse)

theorem signed_of_documentStatus {status : LicenseStatus}
    (hStatus : documentStatus library settings edition = .ok status)
    (hGrants : status.valid = true ∨ status.features ≠ []) :
    ∃ document source payload, settings.document = .ok (document, source) ∧
      Signed library settings document payload ∧
      licenseEdition library payload = edition.text := by
  have hRefused : ∀ refused : LicenseStatus, refused.valid = false → refused.features = [] →
    (.ok refused : Except LicenseRaise LicenseStatus) ≠ .ok status := by
    rintro refused hInvalid hNone ⟨⟩
    rcases hGrants with hValid | hSome
    · exact absurd (hInvalid.symm.trans hValid) Bool.false_ne_true
    · exact hSome hNone
  unfold documentStatus at hStatus
  split at hStatus
  · cases hStatus
  · exact absurd hStatus (hRefused _ rfl rfl)
  · rename_i document source hDocument
    split at hStatus
    · split at hStatus
      · cases hStatus
      · exact absurd hStatus (hRefused _ rfl rfl)
      · rename_i payload hVerify
        dsimp only [signedStatus] at hStatus
        split at hStatus
        · exact absurd hStatus (hRefused _ rfl rfl)
        · rename_i hSame
          exact ⟨document, source, payload, hDocument, verifySignedLicense_eq_ok_iff.mp hVerify,
            not_not.mp hSame⟩
    · exact absurd hStatus (hRefused _ rfl rfl)

/-
  There is a status exactly if the edition needs no document or its document is well formed; and it
  grants something only for a signed payload of the edition.
-/
theorem license_status_fail_closed_iff :
    ((∃ status, getLicenseStatus library settings = .ok status) ↔
      (configuredEdition library settings ∈ [Edition.business, .enterprise] →
        WellFormed library settings (configuredEdition library settings))) ∧
    ∀ status, getLicenseStatus library settings = .ok status →
      configuredEdition library settings ∈ [Edition.business, .enterprise] →
      status.valid = true ∨ status.features ≠ [] →
      ∃ document source payload, settings.document = .ok (document, source) ∧
        Signed library settings document payload ∧
        licenseEdition library payload = (configuredEdition library settings).text := by
  unfold getLicenseStatus
  cases configuredEdition library settings with
  | community => exact ⟨by simp, fun _ _ hMem => absurd hMem (by decide)⟩
  | lab => exact ⟨by simp, fun _ _ hMem => absurd hMem (by decide)⟩
  | business =>
    exact ⟨by simp [documentStatus_ok_iff], fun _ hStatus _ => signed_of_documentStatus hStatus⟩
  | enterprise =>
    exact ⟨by simp [documentStatus_ok_iff], fun _ hStatus _ => signed_of_documentStatus hStatus⟩

def sampleDocument (features : Json) : Json :=
  .obj [("payload", .obj [("edition", .str "business"), ("features", features)]),
    ("signature", .str "AQ")]

/- The signature `AQ==` is that of the payloads of the sample documents. -/
def sampleVerify (signature : List UInt8) (payload : Text) : Bool :=
  signature == [1] &&
    (Text.ofString "\x7b\"edition\":\"business\",\"features\":").isPrefixOf payload

def sampleLibrary : LicenseLibrary where
  loadPemPublicKey data :=
    if data = [1] then .ok (some sampleVerify) else .error "Unable to load PEM file."
  urlsafeB64decode text := if text = "AQ==" then some [1] else none
  fromIsoFormat _ := none
  lower := List.map (fun point => if 65 ≤ point ∧ point ≤ 90 then point + 32 else point)
  printable _ := true
  now := 0

def sampleSettings (document : Json) : Settings := ⟨"Business", .ok (document, "inline"), .ok [1]⟩

/- A status, and so a document that is signed. -/
theorem license_status_fail_closed_sample : ∃ status, getLicenseStatus sampleLibrary
      (sampleSettings (sampleDocument (.arr [.str "cluster"]))) = .ok status ∧
    status.features = [Text.ofString "cluster"] ∧
    ∃ payload, Signed sampleLibrary (sampleSettings (sampleDocument (.arr [.str "cluster"])))
      (sampleDocument (.arr [.str "cluster"])) payload := by
  have hStatus : ∃ status, getLicenseStatus sampleLibrary
      (sampleSettings (sampleDocument (.arr [.str "cluster"]))) = .ok status ∧
    status.features = [Text.ofString "cluster"] :=
    ⟨_, rfl, rfl⟩
  rcases hStatus with ⟨status, hStatus, hFeatures⟩
  rcases license_status_fail_closed_iff.2 status hStatus (by decide) (.inr (by simp [hFeatures]))
    with ⟨_, _, payload, hDocument, hSigned, _⟩
  cases hDocument
  exact ⟨status, hStatus, hFeatures, payload, hSigned⟩

/- A list, a payload without features, and a number that `json.loads` does not convert. -/
theorem license_status_raises :
    getLicenseStatus sampleLibrary (sampleSettings (.arr [.null])) = .error .attributeError ∧
      getLicenseStatus sampleLibrary (sampleSettings (sampleDocument .null)) = .error .typeError ∧
      getLicenseStatus sampleLibrary { sampleSettings .null with
        document := .error (.raised .valueError) } = .error .valueError :=
  ⟨rfl, rfl, rfl⟩

end PamOlive.Licensing.Services
