import PamOlive.Audit.Client
import PamOlive.Foundations.Traversal
import PamOlive.Foundations.Utf8
import PamOlive.Vault.Leases

/-
  The encrypted columns of the database, and the command that brings them to the active key.

  The rows have the columns that the commands read and write: the bytes and the id of the key. Each
  table is listed by primary key.
-/

---- The Cipher

namespace PamOlive.KeyRotation

open Foundations Vault Traversal

variable {State : Type} {client : KeyringClient State}

/- What texts of exceptions take from Python: printable code points, and encoding errors. -/
structure PythonTexts where
  printable : CodePoint → Bool
  encodeError : Text → Text

inductive CipherError where
  | legacyKey (keyId : Text)
  | notDecrypted
  | keyring (error : KeyringError)
  | notEncodable (text : Text)

/- `str(exc)`. -/
def CipherError.str (texts : PythonTexts) : CipherError → Text
| .legacyKey keyId =>
  "Secret uses legacy key " ++ Json.reprText texts.printable keyId ++
    "; run migrate_secrets_to_keyring"
| .notDecrypted => "Credential could not be decrypted"
| .keyring .operationFailed => "The keyring operation failed"
| .notEncodable text => texts.encodeError text

namespace VaultCipher

/- `VaultCipher().encrypt(secret)`. -/
def encrypt (client : KeyringClient State) (secret : Text) :
    State → Except CipherError Bytes × State :=
  andThen (raising .keyring (client.encrypt secret)) fun ciphertext =>
  reading (fun _ => found ciphertext.toUtf8 (.notEncodable ciphertext))

/- `VaultCipher().decrypt(token, key_id=...)`. -/
def decrypt (client : KeyringClient State) (token : Bytes) (keyId : Text) :
    State → Except CipherError Text × State :=
  if keyId ≠ [] ∧ keyId ≠ activeKeyId then reading (fun _ => .error (.legacyKey keyId))
  else
    match decodeUtf8 token with
    | none => reading (fun _ => .error .notDecrypted)
    | some ciphertext => raising (fun _ => .notDecrypted) (client.decrypt ciphertext)

variable {state after : State} {token : Bytes}

theorem encrypt_eq_ok_iff {secret : Text} :
    encrypt client secret state = (.ok token, after) ↔ ∃ ciphertext,
      client.encrypt secret state = (.ok ciphertext, after) ∧ ciphertext.toUtf8 = some token := by
  unfold encrypt
  rw [andThen_eq_ok_iff]
  constructor
  · rintro ⟨ciphertext, middle, hEncrypt, hToken⟩
    rcases reading_eq_ok_iff.mp hToken with ⟨hFound, rfl⟩
    exact ⟨ciphertext, raising_eq_ok_iff.mp hEncrypt, found_eq_ok_iff.mp hFound⟩
  · rintro ⟨ciphertext, hEncrypt, hToken⟩
    exact ⟨ciphertext, after, raising_eq_ok_iff.mpr hEncrypt,
      reading_eq_ok_iff.mpr ⟨found_eq_ok_iff.mpr hToken, rfl⟩⟩

theorem decrypt_eq_ok_iff {keyId plaintext : Text} :
    decrypt client token keyId state = (.ok plaintext, after) ↔
      (keyId = [] ∨ keyId = activeKeyId) ∧ ∃ ciphertext, decodeUtf8 token = some ciphertext ∧
        client.decrypt ciphertext state = (.ok plaintext, after) := by
  unfold decrypt
  by_cases hLegacy : keyId ≠ [] ∧ keyId ≠ activeKeyId
  · rw [if_pos hLegacy]
    refine iff_of_false (fun hRead => nomatch (reading_eq_ok_iff.mp hRead).1) ?_
    rintro ⟨hEmpty | hActive, _⟩
    · exact hLegacy.1 hEmpty
    · exact hLegacy.2 hActive
  · rw [if_neg hLegacy]
    have hKey : keyId = [] ∨ keyId = activeKeyId := by
      rw [not_and_or, not_not, not_not] at hLegacy
      exact hLegacy
    cases decodeUtf8 token with
    | none =>
      refine iff_of_false (fun hRead => nomatch (reading_eq_ok_iff.mp hRead).1) ?_
      rintro ⟨_, ciphertext, hDecode, _⟩
      cases hDecode
    | some ciphertext =>
      rw [raising_eq_ok_iff]
      constructor
      · exact fun hDecrypt => ⟨hKey, ciphertext, rfl, hDecrypt⟩
      · rintro ⟨_, _, ⟨⟩, hDecrypt⟩
        exact hDecrypt

end VaultCipher

---- Encrypted Columns

structure Credential where
  id : Uuid
  encryptedSecret : Bytes
  secretEncryptionKeyId : Text
  encryptedTotpSecret : Option Bytes
  totpEncryptionKeyId : Text

structure PersonalVaultItem where
  id : Uuid
  encryptedPayload : Bytes
  encryptionKeyId : Text

structure MFADevice where
  id : Uuid
  encryptedConfiguration : Bytes
  encryptionKeyId : Text

structure Connector where
  id : Uuid
  encryptedConfiguration : Bytes
  encryptionKeyId : Text

structure IdentitySource where
  id : Uuid
  encryptedConfiguration : Bytes
  encryptionKeyId : Text

structure RotationJob where
  id : Uuid
  encryptedCandidateSecret : Bytes
  candidateEncryptionKeyId : Text

structure SIEMIntegration where
  id : Uuid
  encryptedAuthToken : Option Bytes
  authTokenEncryptionKeyId : Text

/- The tables of `ENCRYPTED_MODEL_FIELDS`. -/
structure EncryptedTables where
  credentials : List Credential
  personalVaultItems : List PersonalVaultItem
  mfaDevices : List MFADevice
  connectors : List Connector
  identitySources : List IdentitySource
  rotationJobs : List RotationJob
  siemIntegrations : List SIEMIntegration

structure EncryptedField where
  value : Bytes
  keyId : Text

/- The plaintext that the cipher once gave for a field. -/
def ReadAs (client : KeyringClient State) (field : EncryptedField) (plaintext : Text) : Prop :=
  ∃ state after, VaultCipher.decrypt client field.value field.keyId state = (.ok plaintext, after)

/- A column that may be null, after a write: it reads as no bytes, and is never written. -/
def writeNullable (new : Bytes) (old : Option Bytes) : Option Bytes :=
  if new = old.getD [] then old else some new

theorem getD_writeNullable (new : Bytes) (old : Option Bytes) :
    (writeNullable new old).getD [] = new := by
  unfold writeNullable
  by_cases hSame : new = old.getD []
  · rw [if_pos hSame]
    exact hSame.symm
  · rw [if_neg hSame]
    rfl

theorem writeNullable_getD (old : Option Bytes) : writeNullable (old.getD []) old = old :=
  if_pos rfl

namespace Credential

def secretField : Traversal Credential EncryptedField :=
  field (fun row => ⟨row.encryptedSecret, row.secretEncryptionKeyId⟩) (fun new row =>
      { row with encryptedSecret := new.value, secretEncryptionKeyId := new.keyId })
    (fun _ _ => rfl) (fun _ => rfl)

def totpField : Traversal Credential EncryptedField :=
  field (fun row => ⟨row.encryptedTotpSecret.getD [], row.totpEncryptionKeyId⟩)
    (fun new row =>
      { row with
        encryptedTotpSecret := writeNullable new.value row.encryptedTotpSecret
        totpEncryptionKeyId := new.keyId })
    (fun new row => by rw [getD_writeNullable])
    (fun row => by rw [writeNullable_getD])

theorem secretField_apart : Apart secretField totpField where
  left := field_put_keeps (fun _ _ => rfl)
  right := field_put_keeps (fun _ _ => rfl)

def fields : Traversal Credential EncryptedField :=
  append secretField totpField secretField_apart

end Credential

def PersonalVaultItem.field : Traversal PersonalVaultItem EncryptedField :=
  Traversal.field (fun row => ⟨row.encryptedPayload, row.encryptionKeyId⟩) (fun new row =>
      { row with encryptedPayload := new.value, encryptionKeyId := new.keyId })
    (fun _ _ => rfl) (fun _ => rfl)

def MFADevice.field : Traversal MFADevice EncryptedField :=
  Traversal.field (fun row => ⟨row.encryptedConfiguration, row.encryptionKeyId⟩) (fun new row =>
      { row with encryptedConfiguration := new.value, encryptionKeyId := new.keyId })
    (fun _ _ => rfl) (fun _ => rfl)

def Connector.field : Traversal Connector EncryptedField :=
  Traversal.field (fun row => ⟨row.encryptedConfiguration, row.encryptionKeyId⟩) (fun new row =>
      { row with encryptedConfiguration := new.value, encryptionKeyId := new.keyId })
    (fun _ _ => rfl) (fun _ => rfl)

def IdentitySource.field : Traversal IdentitySource EncryptedField :=
  Traversal.field (fun row => ⟨row.encryptedConfiguration, row.encryptionKeyId⟩) (fun new row =>
      { row with encryptedConfiguration := new.value, encryptionKeyId := new.keyId })
    (fun _ _ => rfl) (fun _ => rfl)

def RotationJob.field : Traversal RotationJob EncryptedField :=
  Traversal.field (fun row => ⟨row.encryptedCandidateSecret, row.candidateEncryptionKeyId⟩)
    (fun new row =>
      { row with encryptedCandidateSecret := new.value, candidateEncryptionKeyId := new.keyId })
    (fun _ _ => rfl) (fun _ => rfl)

def SIEMIntegration.field : Traversal SIEMIntegration EncryptedField :=
  Traversal.field (fun row => ⟨row.encryptedAuthToken.getD [], row.authTokenEncryptionKeyId⟩)
    (fun new row =>
      { row with
        encryptedAuthToken := writeNullable new.value row.encryptedAuthToken
        authTokenEncryptionKeyId := new.keyId })
    (fun new row => by rw [getD_writeNullable])
    (fun row => by rw [writeNullable_getD])

namespace EncryptedTables

def credentialFields : Traversal EncryptedTables EncryptedField :=
  within credentials (fun rows tables => { tables with credentials := rows })
    (fun _ _ => rfl) (fun _ => rfl)
    (rows Credential.fields)

def personalVaultItemFields : Traversal EncryptedTables EncryptedField :=
  within personalVaultItems (fun rows tables =>
      { tables with personalVaultItems := rows })
    (fun _ _ => rfl) (fun _ => rfl)
    (rows PersonalVaultItem.field)

def mfaDeviceFields : Traversal EncryptedTables EncryptedField :=
  within mfaDevices (fun rows tables => { tables with mfaDevices := rows })
    (fun _ _ => rfl) (fun _ => rfl)
    (rows MFADevice.field)

def connectorFields : Traversal EncryptedTables EncryptedField :=
  within connectors (fun rows tables => { tables with connectors := rows })
    (fun _ _ => rfl) (fun _ => rfl)
    (rows Connector.field)

def identitySourceFields : Traversal EncryptedTables EncryptedField :=
  within identitySources (fun rows tables =>
      { tables with identitySources := rows })
    (fun _ _ => rfl) (fun _ => rfl)
    (rows IdentitySource.field)

def rotationJobFields : Traversal EncryptedTables EncryptedField :=
  within rotationJobs (fun rows tables => { tables with rotationJobs := rows })
    (fun _ _ => rfl) (fun _ => rfl)
    (rows RotationJob.field)

def siemIntegrationFields : Traversal EncryptedTables EncryptedField :=
  within siemIntegrations (fun rows tables =>
      { tables with siemIntegrations := rows })
    (fun _ _ => rfl) (fun _ => rfl)
    (rows SIEMIntegration.field)

end EncryptedTables

open EncryptedTables in
/- `ENCRYPTED_MODEL_FIELDS`: the encrypted fields in the order of the commands. -/
def encryptedModelFields : Traversal EncryptedTables EncryptedField :=
  credentialFields.append (personalVaultItemFields.append (mfaDeviceFields.append
    (connectorFields.append (identitySourceFields.append
      (rotationJobFields.append siemIntegrationFields ⟨fun _ _ => rfl, fun _ _ => rfl⟩)
      ⟨fun _ _ => rfl, fun _ _ => rfl⟩) ⟨fun _ _ => rfl, fun _ _ => rfl⟩)
    ⟨fun _ _ => rfl, fun _ _ => rfl⟩) ⟨fun _ _ => rfl, fun _ _ => rfl⟩)
    ⟨fun _ _ => rfl, fun _ _ => rfl⟩

---- Replacing The Fields

variable {tables' : EncryptedTables}

section Replacing

variable {Failure Counts : Type} {step :
  EncryptedField → Counts → State → Except Failure (EncryptedField × Counts) × State}

/- The loop over the models, their rows and their fields. -/
def replaceFields
    (step : EncryptedField → Counts → State → Except Failure (EncryptedField × Counts) × State)
    (tables : EncryptedTables) (counts : Counts) :
    State → Except Failure (EncryptedTables × Counts) × State :=
  andThen (mapAccum step (encryptedModelFields.get tables) counts) fun changed =>
  reading (fun _ => .ok (encryptedModelFields.put changed.1 tables, changed.2))

variable {tables : EncryptedTables} {state after : State}

theorem replaceFields_forall₂ {counts last : Counts}
    (hRun : replaceFields step tables counts state = (.ok (tables', last), after)) :
    List.Forall₂ (fun field new =>
        ∃ counts state counts' state', step field counts state = (.ok (new, counts'), state'))
      (encryptedModelFields.get tables)
      (encryptedModelFields.get tables') := by
  rcases andThen_eq_ok_iff.mp hRun with ⟨⟨changed, counts'⟩, middle, hLoop, hPut⟩
  rcases reading_ok_iff.mp hPut with ⟨hTables, _⟩
  rw [Prod.mk.injEq] at hTables
  have hChanged := mapAccum_forall₂ hLoop
  rw [← hTables.1, encryptedModelFields.get_put _ _ hChanged.length_eq.symm]
  exact hChanged

theorem replaceFields_keeps {counts last : Counts}
    (hKeeps : ∀ field counts state new counts' state',
      step field counts state = (.ok (new, counts'), state') → field = new)
    (hRun : replaceFields step tables counts state = (.ok (tables', last), after)) :
    tables' = tables := by
  rcases andThen_eq_ok_iff.mp hRun with ⟨⟨changed, counts'⟩, middle, hLoop, hPut⟩
  rcases reading_ok_iff.mp hPut with ⟨hTables, _⟩
  rw [Prod.mk.injEq] at hTables
  have hSame : encryptedModelFields.get tables = changed := by
    rw [← List.forall₂_eq_eq_eq]
    refine (mapAccum_forall₂ hLoop).imp ?_
    rintro field new ⟨_, _, _, _, hStep⟩
    exact hKeeps field _ _ new _ _ hStep
  rw [← hTables.1]
  rw [← hSame, encryptedModelFields.put_get]

theorem replaceFields_eq_self {next : Counts → EncryptedField → Counts}
    (hStep : ∀ field ∈ encryptedModelFields.get tables,
      ∀ counts state, (step field counts state).1 = .ok (field, next counts field))
    (counts : Counts) (state : State) :
    (replaceFields step tables counts state).1 =
      .ok (tables, (encryptedModelFields.get tables).foldl next counts) := by
  unfold replaceFields
  rw [andThen_fst, mapAccum_eq_self hStep]
  exact congrArg (fun same => Except.ok (same, (encryptedModelFields.get tables).foldl next counts))
    (encryptedModelFields.put_get tables)

end Replacing

---- Rotation

/- The tables that the commands on encrypted fields use. -/
structure VaultTables where
  encrypted : EncryptedTables
  audit : Audit.AuditLog

structure EventStamp where
  id : Uuid
  occurredAt : DateTime

/- Tables with nothing but personal items and a log. -/
def itemTables (items : List PersonalVaultItem) (audit : Audit.AuditLog) : VaultTables where
  encrypted :=
    { credentials := []
      personalVaultItems := items
      mfaDevices := []
      connectors := []
      identitySources := []
      rotationJobs := []
      siemIntegrations := [] }
  audit := audit

def sampleStamp : EventStamp where
  id := 1
  occurredAt := sampleTime

/- An event on the row of `AuditChainState`. -/
def chainStateEvent (stamp : EventStamp) (actor : Option UserId) (action : String)
    (metadata : Json) : Audit.EventCall where
  id := stamp.id
  occurredAt := stamp.occurredAt
  actor := actor
  action := Text.ofString action
  resourceType := "audit.auditchainstate"
  resourceId := "1"
  sourceIp := none
  metadata := metadata

structure RotationCounts where
  scannedFields : Nat
  fieldsToReencrypt : Nat
  reencryptedFields : Nat

/- The body of the loop of `rotate_vault_encryption`. -/
def rotateField (client : KeyringClient State) (apply : Bool) (field : EncryptedField)
    (counts : RotationCounts) :
    State → Except CipherError (EncryptedField × RotationCounts) × State :=
  if field.value = [] then reading (fun _ => .ok (field, counts))
  else
    let scanned :=
      { counts with scannedFields := counts.scannedFields + 1 }
    andThen (VaultCipher.decrypt client field.value field.keyId) fun plaintext =>
    if field.keyId = activeKeyId then reading (fun _ => .ok (field, scanned))
    else
      let due :=
        { scanned with fieldsToReencrypt := counts.fieldsToReencrypt + 1 }
      if apply then
        andThen (VaultCipher.encrypt client plaintext) fun token =>
        reading (fun _ =>
          .ok (⟨token, activeKeyId⟩, { due with
              reencryptedFields := counts.reencryptedFields + 1 }))
      else reading (fun _ => .ok (field, due))

structure VaultKeyRotationReport where
  activeKeyId : Text
  scannedFields : Nat
  fieldsToReencrypt : Nat
  reencryptedFields : Nat
  applied : Bool
deriving DecidableEq

def RotationCounts.report (counts : RotationCounts) (apply : Bool) : VaultKeyRotationReport where
  activeKeyId := activeKeyId
  scannedFields := counts.scannedFields
  fieldsToReencrypt := counts.fieldsToReencrypt
  reencryptedFields := counts.reencryptedFields
  applied := apply

def rotationMetadata (counts : RotationCounts) : Json :=
  .obj [("active_key_id", .str activeKeyId), ("reencrypted_fields", .int counts.reencryptedFields)]

/- `rotate_vault_encryption`: its report, and the tables it commits. -/
def rotateVaultEncryption (services : Services) (client : KeyringClient State) (apply : Bool)
    (actor : Option UserId) (stamp : EventStamp) (tables : VaultTables) :
    State → Except CipherError (VaultKeyRotationReport × VaultTables) × State :=
  andThen (replaceFields (rotateField client apply) tables.encrypted ⟨0, 0, 0⟩) fun changed =>
  if apply ∧ changed.2.reencryptedFields ≠ 0 then
    andThen (raising .keyring (Audit.recordEventBy services client
      (chainStateEvent stamp actor "vault.master_key_rotated" (rotationMetadata changed.2))
      tables.audit))
      fun recorded =>
    reading (fun _ => .ok (changed.2.report apply, ⟨changed.1, recorded.2⟩))
  else
    reading (fun _ => .ok (changed.2.report apply, ⟨changed.1, tables.audit⟩))

end PamOlive.KeyRotation
