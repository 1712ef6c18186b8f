import PamOlive.Vault.KeyringMigration

/-
  What the rotation of the vault key does.

  The command only takes fields without a key id or with the active one: the cipher refuses every
  other id, and with it the whole run. A run that returns keeps every plaintext, and a second one
  finds nothing to do.
-/

---- One Field

namespace PamOlive.KeyRotation

open Foundations KeyringMigration KeyringService List Vault

variable {State : Type} {routed : RoutedBackend State} {field new : EncryptedField}
variable {counts counts' : RotationCounts} {state after : State}

/- A field before and after a run. -/
def FieldRotated (client : KeyringClient State) (field new : EncryptedField) : Prop :=
  (field.value = [] → new = field) ∧ (field.value ≠ [] → (field.keyId = [] ∨ new = field) ∧
    new.keyId = activeKeyId ∧ ∃ plaintext,
      ReadAs client field plaintext ∧ (Opens client new plaintext ↔ Accepted new))

theorem fieldRotated_of_step (hSound : routed.Sound)
    (hStep : rotateField (application routed) true field counts state =
      (.ok (new, counts'), after)) :
    FieldRotated (application routed) field new := by
  unfold rotateField at hStep
  split at hStep
  · rename_i hEmpty
    have hSame := (Prod.mk.inj (reading_ok_iff.mp hStep).1).1
    exact ⟨fun _ => hSame.symm, fun hSome => absurd hEmpty hSome⟩
  rename_i hSome
  refine ⟨fun hNone => absurd hNone hSome, fun _ => ?_⟩
  rcases andThen_eq_ok_iff.mp hStep with ⟨plaintext, middle, hDecrypt, hNext⟩
  have hRead : ReadAs (application routed) field plaintext := ⟨state, middle, hDecrypt⟩
  split at hNext
  · rename_i hKey
    cases (Prod.mk.inj (reading_ok_iff.mp hNext).1).1
    rcases opens_of_answer hSound hKey hRead with ⟨hOpens, hShort⟩
    exact ⟨.inr rfl, hKey, plaintext, hRead, iff_of_true hOpens hShort⟩
  · rename_i hKey
    simp only [if_true, andThen_eq_ok_iff, reading_eq_ok_iff, Except.ok.injEq, Prod.mk.injEq,
      VaultCipher.encrypt_eq_ok_iff] at hNext
    rcases hNext with ⟨_, _, ⟨ciphertext, hCiphertext, hToken⟩, ⟨rfl, _⟩, _⟩
    have hEmpty := (VaultCipher.decrypt_eq_ok_iff.mp hDecrypt).1.resolve_right hKey
    refine ⟨.inl hEmpty, rfl, plaintext, hRead, ?_⟩
    rw [opens_iff rfl (decodeUtf8_toUtf8 hToken), accepted_iff (decodeUtf8_toUtf8 hToken)]
    exact hSound.decrypts_of_encrypt_iff hCiphertext

variable {client : KeyringClient State}

theorem FieldRotated.done (hField : FieldRotated client field new)
    (hAccepted : new.value ≠ [] → Accepted new) : Done client new := by
  intro hSome
  by_cases hEmpty : field.value = []
  · rw [hField.1 hEmpty] at hSome
    exact absurd hEmpty hSome
  · rcases hField.2 hEmpty with ⟨_, hKey, plaintext, _, hOpens⟩
    exact ⟨hKey, plaintext, hOpens.mpr (hAccepted hSome)⟩

/- What a run counts of a field that is done. -/
def scanned (counts : RotationCounts) (field : EncryptedField) : RotationCounts :=
  if field.value = [] then counts
  else { counts with scannedFields := counts.scannedFields + 1 }

theorem rotateField_of_done (hDone : Done client field)
    (apply : Bool) (counts : RotationCounts) (state : State) :
    (rotateField client apply field counts state).1 = .ok (field, scanned counts field) := by
  unfold rotateField scanned
  by_cases hEmpty : field.value = []
  · rw [if_pos hEmpty, if_pos hEmpty]
    rfl
  · rcases hDone hEmpty with ⟨hKey, plaintext, hOpens⟩
    simp only [if_neg hEmpty, if_pos hKey, andThen_fst, hOpens state]
    rfl

theorem reencrypted_foldl_scanned (fields : List EncryptedField) (counts : RotationCounts) :
    (fields.foldl scanned counts).fieldsToReencrypt = counts.fieldsToReencrypt ∧
      (fields.foldl scanned counts).reencryptedFields = counts.reencryptedFields := by
  induction fields generalizing counts with
  | nil => exact ⟨rfl, rfl⟩
  | cons field rest ih =>
    rw [foldl_cons, (ih _).1, (ih _).2]
    unfold scanned
    split <;> exact ⟨rfl, rfl⟩

---- Whole Runs

variable {services : Services} {tables tables' : VaultTables} {report : VaultKeyRotationReport}
variable {actor : Option UserId} {stamp : EventStamp}

theorem rotateVaultEncryption_forall₂ {apply : Bool}
    (hRun : rotateVaultEncryption services client apply actor stamp tables state =
      (.ok (report, tables'), after)) :
    Forall₂ (fun field new => ∃ counts state counts' state',
        rotateField client apply field counts state = (.ok (new, counts'), state'))
      (encryptedModelFields.get tables.encrypted)
      (encryptedModelFields.get tables'.encrypted) := by
  rcases andThen_eq_ok_iff.mp hRun with ⟨changed, middle, hFields, hNext⟩
  have hSteps := replaceFields_forall₂ hFields
  split at hNext
  · rcases andThen_eq_ok_iff.mp hNext with ⟨_, _, _, hLast⟩
    cases (reading_ok_iff.mp hLast).1
    exact hSteps
  · cases (reading_ok_iff.mp hNext).1
    exact hSteps

theorem rotateVaultEncryption_of_done
    (hDone : ∀ field ∈ encryptedModelFields.get tables.encrypted, Done client field)
    (apply : Bool) (state : State) :
    ∃ report, (rotateVaultEncryption services client apply actor stamp tables state).1 =
      .ok (report, tables) ∧ report.fieldsToReencrypt = 0 := by
  have hCounts := reencrypted_foldl_scanned (encryptedModelFields.get tables.encrypted) ⟨0, 0, 0⟩
  refine ⟨((encryptedModelFields.get tables.encrypted).foldl scanned ⟨0, 0, 0⟩).report apply, ?_,
    hCounts.1⟩
  unfold rotateVaultEncryption
  rw [andThen_fst,
    replaceFields_eq_self (fun field hMem => rotateField_of_done (hDone field hMem) apply)]
  dsimp only [bind, Except.bind]
  rw [if_neg (fun hSome => hSome.2 hCounts.2)]
  rfl

/-
  A rotation that returns keeps all plaintexts and leaves all fields under the active key. If the
  keyring takes its own ciphertexts back, every later run has nothing to do.
-/
theorem vault_rotation_faithful (hSound : routed.Sound)
    (hRun : rotateVaultEncryption services (application routed) true actor stamp tables state =
      (.ok (report, tables'), after)) :
    Forall₂ (FieldRotated (application routed)) (encryptedModelFields.get tables.encrypted)
      (encryptedModelFields.get tables'.encrypted) ∧
    ((∀ new ∈ encryptedModelFields.get tables'.encrypted, new.value ≠ [] → Accepted new) →
      ∀ apply actor stamp later, ∃ report, (rotateVaultEncryption services (application routed)
        apply actor stamp tables' later).1 = .ok (report, tables') ∧
        report.fieldsToReencrypt = 0) := by
  have hFields : Forall₂ (FieldRotated (application routed))
    (encryptedModelFields.get tables.encrypted) (encryptedModelFields.get tables'.encrypted) := by
    refine (rotateVaultEncryption_forall₂ hRun).imp ?_
    rintro field new ⟨_, _, _, _, hStep⟩
    exact fieldRotated_of_step hSound hStep
  refine ⟨hFields, fun hAccepted apply actor stamp later => ?_⟩
  apply rotateVaultEncryption_of_done
  intro new hMem
  rcases forall₂_iff_get.mp hFields with ⟨hLength, hAll⟩
  rcases get_of_mem hMem with ⟨index, rfl⟩
  have hField := hAll index (index.isLt.trans_eq hLength.symm) index.isLt
  exact hField.done (hAccepted _ hMem)

/- A note without a key id. -/
def unkeyedTables : VaultTables :=
  itemTables [⟨0, encodePoints "vault:note", []⟩] (BackendMigration.sampleTables 1).audit

def sampleRotation : Except CipherError (VaultKeyRotationReport × VaultTables) × Unit :=
  rotateVaultEncryption plainServices (application sampleRouted) true none
    sampleStamp unkeyedTables ()

theorem sampleRotation_isSome : sampleRotation.1.toOption.isSome = true := by
  decide +kernel

theorem vault_rotation_sample : ∃ report tables, sampleRotation = (.ok (report, tables), ()) ∧
    Forall₂ (FieldRotated (application sampleRouted))
      (encryptedModelFields.get unkeyedTables.encrypted)
      (encryptedModelFields.get tables.encrypted) := by
  rcases exists_of_isSome sampleRotation_isSome with ⟨⟨report, tables⟩, _, hRun⟩
  exact ⟨report, tables, hRun, (vault_rotation_faithful sampleRouted_sound hRun).1⟩

end PamOlive.KeyRotation
