import PamOlive.Keyring.RateLimit
import PamOlive.Vault.KeyRotation
import Mathlib.Algebra.Order.Ring.Int

/-
  The checks of a restored database.

  `verify_restore` makes one request to the keyring for every signature and every encrypted field,
  and raises at once when the service refuses: an intact database passes at any speed exactly up to
  1200 events and 300 fields.
-/

---- The Command

namespace PamOlive.RestoreChecks

open Foundations List Audit
open Audit (AuditVerification)
open KeyRotation KeyringService

variable {State : Type}

/- What `verify_restore` raises. -/
inductive RestoreError where
  | pendingMigrations (count : Nat)
  | markerMissing
  | chainInvalid (issues : Nat)
  | keyring (error : KeyringError)
  | cipher (error : CipherError)

/- `str(exc)`. -/
def RestoreError.str (texts : PythonTexts) : RestoreError → Text
| .pendingMigrations count =>
  "La restauration a " ++ Text.decimal count ++ " migration(s) en attente."
| .markerMissing =>
  "L'utilisateur marqueur attendu est " ++ "absent de la restauration."
| .chainInvalid issues =>
  "La chaîne d'audit restaurée est " ++ "invalide (" ++ Text.decimal issues ++ " anomalie(s))."
| .keyring .operationFailed => "The keyring operation failed"
| .cipher error => error.str texts

def integrityChecks (services : Services) (client : KeyringClient State) (stamp : EventStamp)
    (tables : VaultTables) :
    State → Except RestoreError (AuditVerification × VaultKeyRotationReport) × State :=
  andThen (raising .keyring
    (verifyAuditChainBy services client tables.audit.events tables.audit.chain))
    fun audit =>
  if audit.valid = false then
    reading (fun _ => .error (.chainInvalid audit.issues.length))
  else
    andThen (raising .cipher (rotateVaultEncryption services client false none stamp tables))
      fun vault =>
    reading (fun _ => .ok (audit, vault.1))

def restoredMessage (audit : AuditVerification) (vault : VaultKeyRotationReport) : Text :=
  "Restauration valide : audit=" ++ Text.decimal audit.checkedEvents ++ ", champs_chiffrés=" ++
    Text.decimal vault.scannedFields ++ ", clé_active=" ++ vault.activeKeyId ++ ", migrations=0."

/- `verify_restore`, with the migrations still to apply. -/
def verifyRestore (services : Services) (client : KeyringClient State) (pending : Nat)
    (expectUser : Text) (usernames : List Text) (stamp : EventStamp)
    (tables : VaultTables) : State → Except RestoreError Text × State :=
  if pending ≠ 0 then reading (fun _ => .error (.pendingMigrations pending))
  else if expectUser ≠ [] ∧ usernames.all (fun username => decide (username ≠ expectUser)) = true
  then reading (fun _ => .error .markerMissing)
  else
    andThen (integrityChecks services client stamp tables) fun checked =>
    reading (fun _ => .ok (restoredMessage checked.1 checked.2))

---- What The Checks Ask For

variable {Time : Type} [Ring Time] [LinearOrder Time] {services : Services} {limits : Limits}
variable {clock : Nat → Time}

theorem verifyEventBy_limited {event : Audit.AuditEvent} (hAgrees : services.keyring.Agrees)
    (hRecorded : Audit.Recorded services event) (progress : Audit.Progress) :
    verifyEventBy services (limitedClient limits clock services.keyring) event progress =
      post limits clock .verify .operationFailed (.ok (progress.advance event [])) := by
  rcases hAgrees _ _ hRecorded.signed with ⟨hSignature, hVerify⟩
  have hTwo : event.hashVersion ≠ 1 := by
    rw [hRecorded.version]
    decide
  unfold verifyEventBy contentIssuesBy
  rw [if_neg hTwo, if_pos hRecorded.version]
  unfold signatureInvalidBy
  rw [if_neg hSignature]
  have hPost :
    (limitedClient limits clock services.keyring).verify event.eventHash event.signature =
      post limits clock .verify .operationFailed (.ok true) := by
    unfold limitedClient
    dsimp only
    rw [hVerify]
  rw [hPost, andThen_post, Bool.not_true, andThen_post,
    if_neg (not_not.mpr hRecorded.hashed), andThen_post]
  rfl

def Decryptable (keyring : Keyring) (field : EncryptedField) : Prop :=
  ∃ plaintext, VaultCipher.decrypt (KeyringClient.ofKeyring keyring) field.value
    field.keyId () = (.ok plaintext, ())

def countField (counts : RotationCounts) (field : EncryptedField) : RotationCounts :=
  if field.value = [] then counts
  else if field.keyId = Vault.activeKeyId then
    { counts with scannedFields := counts.scannedFields + 1 }
  else
    { counts with
      scannedFields := counts.scannedFields + 1
      fieldsToReencrypt := counts.fieldsToReencrypt + 1 }

def isStored (field : EncryptedField) : Bool :=
  decide (field.value ≠ [])

theorem rotateField_limited {field : EncryptedField} (hStored : isStored field = true)
    (hDecryptable : Decryptable services.keyring field) (counts : RotationCounts) :
    rotateField (limitedClient limits clock services.keyring) false field counts =
      post limits clock .decrypt .notDecrypted (.ok (field, countField counts field)) := by
  rcases hDecryptable with ⟨plaintext, hDecryptable⟩
  rcases VaultCipher.decrypt_eq_ok_iff.mp hDecryptable with ⟨hKey, ciphertext, hDecode, hDecrypt⟩
  have hAnswer : services.keyring.decrypt ciphertext = .ok plaintext := congrArg Prod.fst hDecrypt
  have hPost :
    VaultCipher.decrypt (limitedClient limits clock services.keyring) field.value field.keyId =
      post limits clock .decrypt .notDecrypted (.ok plaintext) := by
    unfold VaultCipher.decrypt
    rw [if_neg (by rintro ⟨hSome, hOther⟩; tauto), hDecode]
    unfold limitedClient
    dsimp only
    rw [hAnswer, raising_post]
    rfl
  have hValue : field.value ≠ [] := of_decide_eq_true hStored
  unfold rotateField countField
  rw [if_neg hValue, if_neg hValue, hPost]
  by_cases hActive : field.keyId = Vault.activeKeyId
  · simp only [if_pos hActive]
    exact andThen_post plaintext (fun _ => Except.ok (field, _))
  · simp only [if_neg hActive]
    exact andThen_post plaintext (fun _ => Except.ok (field, _))

theorem rotateField_skipped {client : KeyringClient State} {field : EncryptedField}
    (hStored : isStored field = false) (counts : RotationCounts) :
    rotateField client false field counts = reading (fun _ =>
        .ok (field, countField counts field)) := by
  have hValue : field.value = [] := by simpa [isStored] using hStored
  unfold rotateField countField
  rw [if_pos hValue, if_pos hValue]

def storedSecrets (tables : VaultTables) : Nat :=
  (encryptedModelFields.get tables.encrypted).countP isStored

theorem scannedFields_foldl_countField (fields : List EncryptedField) (counts : RotationCounts) :
    (fields.foldl countField counts).scannedFields =
      counts.scannedFields + fields.countP isStored := by
  induction fields generalizing counts with
  | nil => rfl
  | cons field rest ih =>
    rw [foldl_cons, ih, countP_cons]
    unfold countField isStored
    by_cases hValue : field.value = []
    · simp [hValue]
    · by_cases hActive : field.keyId = Vault.activeKeyId
      · simp [hValue, hActive]
        omega
      · simp [hValue, hActive]
        omega

---- When The Checks Complete

variable {tables : VaultTables} {stamp : EventStamp}

theorem verifyAuditChainBy_limited (hAgrees : services.keyring.Agrees)
    (hWritten : Audit.Written services tables.audit)
    (limiter : Limiter Time) :
    (∀ kept, acquireAll limits clock .verify tables.audit.events.length limiter = some kept →
      ∃ audit, verifyAuditChainBy services (limitedClient limits clock services.keyring)
        tables.audit.events tables.audit.chain
        limiter =
        (.ok audit,
          { calls :=
            limiter.calls + tables.audit.events.length
            events := Function.update limiter.events .verify kept }) ∧
        audit.valid = true ∧
        audit.checkedEvents = tables.audit.events.length) ∧
      (acquireAll limits clock .verify tables.audit.events.length limiter = none →
        (verifyAuditChainBy services (limitedClient limits clock services.keyring)
          tables.audit.events tables.audit.chain
          limiter).1 = .error .operationFailed) := by
  have hLoop : Requesting limits clock .verify KeyringError.operationFailed (fun _ => true)
    (fun progress event => progress.advance event [])
    (verifyEventBy services (limitedClient limits clock services.keyring))
    tables.audit.events :=
    ⟨fun event hMem _ progress =>
      verifyEventBy_limited hAgrees (hWritten.recorded event hMem) progress,
      fun _ _ hFalse => by cases hFalse⟩
  have hRun := forEach_post hLoop .initial limiter
  rw [countP_true] at hRun
  unfold verifyAuditChainBy
  rw [hWritten.orderBySequence_eq]
  constructor
  · intro kept hKept
    have hAccepted := hWritten.accepted hAgrees
    have hPlain := verifyEvents_of_passes hAccepted.passes .initial
    rw [← hWritten.orderBySequence_eq] at hAccepted
    rcases verifyAuditChain_of_accepted hAccepted with ⟨audit, hAudit, hValid, hChecked, _⟩
    -- Without limits the loop has the same result.
    unfold verifyAuditChain at hAudit
    rw [hWritten.orderBySequence_eq, hPlain] at hAudit
    have hFinish := Except.ok.inj hAudit
    refine ⟨audit, ?_, hValid, hChecked⟩
    unfold andThen
    rw [hRun.1 kept hKept]
    rw [← hFinish]
    rfl
  · intro hNone
    rw [andThen_fst, hRun.2 hNone]
    rfl

theorem rotateVaultEncryption_limited
    (hDecryptable : ∀ field ∈ encryptedModelFields.get tables.encrypted,
      field.value ≠ [] → Decryptable services.keyring field)
    (limiter : Limiter Time) :
    (∀ kept, acquireAll limits clock .decrypt (storedSecrets tables) limiter = some kept →
      ∃ vault, (rotateVaultEncryption services (limitedClient limits clock services.keyring)
        false none stamp tables limiter).1 = .ok (vault, tables) ∧
        vault.scannedFields = storedSecrets tables) ∧
      (acquireAll limits clock .decrypt (storedSecrets tables) limiter = none →
        (rotateVaultEncryption services (limitedClient limits clock services.keyring)
          false none stamp tables limiter).1 = .error .notDecrypted) := by
  have hAsked :
    ∀ field ∈ encryptedModelFields.get tables.encrypted, isStored field = true → ∀ counts,
      rotateField (limitedClient limits clock services.keyring) false field counts =
        post limits clock .decrypt .notDecrypted (.ok (field, countField counts field)) :=
    fun field hMem hStored =>
      rotateField_limited hStored (hDecryptable field hMem (of_decide_eq_true hStored))
  have hRun :=
    mapAccum_post hAsked (fun _ _ hStored => rotateField_skipped hStored) ⟨0, 0, 0⟩ limiter
  unfold rotateVaultEncryption replaceFields
  rw [andThen_fst, andThen_fst]
  constructor
  · intro kept hKept
    refine ⟨RotationCounts.report
      ((encryptedModelFields.get tables.encrypted).foldl countField ⟨0, 0, 0⟩) false, ?_, ?_⟩
    · rw [hRun.1 kept hKept]
      dsimp only [bind, Except.bind, reading]
      rw [if_neg (fun hApply => Bool.false_ne_true hApply.1), encryptedModelFields.put_get]
      rfl
    · refine (scannedFields_foldl_countField _ _).trans ?_
      exact Nat.zero_add _
  · intro hNone
    rw [hRun.2 hNone]
    rfl

/- The checks complete: a valid chain with all its events, and a report on all stored fields. -/
def Completes (services : Services) (clock : Nat → Time) (stamp : EventStamp)
    (tables : VaultTables) : Prop :=
  ∃ audit vault after, integrityChecks services (limitedClient {} clock services.keyring) stamp
    tables Limiter.fresh = (.ok (audit, vault), after) ∧ audit.valid = true ∧
    audit.checkedEvents = tables.audit.events.length ∧ vault.scannedFields = storedSecrets tables

section Spacing

variable [IsStrictOrderedRing Time]

/- What an intact database is, for the two checks. -/
variable (hAgrees : services.keyring.Agrees) (hWritten : Audit.Written services tables.audit)
variable (hDecryptable : ∀ field ∈ encryptedModelFields.get tables.encrypted,
    field.value ≠ [] → Decryptable services.keyring field)
variable (hClock : Monotone clock)

section

variable (clock : Nat → Time) (tables : VaultTables)

def VerificationsSpaced : Prop :=
  SlidingWindow.Spaced 1200 windowSeconds (requestTimes clock 0 tables.audit.events.length)

def DecryptionsSpaced : Prop :=
  SlidingWindow.Spaced 300 windowSeconds
    (requestTimes clock tables.audit.events.length (storedSecrets tables))

end

include hClock in
theorem verifications_pass_iff :
    (acquireAll {} clock .verify tables.audit.events.length Limiter.fresh).isSome ↔
      VerificationsSpaced clock tables :=
  acquireAll_isSome_iff hClock (by decide) rfl _

include hClock in
theorem decryptions_pass_iff {limiter : Limiter Time}
    (hCalls : limiter.calls = tables.audit.events.length) (hUnused : limiter.events .decrypt = []) :
    (acquireAll {} clock .decrypt (storedSecrets tables) limiter).isSome ↔
      DecryptionsSpaced clock tables := by
  have hLimit : 0 < Limits.of {} .decrypt := by decide
  rw [acquireAll_isSome_iff hClock hLimit hUnused, hCalls]
  rfl

include hAgrees hWritten hClock in
theorem integrityChecks_of_verify_refused (hRefused : ¬ VerificationsSpaced clock tables) :
    (integrityChecks services (limitedClient {} clock services.keyring) stamp
      tables Limiter.fresh).1 = .error (.keyring .operationFailed) := by
  rw [← verifications_pass_iff hClock, Option.not_isSome_iff_eq_none] at hRefused
  unfold integrityChecks raising
  rw [andThen_fst, (verifyAuditChainBy_limited hAgrees hWritten Limiter.fresh).2 hRefused]
  rfl

include hAgrees hWritten hClock in
theorem integrityChecks_of_verified (hSpaced : VerificationsSpaced clock tables) :
    ∃ audit limiter, audit.valid = true ∧ audit.checkedEvents = tables.audit.events.length ∧
      limiter.calls = tables.audit.events.length ∧
      limiter.events .decrypt = [] ∧
      integrityChecks services (limitedClient {} clock services.keyring) stamp
        tables Limiter.fresh =
        andThen (raising .cipher (rotateVaultEncryption services
          (limitedClient {} clock services.keyring)
          false none stamp tables))
          (fun vault => reading (fun _ => .ok (audit, vault.1)))
          limiter := by
  rw [← verifications_pass_iff hClock, Option.isSome_iff_exists] at hSpaced
  rcases hSpaced with ⟨kept, hKept⟩
  rcases (verifyAuditChainBy_limited hAgrees hWritten Limiter.fresh).1 kept hKept with
    ⟨audit, hAudit, hValid, hChecked⟩
  have hUnused : Function.update Limiter.fresh.events .verify kept .decrypt = [] :=
    Function.update_of_ne (by decide) _ _
  refine ⟨audit,
    { calls := 0 + tables.audit.events.length
      events := Function.update Limiter.fresh.events .verify kept },
    hValid, hChecked, Nat.zero_add _, hUnused, ?_⟩
  unfold integrityChecks
  rw [andThen_of_ok (raising_eq_ok_iff.mpr hAudit), if_neg (by rw [hValid]; decide)]
  rfl

include hAgrees hWritten hDecryptable hClock

theorem integrityChecks_of_decrypt_refused (hSpaced : VerificationsSpaced clock tables)
    (hRefused : ¬ DecryptionsSpaced clock tables) :
    (integrityChecks services (limitedClient {} clock services.keyring) stamp
      tables Limiter.fresh).1 = .error (.cipher .notDecrypted) := by
  rcases integrityChecks_of_verified hAgrees hWritten hClock
    hSpaced with ⟨audit, limiter, _, _, hCalls, hUnused, hRun⟩
  rw [← decryptions_pass_iff hClock hCalls hUnused, Option.not_isSome_iff_eq_none] at hRefused
  rw [hRun, andThen_fst]
  unfold raising
  rw [(rotateVaultEncryption_limited hDecryptable limiter).2 hRefused]
  rfl

theorem completes_of_spaced (hVerified : VerificationsSpaced clock tables)
    (hDecrypted : DecryptionsSpaced clock tables) : Completes services clock stamp tables := by
  rcases integrityChecks_of_verified hAgrees hWritten hClock hVerified with
    ⟨audit, limiter, hValid, hChecked, hCalls, hUnused, hRun⟩
  rw [← decryptions_pass_iff hClock hCalls hUnused, Option.isSome_iff_exists] at hDecrypted
  rcases hDecrypted with ⟨kept, hKept⟩
  rcases (@rotateVaultEncryption_limited Time _ _ services
    {} clock tables stamp hDecryptable limiter).1 kept
    hKept with ⟨vault, hVault, hScanned⟩
  rcases hRotate :
    rotateVaultEncryption services (limitedClient {} clock services.keyring) false none
      stamp tables limiter with ⟨result, after⟩
  rw [hRotate] at hVault
  dsimp only at hVault
  rw [hVault] at hRotate
  refine ⟨audit, vault, after, hRun.trans ?_, hValid, hChecked, hScanned⟩
  exact andThen_eq_ok_iff.mpr ⟨(vault, tables), after, raising_eq_ok_iff.mpr hRotate, rfl⟩

/- The checks complete exactly if the verifications and then the decryptions are spaced. -/
theorem completes_iff_spaced : Completes services clock stamp tables ↔
    VerificationsSpaced clock tables ∧ DecryptionsSpaced clock tables := by
  constructor
  · rintro ⟨audit, vault, after, hRun, _⟩
    have hOk := congrArg Prod.fst hRun
    have hVerified : VerificationsSpaced clock tables := by
      by_contra hRefused
      rw [integrityChecks_of_verify_refused hAgrees hWritten hClock hRefused] at hOk
      cases hOk
    refine ⟨hVerified, ?_⟩
    by_contra hRefused
    rw [integrityChecks_of_decrypt_refused hAgrees hWritten
      hDecryptable hClock hVerified hRefused] at hOk
    cases hOk
  · rintro ⟨hVerified, hDecrypted⟩
    exact completes_of_spaced hAgrees hWritten hDecryptable hClock hVerified hDecrypted

omit hClock in
/-
  At whatever speed, the checks complete exactly if there are no more events and fields than the
  limits.
-/
theorem restore_checks_complete_iff :
    (∀ clock : Nat → Time, Monotone clock → Completes services clock stamp tables) ↔
      tables.audit.events.length ≤ 1200 ∧ storedSecrets tables ≤ 300 := by
  constructor
  · intro hAll
    -- The fastest clock: all calls at one instant.
    have hSpaced := (completes_iff_spaced hAgrees hWritten hDecryptable
      monotone_const).mp (hAll (fun _ => 0) monotone_const)
    exact ⟨(spaced_constant_iff _ _ _ _).mp hSpaced.1, (spaced_constant_iff _ _ _ _).mp hSpaced.2⟩
  · rintro ⟨hEvents, hSecrets⟩ clock hClock
    refine (completes_iff_spaced hAgrees hWritten hDecryptable hClock).mpr ⟨?_, ?_⟩
    · refine SlidingWindow.spaced_of_length_le ?_
      rw [length_requestTimes]
      exact hEvents
    · refine SlidingWindow.spaced_of_length_le ?_
      rw [length_requestTimes]
      exact hSecrets

end Spacing

---- A Database That Is Too Large

def sampleItem (number : Nat) : PersonalVaultItem where
  id := BitVec.ofNat 128 number
  encryptedPayload := [byte 110]
  encryptionKeyId := Vault.activeKeyId

def sampleTables (count : Nat) : VaultTables := itemTables ((range count).map sampleItem) .empty

theorem get_sampleTables (count : Nat) : encryptedModelFields.get (sampleTables count).encrypted =
    replicate count ⟨[byte 110], Vault.activeKeyId⟩ := by
  have hItems : encryptedModelFields.get (sampleTables count).encrypted =
    (((range count).map sampleItem).flatMap PersonalVaultItem.field.get) ++ [] :=
    rfl
  rw [hItems, append_nil, flatMap_map]
  have hItem : ∀ number,
    PersonalVaultItem.field.get (sampleItem number) = [⟨[byte 110], Vault.activeKeyId⟩] :=
    fun _ => rfl
  simp only [hItem]
  rw [← map_eq_flatMap, map_const', length_range]

theorem decryptable_sampleTables (count : Nat) :
    ∀ field ∈ encryptedModelFields.get (sampleTables count).encrypted,
      field.value ≠ [] → Decryptable plainServices.keyring field := by
  intro field hMem _
  rw [get_sampleTables, mem_replicate] at hMem
  rw [hMem.2]
  refine ⟨latin1 [byte 110],
    VaultCipher.decrypt_eq_ok_iff.mpr ⟨.inr rfl, latin1 [byte 110], ?_, rfl⟩⟩
  refine decodeUtf8_ascii ?_
  intro value hValue
  rw [mem_singleton.mp hValue]
  decide

theorem storedSecrets_sampleTables (count : Nat) : storedSecrets (sampleTables count) = count := by
  unfold storedSecrets
  rw [get_sampleTables, countP_replicate]
  exact if_pos rfl

theorem restore_checks_complete_sample :
    plainServices.keyring.Agrees ∧ Audit.Written plainServices (sampleTables 300).audit ∧
      ((∀ clock : Nat → Int, @Monotone Nat Int _ Int.instLinearOrder.toPartialOrder.toPreorder
        clock →
        Completes plainServices clock sampleStamp (sampleTables 300)) ↔
        (sampleTables 300).audit.events.length ≤ 1200 ∧ storedSecrets (sampleTables 300) ≤ 300) :=
  ⟨plainServices_agrees, .empty,
    restore_checks_complete_iff plainServices_agrees .empty (decryptable_sampleTables 300)⟩

/- With one more note and all calls in one instant the command raises on an intact database. -/
theorem crowded_restore_fails :
    plainServices.keyring.Agrees ∧ Audit.Written plainServices (sampleTables 301).audit ∧ (∀ field ∈
      encryptedModelFields.get (sampleTables 301).encrypted,
      field.value ≠ [] → Decryptable plainServices.keyring field) ∧
      (integrityChecks plainServices (limitedClient {} (fun _ => (0 : Int)) plainServices.keyring)
        sampleStamp (sampleTables 301) Limiter.fresh).1 = .error (.cipher .notDecrypted) := by
  refine ⟨plainServices_agrees, .empty, decryptable_sampleTables 301, ?_⟩
  refine integrityChecks_of_decrypt_refused plainServices_agrees .empty
    (decryptable_sampleTables 301) monotone_const ?_ ?_
  · exact (spaced_constant_iff _ _ _ _).mpr (Nat.zero_le _)
  · intro hSpaced
    have hLe := (spaced_constant_iff _ _ _ _).mp hSpaced
    rw [storedSecrets_sampleTables] at hLe
    omega

end PamOlive.RestoreChecks
