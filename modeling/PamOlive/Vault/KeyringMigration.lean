import PamOlive.Gateway.Control
import PamOlive.Vault.BackendMigration

/-
  The migration of the old secrets to the keyring.

  A field whose key id is not the active one is decrypted with the old keys and encrypted by the
  keyring; a signature the keyring does not accept is replaced. Two things escape: a hash version
  the command does not look at, and a ciphertext longer than the keyring takes back.
-/

---- The Command

namespace PamOlive.KeyringMigration

open Foundations Audit List Vault
open Gateway (compareDigest)
open KeyRotation KeyringService Migration

variable {State : Type}

/-
  The environment of the command, with `PAMOLIVE_VAULT_KEYS` as parsed: which keys `Fernet`
  accepts, what it decrypts, and the hexadecimal HMAC.
-/
structure Legacy where
  vaultKeys : List (Text × Text)
  vaultKey : Text
  auditSigningKey : Text
  validKey : Text → Bool
  fernetDecrypt : Text → Bytes → Option Text
  hmacHex : Text → Text → Text
  hmacHex_ascii : ∀ key text, ∀ point ∈ hmacHex key text, point.val < 128

namespace Legacy

/- `LegacyVaultCipher()`: the keys by their ids. -/
def ciphers (legacy : Legacy) : Except MigrationError (List (Text × Text)) :=
  let name := Text.ofString "legacy"
  let configured :=
    if legacy.vaultKey ≠ [] ∧ legacy.vaultKeys.lookup name = none then
      legacy.vaultKeys ++ [(name, legacy.vaultKey)]
    else legacy.vaultKeys
  if configured = [] then .error .noLegacyKey
  else if configured.all (fun entry => legacy.validKey entry.2) then .ok configured
  else .error .invalidLegacyKey

/- `LegacyVaultCipher.decrypt`. -/
def decrypt (legacy : Legacy) (keys : List (Text × Text))
    (token : Bytes) (keyId : Text) : Except MigrationError Text :=
  match keys.lookup keyId with
  | none => .error (.legacyKeyUnavailable keyId)
  | some key => found (legacy.fernetDecrypt key token) .legacyNotDecrypted

end Legacy

structure Counts where
  secrets : Nat
  migrated : Nat

def migrateField (legacy : Legacy) (keys : List (Text × Text))
    (client : KeyringClient State) (apply : Bool) (field : EncryptedField)
    (counts : Counts) : State → Except MigrationError (EncryptedField × Counts) × State :=
  let counted := { counts with secrets := counts.secrets + 1 }
  if field.value = [] then reading (fun _ => .ok (field, counts))
  else if field.keyId = activeKeyId then
    andThen (raising .cipher (VaultCipher.decrypt client field.value field.keyId)) fun _ =>
    reading (fun _ => .ok (field, counted))
  else
    andThen (reading (fun _ => legacy.decrypt keys field.value field.keyId)) fun plaintext =>
    if apply then
      andThen (raising .cipher (VaultCipher.encrypt client plaintext)) fun token =>
      reading (fun _ =>
        .ok (⟨token, activeKeyId⟩, { counted with migrated := counts.migrated + 1 }))
    else reading (fun _ => .ok (field, counted))

/- Which signatures are accepted, and which are replaced. -/
def signaturePolicy
    (legacy : Legacy) (client : KeyringClient State) (apply : Bool) : Policy State :=
  fun event =>
  andThen (if event.signature = [] then reading (fun _ => .ok false)
    else raising keyringRaised (client.verify event.eventHash event.signature))
    fun keyringValid =>
  andThen (reading (fun _ =>
      found (compareDigest event.signature (legacy.hmacHex legacy.auditSigningKey event.eventHash))
        .notAscii))
    fun legacyValid =>
  if event.hashVersion = 2 ∧ keyringValid = false ∧ legacyValid = false then
    reading (fun _ => .error (.signatureInvalid event.id))
  else if keyringValid = false ∧ apply then
    andThen (raising keyringRaised (client.sign event.eventHash)) fun signature =>
    reading (fun _ => .ok (some signature))
  else reading (fun _ => .ok none)

structure Report where
  secrets : Nat
  migrated : Nat
  auditEvents : Nat
  resigned : Nat

def completedEvent (stamp : EventStamp) (counts : Counts) (scan : Scan) : EventCall :=
  chainStateEvent stamp none "security.keyring_migration_completed" (.obj
    [("migrated_secrets", .int counts.migrated), ("resigned_events", .int scan.resigned)])

/- `Command._run` once the keys are there. -/
def migrate (services : Services) (legacy : Legacy) (keys : List (Text × Text))
    (client : KeyringClient State) (stamp : EventStamp) (apply : Bool)
    (tables : VaultTables) : State → Except MigrationError (Report × VaultTables) × State :=
  andThen (migrateTables services client (migrateField legacy keys client apply)
    (signaturePolicy legacy client apply) ⟨0, 0⟩ (completedEvent stamp) apply tables)
    fun done =>
  reading (fun _ =>
    .ok (⟨done.1.1.secrets, done.1.1.migrated, done.1.2.auditEvents, done.1.2.resigned⟩, done.2))

/- `Command._run`: its report, and the tables it commits. -/
def run (services : Services) (legacy : Legacy) (client : KeyringClient State)
    (stamp : EventStamp) (apply : Bool) (tables : VaultTables) :
    State → Except MigrationError (Report × VaultTables) × State :=
  andThen (reading (fun _ => legacy.ciphers)) fun keys =>
  if legacy.auditSigningKey = [] then reading (fun _ => .error .signingKeyRequired)
  else migrate services legacy keys client stamp apply tables

def migrateSecretsToKeyring (texts : PythonTexts) (services : Services) (legacy : Legacy)
    (client : KeyringClient State) (stamp : EventStamp) :
    Bool → Text → VaultTables × State → Except Text Report × (VaultTables × State) :=
  runCommand texts "MIGRATE-TO-KEYRING" (run services legacy client stamp)

variable {services : Services} {legacy : Legacy} {keys : List (Text × Text)}
variable {client : KeyringClient State} {stamp : EventStamp} {tables tables' : VaultTables}
variable {report : Report} {state after : State}

theorem run_eq_ok_iff {apply : Bool} :
    run services legacy client stamp apply tables state = (.ok (report, tables'), after) ↔
      ∃ keys, legacy.ciphers = .ok keys ∧ legacy.auditSigningKey ≠ [] ∧
        migrate services legacy keys client stamp apply tables
          state = (.ok (report, tables'), after) := by
  unfold run
  simp only [andThen_eq_ok_iff, reading_eq_ok_iff]
  constructor
  · rintro ⟨keys, _, ⟨hFound, rfl⟩, hRun⟩
    split at hRun
    · cases (reading_eq_ok_iff.mp hRun).1
    · rename_i hSigning
      exact ⟨keys, hFound, hSigning, hRun⟩
  · rintro ⟨keys, hKeys, hSigning, hRun⟩
    refine ⟨keys, state, ⟨hKeys, rfl⟩, ?_⟩
    rw [if_neg hSigning]
    exact hRun

---- Fields

variable {routed : RoutedBackend State}

section Fields

variable {field new : EncryptedField} {counts counts' : Counts}

/- The plaintext of a field, by the keyring or an old key. -/
def HeldBefore (legacy : Legacy) (client : KeyringClient State) (field : EncryptedField)
    (plaintext : Text) : Prop :=
  if field.keyId = activeKeyId then ReadAs client field plaintext
  else
    ∃ keys, legacy.ciphers = .ok keys ∧ legacy.decrypt keys field.value field.keyId = .ok plaintext

/- The cipher gives the plaintext, whenever it is asked. -/
def Opens (client : KeyringClient State) (field : EncryptedField) (plaintext : Text) : Prop :=
  ∀ state, (VaultCipher.decrypt client field.value field.keyId state).1 = .ok plaintext

/- The keyring takes the ciphertext back. -/
def Accepted (field : EncryptedField) : Prop :=
  ∀ ciphertext, decodeUtf8 field.value = some ciphertext → ciphertext.length ≤ maxValueLength * 2

/- A field before and after the migration. -/
def FieldMigrated (legacy : Legacy) (client : KeyringClient State)
    (field new : EncryptedField) : Prop :=
  (field.value = [] → new = field) ∧ (field.value ≠ [] → new.keyId = activeKeyId ∧ ∃ plaintext,
      HeldBefore legacy client field plaintext ∧ (Opens client new plaintext ↔ Accepted new))

variable {ciphertext plaintext : Text}

theorem opens_iff (hKey : field.keyId = activeKeyId)
    (hDecode : decodeUtf8 field.value = some ciphertext) :
    Opens client field plaintext ↔ client.Decrypts ciphertext plaintext := by
  refine forall_congr' ?_
  intro state
  unfold VaultCipher.decrypt
  rw [if_neg (fun hOther => hOther.2 hKey), hDecode]
  exact mapError_eq_ok_iff

theorem accepted_iff (hDecode : decodeUtf8 field.value = some ciphertext) :
    Accepted field ↔ ciphertext.length ≤ maxValueLength * 2 := by
  unfold Accepted
  rw [hDecode]
  constructor
  · exact fun hAll => hAll ciphertext rfl
  · rintro hShort _ ⟨⟩
    exact hShort

theorem opens_of_answer (hSound : routed.Sound) (hKey : field.keyId = activeKeyId)
    (hAnswer : ReadAs (application routed) field plaintext) :
    Opens (application routed) field plaintext ∧ Accepted field := by
  rcases hAnswer with ⟨before, between, hAnswer⟩
  rcases VaultCipher.decrypt_eq_ok_iff.mp hAnswer with ⟨_, ciphertext, hDecode, hDecrypt⟩
  rw [opens_iff hKey hDecode, accepted_iff hDecode]
  exact (hSound.decrypts_of_answer (congrArg Prod.fst hDecrypt)).symm

theorem fieldMigrated_of_step (hSound : routed.Sound) (hKeys : legacy.ciphers = .ok keys)
    (hStep : migrateField legacy keys (application routed) true field
      counts state = (.ok (new, counts'), after)) :
    FieldMigrated legacy (application routed) field new := by
  unfold migrateField at hStep
  split at hStep
  · rename_i hEmpty
    have hSame := (Prod.mk.inj (reading_ok_iff.mp hStep).1).1
    exact ⟨fun _ => hSame.symm, fun hSome => absurd hEmpty hSome⟩
  rename_i hSome
  refine ⟨fun hNone => absurd hNone hSome, fun _ => ?_⟩
  unfold HeldBefore
  split at hStep
  · rename_i hKey
    simp only [andThen_eq_ok_iff, raising_eq_ok_iff, reading_ok_iff, Prod.mk.injEq] at hStep
    rcases hStep with ⟨plaintext, middle, hDecrypt, ⟨rfl, _⟩, _⟩
    simp only [if_pos hKey]
    rcases opens_of_answer hSound hKey ⟨state, middle, hDecrypt⟩ with ⟨hOpens, hShort⟩
    exact ⟨hKey, plaintext, ⟨state, middle, hDecrypt⟩, iff_of_true hOpens hShort⟩
  · rename_i hKey
    simp only [andThen_eq_ok_iff, raising_eq_ok_iff, if_true, reading_eq_ok_iff, Except.ok.injEq,
      Prod.mk.injEq, VaultCipher.encrypt_eq_ok_iff] at hStep
    rcases hStep with
      ⟨plaintext, _, ⟨hDecrypt, _⟩, _, _, ⟨ciphertext, hCiphertext, hToken⟩, ⟨rfl, _⟩, _⟩
    simp only [if_neg hKey]
    refine ⟨trivial, plaintext, ⟨keys, hKeys, hDecrypt⟩, ?_⟩
    rw [opens_iff rfl (decodeUtf8_toUtf8 hToken), accepted_iff (decodeUtf8_toUtf8 hToken)]
    exact hSound.decrypts_of_encrypt_iff hCiphertext

theorem migrateField_dry (hStep :
    migrateField legacy keys client false field counts state = (.ok (new, counts'), after)) :
    field = new := by
  unfold migrateField at hStep
  split at hStep
  · exact (Prod.mk.inj (reading_ok_iff.mp hStep).1).1
  · split at hStep
    all_goals
      rcases andThen_eq_ok_iff.mp hStep with ⟨_, _, _, hNext⟩
      exact (Prod.mk.inj (reading_ok_iff.mp hNext).1).1

def Done (client : KeyringClient State) (field : EncryptedField) : Prop :=
  field.value ≠ [] → field.keyId = activeKeyId ∧ ∃ plaintext, Opens client field plaintext

def count (counts : Counts) (field : EncryptedField) : Counts :=
  if field.value = [] then counts
  else { counts with secrets := counts.secrets + 1 }

theorem migrateField_of_done (hDone : Done client field) (counts : Counts) (state : State) :
    (migrateField legacy keys client true field counts state).1 =
      .ok (field, count counts field) := by
  unfold migrateField count
  by_cases hEmpty : field.value = []
  · rw [if_pos hEmpty, if_pos hEmpty]
    rfl
  · rcases hDone hEmpty with ⟨hKey, plaintext, hOpens⟩
    rw [if_neg hEmpty, if_pos hKey, if_neg hEmpty, andThen_fst]
    have hAnswer := hOpens state
    unfold raising
    rw [hAnswer]
    rfl

theorem migrated_foldl_count (fields : List EncryptedField) (counts : Counts) :
    (fields.foldl count counts).migrated = counts.migrated := by
  induction fields generalizing counts with
  | nil => rfl
  | cons field rest ih =>
    rw [foldl_cons, ih]
    unfold count
    split <;> rfl

theorem FieldMigrated.done_iff (hSound : routed.Sound)
    (hMigrated : FieldMigrated legacy (application routed) field new)
    (state : State) : Done (application routed) new ↔ new.value ≠ [] → Accepted new := by
  by_cases hEmpty : field.value = []
  · have hNew : new.value = [] := by
      rw [hMigrated.1 hEmpty]
      exact hEmpty
    exact iff_of_true (fun hSome => absurd hNew hSome) (fun hSome => absurd hNew hSome)
  · rcases hMigrated.2 hEmpty with ⟨hKey, plaintext, _, hOpens⟩
    refine imp_congr_right ?_
    intro _
    constructor
    · rintro ⟨_, other, hOther⟩
      exact (opens_of_answer hSound hKey ⟨state, _, Prod.ext (hOther state) rfl⟩).2
    · exact fun hShort => ⟨hKey, plaintext, hOpens.mpr hShort⟩

end Fields

---- Signatures

variable {signature : Text}

section Signatures

variable {event : AuditEvent} {new : Option Text}

/- A signature that the keyring accepts, in its form. -/
def Signed (client : KeyringClient State) (event : AuditEvent) : Prop :=
  acceptedSignature event.signature = true ∧ client.Verifies event.eventHash event.signature

theorem signaturePolicy_applied
    (hPolicy : signaturePolicy legacy client true event state = (.ok new, after)) :
    (new = none ∧ (client.verify event.eventHash event.signature state).1 = .ok true) ∨
      ∃ signature state state',
        new = some signature ∧ client.sign event.eventHash state = (.ok signature, state') := by
  rcases andThen_eq_ok_iff.mp hPolicy with ⟨keyringValid, middle, hVerify, hNext⟩
  rcases andThen_eq_ok_iff.mp hNext with ⟨legacyValid, middle', _, hLast⟩
  split at hLast
  · cases (reading_eq_ok_iff.mp hLast).1
  cases keyringValid with
  | true =>
    refine .inl ⟨(reading_ok_iff.mp hLast).1.symm, ?_⟩
    split at hVerify
    · cases (reading_ok_iff.mp hVerify).1
    · exact congrArg Prod.fst (raising_eq_ok_iff.mp hVerify)
  | false =>
    rcases andThen_eq_ok_iff.mp hLast with ⟨signature, last, hSign, hNew⟩
    exact .inr ⟨signature, middle', last, (reading_ok_iff.mp hNew).1.symm,
      raising_eq_ok_iff.mp hSign⟩

theorem signaturePolicy_dry
    (hPolicy : signaturePolicy legacy client false event state = (.ok new, after)) :
    new = none := by
  rcases andThen_eq_ok_iff.mp hPolicy with ⟨_, _, _, hNext⟩
  rcases andThen_eq_ok_iff.mp hNext with ⟨_, _, _, hLast⟩
  split at hLast
  · cases (reading_eq_ok_iff.mp hLast).1
  rw [if_neg (fun hBoth => Bool.false_ne_true hBoth.2)] at hLast
  exact (reading_ok_iff.mp hLast).1.symm

theorem signaturePolicy_of_signed (hSigned : Signed client event) (state : State) :
    (signaturePolicy legacy client true event state).1 = .ok none := by
  have hAscii := ascii_of_acceptedSignature hSigned.1
  have hCompare : ∃ legacyValid, compareDigest event.signature
    (legacy.hmacHex legacy.auditSigningKey event.eventHash) = some legacyValid := by
    refine ⟨_, if_pos (all_eq_true.mpr ?_)⟩
    intro point hMem
    rw [decide_eq_true_eq]
    rcases mem_append.mp hMem with hOwn | hOther
    · exact hAscii point hOwn
    · exact legacy.hmacHex_ascii _ _ point hOther
  rcases hCompare with ⟨legacyValid, hCompare⟩
  unfold signaturePolicy
  rw [if_neg (ne_nil_of_acceptedSignature hSigned.1), andThen_fst]
  have hAnswer := hSigned.2 state
  unfold raising
  rw [hAnswer]
  dsimp only [bind, Except.bind, Except.mapError]
  rw [andThen_fst, hCompare]
  dsimp only [reading, found, bind, Except.bind]
  rw [if_neg (fun hAll => Bool.false_ne_true hAll.2.1.symm),
    if_neg (fun hBoth => Bool.false_ne_true hBoth.1.symm)]
  rfl

theorem signed_of_sign (hSound : routed.Sound)
    (hSign : (application routed).sign event.eventHash state = (.ok signature, after)) :
    Signed (application routed) { event with signature := signature } :=
  ⟨hSound.faithful.form _ _ _ _ (request_eq_ok_iff.mp hSign).2,
    (verifies_of_sign hSound.faithful rfl hSign).2.1⟩

theorem signed_of_mem_migratedLog {log : AuditLog} {choice : Uuid → Option Text} {call : EventCall}
    (hSound : routed.Sound)
    (hChoice :
      ∀ event ∈ log.events, ∃ state state', signaturePolicy legacy (application routed) true event
        state = (.ok (choice event.id), state'))
    (hSign : (application routed).sign (call.eventHash services log.chain) state =
      (.ok signature, after)) :
    ∀ event ∈ (migratedLog log choice (call.event services log.chain signature)).events,
      Signed (application routed) event := by
  have hLast : Signed (application routed) { call.event services log.chain signature with
      signature := signature } :=
    signed_of_sign hSound hSign
  refine forall_mem_migratedLog ?_ hLast
  intro old hOld
  rcases hChoice old hOld with ⟨_, _, hPolicy⟩
  rcases signaturePolicy_applied hPolicy with ⟨hNone, hVerify⟩ | ⟨new, _, _, hSome, hNew⟩
  · rw [resign_of_none hNone]
    exact hSound.verifies_of_answer hVerify
  · rw [resign_of_some hSome]
    exact signed_of_sign hSound hNew

end Signatures

---- A Second Run

/- The tables with one more event, and nothing else. -/
def OneMoreEvent (tables tables' : VaultTables) : Prop :=
  ∃ event : AuditEvent, tables' = ⟨tables.encrypted, ⟨tables.audit.events ++ [event], event.head⟩⟩

/- A migration that finds all done: only the signature of its own event can fail. -/
theorem migrate_of_done
    (hFields : ∀ field ∈ encryptedModelFields.get tables.encrypted, Done client field)
    (hChecked : ChainChecked services tables.audit)
    (hSigned : ∀ event ∈ tables.audit.events, Signed client event) (state : State) :
    ∃ (call : EventCall) (before : State) (report : Report), ∃ made : Text → VaultTables,
      report.migrated = 0 ∧ report.resigned = 0 ∧
      (∀ signature, OneMoreEvent tables (made signature)) ∧
      (migrate services legacy keys client stamp true tables state).1 =
        ((client.sign (call.eventHash services tables.audit.chain)
          before).1.mapError keyringRaised).map
          (fun signature => (report, made signature)) := by
  let counts := (encryptedModelFields.get tables.encrypted).foldl count ⟨0, 0⟩
  let call := completedEvent stamp counts (.unchanged tables.audit)
  let middle := (replaceFields (migrateField legacy keys client true) tables.encrypted
    ⟨0, 0⟩ state).2
  refine ⟨call, (scanEvents services (signaturePolicy legacy client true) tables.audit middle).2,
    ⟨counts.secrets, counts.migrated, tables.audit.events.length, 0⟩, fun signature =>
      ⟨tables.encrypted, ⟨tables.audit.events ++ [call.event services tables.audit.chain signature],
        (call.event services tables.audit.chain signature).head⟩⟩,
    migrated_foldl_count _ _, rfl, fun signature => ⟨_, rfl⟩, ?_⟩
  unfold migrate migrateTables
  rw [andThen_fst, andThen_fst,
    replaceFields_eq_self (fun field hMem => migrateField_of_done (hFields field hMem))]
  dsimp only [bind, Except.bind]
  rw [andThen_fst, scanEvents_unchanged hChecked
    (fun event hMem => signaturePolicy_of_signed (hSigned event hMem))]
  dsimp only [bind, Except.bind]
  rw [if_pos rfl, andThen_fst]
  unfold raising recordEventBy
  rw [andThen_fst]
  cases (client.sign _ _).1 with
  | error failure => rfl
  | ok signature => rfl

structure MigratedToKeyring (services : Services) (legacy : Legacy) (client : KeyringClient State)
    (tables tables' : VaultTables) : Prop where
  fields : Forall₂ (FieldMigrated legacy client) (encryptedModelFields.get tables.encrypted)
    (encryptedModelFields.get tables'.encrypted)
  verified : ∀ later, ∃ verification, (verifyAuditChainBy services client tables'.audit.events
    tables'.audit.chain later).1 = .ok verification ∧
    (verification.valid = true ↔
      ∀ event ∈ tables.audit.events, event.hashVersion = 1 ∨ event.hashVersion = 2)
  repeated :
    ∀ texts stamp later report world, migrateSecretsToKeyring texts services legacy client stamp
      true "MIGRATE-TO-KEYRING"
      (tables', later) = (.ok report, world) →
      report.migrated = 0 ∧ report.resigned = 0 ∧ OneMoreEvent tables' world.1
  repeats : (∀ payload state, ∃ signature,
    (client.sign (payloadHash services payload) state).1 = .ok signature) →
    ∀ texts stamp later, (∃ report, (migrateSecretsToKeyring texts services legacy client
      stamp true "MIGRATE-TO-KEYRING" (tables', later)).1 = .ok report) ↔
      ∀ field ∈ encryptedModelFields.get tables'.encrypted, field.value ≠ [] → Accepted field

variable {texts : PythonTexts}

section Runs

theorem done_of_migrate (hSound : routed.Sound)
    (hKeys : ∀ field ∈ encryptedModelFields.get tables.encrypted,
      field.value ≠ [] → field.keyId = activeKeyId)
    (hMigrate : migrate services legacy keys (application routed) stamp true
      tables state = (.ok (report, tables'), after)) :
    ∀ field ∈ encryptedModelFields.get tables.encrypted, Done (application routed) field := by
  rcases andThen_eq_ok_iff.mp hMigrate with ⟨⟨done, made⟩, middle, hTables, _⟩
  have hSteps := migrateTables_forall₂ hTables
  intro field hMem hSome
  have hKey := hKeys field hMem hSome
  rcases forall₂_iff_get.mp hSteps with ⟨hLength, hStep⟩
  rcases get_of_mem hMem with ⟨index, rfl⟩
  rcases hStep index index.isLt (hLength ▸ index.isLt) with
    ⟨counts, before, counts', between, hStep⟩
  unfold migrateField at hStep
  rw [if_neg hSome, if_pos hKey] at hStep
  rcases andThen_eq_ok_iff.mp hStep with ⟨plaintext, last, hDecrypt, _⟩
  exact ⟨hKey, plaintext,
    (opens_of_answer hSound hKey ⟨before, last, raising_eq_ok_iff.mp hDecrypt⟩).1⟩

section Again

variable (hSound : routed.Sound) (hFields : Forall₂ (FieldMigrated legacy (application routed))
    (encryptedModelFields.get tables.encrypted) (encryptedModelFields.get tables'.encrypted))
variable (hChecked : ChainChecked services tables'.audit)
variable (hSigned : ∀ event ∈ tables'.audit.events, Signed (application routed) event)

include hFields

theorem exists_origin : ∀ new ∈ encryptedModelFields.get tables'.encrypted,
    ∃ field, FieldMigrated legacy (application routed) field new := by
  intro new hMem
  rcases forall₂_iff_get.mp hFields with ⟨hLength, hAll⟩
  rcases get_of_mem hMem with ⟨index, rfl⟩
  exact ⟨_, hAll index (index.isLt.trans_eq hLength.symm) index.isLt⟩

theorem keyId_of_migrated : ∀ new ∈ encryptedModelFields.get tables'.encrypted,
    new.value ≠ [] → new.keyId = activeKeyId := by
  intro new hMem hSome
  rcases exists_origin hFields new hMem with ⟨field, hField⟩
  by_cases hEmpty : field.value = []
  · rw [hField.1 hEmpty] at hSome
    exact absurd hEmpty hSome
  · exact (hField.2 hEmpty).1

include hSound hChecked hSigned

theorem repeated_of_migrated {world : VaultTables × State}
    (hAgain : migrateSecretsToKeyring texts services legacy (application routed) stamp true
      "MIGRATE-TO-KEYRING" (tables', state) = (.ok report, world)) :
    report.migrated = 0 ∧ report.resigned = 0 ∧ OneMoreEvent tables' world.1 := by
  rcases run_eq_ok_iff.mp (runCommand_eq_ok hAgain) with ⟨keys, _, _, hMigrate⟩
  have hDone := done_of_migrate hSound (keyId_of_migrated hFields) hMigrate
  rcases @migrate_of_done _ services legacy keys _ stamp tables' hDone hChecked hSigned state with
    ⟨call, before, again, next, hMigrated, hResigned, hNext, hResult⟩
  rw [hMigrate] at hResult
  cases hSign :
    ((application routed).sign (call.eventHash services tables'.audit.chain) before).1 with
  | error failure =>
    rw [hSign] at hResult
    cases hResult
  | ok signature =>
    rw [hSign] at hResult
    injection hResult with hPair
    rw [Prod.mk.injEq] at hPair
    rw [hPair.1, hPair.2]
    exact ⟨hMigrated, hResigned, hNext signature⟩

theorem returns_again_iff (hKeys : legacy.ciphers = .ok keys)
    (hSigning : legacy.auditSigningKey ≠ [])
    (hSigns : ∀ payload state, ∃ signature,
      ((application routed).sign (payloadHash services payload) state).1 = .ok signature) :
    (∃ report, (migrateSecretsToKeyring texts services legacy (application routed) stamp true
      "MIGRATE-TO-KEYRING" (tables', state)).1 = .ok report) ↔
      ∀ field ∈ encryptedModelFields.get tables'.encrypted, field.value ≠ [] → Accepted field := by
  constructor
  · rintro ⟨report, hReturned⟩ new hMem
    have hAgain := runCommand_eq_ok (Prod.ext hReturned rfl)
    rcases run_eq_ok_iff.mp hAgain with ⟨keys, _, _, hMigrate⟩
    rcases exists_origin hFields new hMem with ⟨field, hField⟩
    exact (hField.done_iff hSound state).mp
      (done_of_migrate hSound (keyId_of_migrated hFields) hMigrate new hMem)
  · intro hShort
    have hDone :
      ∀ new ∈ encryptedModelFields.get tables'.encrypted, Done (application routed) new := by
      intro new hMem
      rcases exists_origin hFields new hMem with ⟨field, hField⟩
      exact (hField.done_iff hSound state).mpr (hShort new hMem)
    rcases @migrate_of_done _ services legacy keys _ stamp tables' hDone hChecked hSigned state with
      ⟨call, before, again, next, _, _, _, hResult⟩
    rcases hSigns _ before with ⟨signature, hSign⟩
    unfold EventCall.eventHash at hResult
    rw [hSign] at hResult
    have hReturns := run_eq_ok_iff.mpr ⟨keys, hKeys, hSigning, Prod.ext hResult rfl⟩
    unfold migrateSecretsToKeyring runCommand
    rw [if_neg (fun hOther => hOther.2 rfl), hReturns]
    exact ⟨_, rfl⟩

end Again

theorem run_applied (hSound : routed.Sound) (hIds : (tables.audit.events.map AuditEvent.id).Nodup)
    (hRun : run services legacy (application routed) stamp true tables
      state = (.ok (report, tables'), after)) :
    MigratedToKeyring services legacy (application routed) tables tables' := by
  rcases run_eq_ok_iff.mp hRun with ⟨keys, hKeys, hSigning, hMigrate⟩
  rcases andThen_eq_ok_iff.mp hMigrate with ⟨⟨done, made⟩, _, hTables, hReport⟩
  rcases (reading_ok_iff.mp hReport).1 with ⟨_, rfl⟩
  have hFields : Forall₂ (FieldMigrated legacy (application routed))
    (encryptedModelFields.get tables.encrypted)
    (encryptedModelFields.get made.encrypted) := by
    refine (migrateTables_forall₂ hTables).imp ?_
    rintro field new ⟨_, _, _, _, hStep⟩
    exact fieldMigrated_of_step hSound hKeys hStep
  rcases migrateTables_applied hIds hTables with
    ⟨hChecked, choice, hChoice, signature, before, between, hSign, hAudit⟩
  have hSigned := signed_of_mem_migratedLog hSound hChoice hSign
  have hChain := hChecked.migrated choice (completedEvent stamp done.1 done.2) signature
  rw [← hAudit] at hSigned hChain
  refine ⟨hFields, ?_, ?_, ?_⟩
  · intro later
    have hVerified :=
      fun event hMem =>
        have hEvent := hSigned event hMem
        And.intro (ne_nil_of_acceptedSignature hEvent.1) hEvent.2
    rw [hAudit] at hVerified ⊢
    exact hChecked.verify_migrated rfl hVerified later
  · intro texts stamp' later report' world hAgain
    exact repeated_of_migrated hSound hFields hChain hSigned hAgain
  · intro hSigns texts stamp' later
    exact returns_again_iff hSound hFields hChain hSigned hKeys hSigning hSigns

theorem run_dry (hIds : (tables.audit.events.map AuditEvent.id).Nodup)
    (hRun : run services legacy client stamp false tables state = (.ok (report, tables'), after)) :
    tables' = tables := by
  rcases run_eq_ok_iff.mp hRun with ⟨keys, _, _, hMigrate⟩
  rcases andThen_eq_ok_iff.mp hMigrate with ⟨⟨done, made⟩, _, hTables, hReport⟩
  rcases (reading_ok_iff.mp hReport).1 with ⟨_, rfl⟩
  exact migrateTables_dry hIds (fun _ _ _ _ _ _ => migrateField_dry)
    (fun _ _ _ _ => signaturePolicy_dry) hTables

/-
  The migration to a keyring that answers steadily. After it the chain is valid exactly if there
  was no unknown hash version, and a field is read again exactly if the keyring takes its
  ciphertext back.
-/
theorem keyring_migration_faithful
    {texts : PythonTexts} {apply : Bool} {confirm : Text} {result : Except Text Report}
    {world : VaultTables × State} (hSound : routed.Sound)
    (hIds : (tables.audit.events.map AuditEvent.id).Nodup)
    (hRun : migrateSecretsToKeyring texts services legacy (application routed) stamp apply confirm
      (tables, state) = (result, world)) :
    (∀ report, result = .ok report → apply = true →
      MigratedToKeyring services legacy (application routed) tables world.1) ∧
      (apply = false → world.1 = tables) ∧
      (∀ message, result = .error message → world.1 = tables) := by
  refine ⟨?_, ?_, ?_⟩
  · rintro report rfl rfl
    exact run_applied hSound hIds (runCommand_eq_ok hRun)
  · rintro rfl
    cases result with
    | ok report => exact run_dry hIds (runCommand_eq_ok hRun)
    | error message => exact runCommand_eq_error hRun
  · rintro message rfl
    exact runCommand_eq_error hRun

end Runs

---- Small Databases

def sampleRouted : RoutedBackend Unit := .vaultTransit plainBackend none

theorem sampleRouted_sound : sampleRouted.Sound where
  faithful := plainBackend_faithful
  steady := ⟨fun _ _ _ hOnce _ => hOnce, fun _ _ _ _ hOnce _ => hOnce⟩
  legacySteady := fun _ hNone => nomatch hNone
  routes := by
    intro plaintext ciphertext state after hEncrypt
    rw [← (reading_ok_iff.mp hEncrypt).1]
    exact isPrefixOf_iff_prefix.mpr (prefix_append _ _)

def fernetKey : Text := "MDEyMzQ1Njc4OWFiY2RlZjAxMjM0NTY3ODlhYmNkZWY="

/- The text `note` under the key. -/
def fernetToken : Bytes := encodePoints (Text.ofString
  ("gAAAAAAAAAAAAAAAAAAAAAAAAAAAAAAAAJjKBnTmEU_" ++
    "SQ5nCNsrGaZTlSd9bUAbe3EAeO0JAKPiBYpzIJ8_8srhrPJGCo3H8EA=="))

/- The digest of `h` under `audit`. -/
def legacySignature : Text := "9c16dd103b506b42b7cd389143e6e3e30d7d0ca552bb39c4ac0088940eaf5d9f"

/- Fernet and the HMAC on these values. -/
def sampleLegacy : Legacy where
  vaultKeys := []
  vaultKey := fernetKey
  auditSigningKey := "audit"
  validKey := fun key => decide (key = fernetKey)
  fernetDecrypt := fun key token =>
    if key = fernetKey ∧ token = fernetToken then some "note" else none
  hmacHex := fun key text => if key = "audit" ∧ text = "h" then legacySignature else []
  hmacHex_ascii := by
    intro key text
    split
    · simp [legacySignature, Text.ofString, CodePoint.ofChar]
    · exact fun _ hMem => absurd hMem not_mem_nil

def legacyEvent (version : Nat) : AuditEvent :=
  { BackendMigration.sampleEvent version with signature := legacySignature }

def sampleTables (version : Nat) : VaultTables :=
  itemTables [⟨0, fernetToken, "legacy"⟩] ⟨[legacyEvent version], ⟨1, "h"⟩⟩

/- The command with `apply` on the small database. -/
def sampleRun (version : Nat) : Except Text Report × (VaultTables × Unit) :=
  migrateSecretsToKeyring BackendMigration.sampleTexts
    plainServices sampleLegacy (application sampleRouted)
    sampleStamp true
    "MIGRATE-TO-KEYRING" (sampleTables version, ())

theorem keyring_migration_sample : ((sampleTables 1).audit.events.map AuditEvent.id).Nodup ∧
    ∃ report tables, sampleRun 1 = (.ok report, tables) ∧
        MigratedToKeyring plainServices sampleLegacy (application sampleRouted) (sampleTables 1)
          tables.1 := by
  have hIds : ((sampleTables 1).audit.events.map AuditEvent.id).Nodup := nodup_singleton _
  have hSome : (sampleRun 1).1.toOption.isSome = true := by decide +kernel
  rcases exists_of_isSome hSome with ⟨report, tables, hRun⟩
  refine ⟨hIds, report, tables, hRun, ?_⟩
  exact (keyring_migration_faithful sampleRouted_sound hIds hRun).1 report rfl rfl

/- An event with an unknown hash version goes through, and the chain is not valid afterwards. -/
theorem unknown_version_reaches_keyring :
    sampleRouted.Sound ∧ ((sampleTables 3).audit.events.map AuditEvent.id).Nodup ∧
      ∃ report tables verification, sampleRun 3 = (.ok report, tables) ∧
          (verifyAuditChainBy plainServices (application sampleRouted) tables.1.audit.events
            tables.1.audit.chain ()).1 = .ok verification ∧
          verification.valid = false := by
  have hSome : (sampleRun 3).1.toOption.isSome = true := by decide +kernel
  have hInvalid : (verifyAuditChainBy plainServices (application sampleRouted)
    (sampleRun 3).2.1.audit.events (sampleRun 3).2.1.audit.chain ()).1.toOption.map
    AuditVerification.valid = some false := by
    decide +kernel
  rcases exists_of_isSome hSome with ⟨report, tables, hRun⟩
  rw [hRun, Option.map_eq_some_iff] at hInvalid
  rcases hInvalid with ⟨verification, hVerify, hValid⟩
  exact ⟨sampleRouted_sound, nodup_singleton _, report, tables, verification, hRun,
    toOption_eq_some_iff.mp hVerify, hValid⟩

end PamOlive.KeyringMigration
