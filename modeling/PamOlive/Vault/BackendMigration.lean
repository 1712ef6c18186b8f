import PamOlive.Keyring.Backends
import PamOlive.Vault.Migration

/-
  The migration to the active backend of the keyring.

  Every field is decrypted with the keyring, which still has the local key, and encrypted with the
  active backend; every event is signed again. What was read before is then read with the active
  backend alone, and verification can only object to an unknown hash version.
-/

---- The Command

namespace PamOlive.BackendMigration

open Foundations Audit KeyRotation KeyringService Migration List

variable {State : Type}

section

variable (client : KeyringClient State) (apply : Bool)

def migrateField (field : EncryptedField)
    (secrets : Nat) : State → Except MigrationError (EncryptedField × Nat) × State :=
  if field.value = [] then reading (fun _ => .ok (field, secrets))
  else
    andThen (raising .cipher (VaultCipher.decrypt client field.value field.keyId)) fun plaintext =>
    if apply then
      andThen (raising .cipher (VaultCipher.encrypt client plaintext)) fun token =>
      reading (fun _ => .ok (⟨token, Vault.activeKeyId⟩, secrets + 1))
    else reading (fun _ => .ok (field, secrets + 1))

/- The signature must be accepted; `apply` makes a new one. -/
def signaturePolicy : Policy State :=
  fun event =>
  if event.signature = [] then reading (fun _ => .error (.signatureInvalid event.id))
  else
    andThen (raising keyringRaised (client.verify event.eventHash event.signature)) fun accepted =>
    if accepted = false then reading (fun _ => .error (.signatureInvalid event.id))
    else if apply then
      andThen (raising keyringRaised (client.sign event.eventHash)) fun signature =>
      reading (fun _ => .ok (some signature))
    else reading (fun _ => .ok none)

end

structure Report where
  secrets : Nat
  auditEvents : Nat

def completedEvent (stamp : EventStamp) (report : Report) : EventCall :=
  chainStateEvent stamp none "security.keyring_backend_migration_completed" (.obj
    [("secrets", .int report.secrets), ("audit_events", .int report.auditEvents)])

/- `Command._run`: its report, and the tables it commits. -/
def run (services : Services) (client : KeyringClient State) (stamp : EventStamp)
    (apply : Bool) (tables : VaultTables) :
    State → Except MigrationError (Report × VaultTables) × State :=
  andThen (migrateTables services client (migrateField client apply)
    (signaturePolicy client apply) 0
    (fun secrets scan => completedEvent stamp ⟨secrets, scan.auditEvents⟩) apply tables)
    fun migrated =>
  reading (fun _ => .ok (⟨migrated.1.1, migrated.1.2.auditEvents⟩, migrated.2))

def migrateKeyringBackend (texts : PythonTexts) (services : Services) (client : KeyringClient State)
    (stamp : EventStamp) :
    Bool → Text → VaultTables × State → Except Text Report × (VaultTables × State) :=
  runCommand texts "MIGRATE-KEYRING-BACKEND" (run services client stamp)

---- Steps

variable {client : KeyringClient State} {field new : EncryptedField} {secrets secrets' : Nat}

theorem migrateField_applied {state after : State}
    (hStep : migrateField client true field secrets state = (.ok (new, secrets'), after)) :
    (field.value = [] ∧ new = field) ∨ (field.value ≠ [] ∧
      ∃ plaintext ciphertext state state', ReadAs client field plaintext ∧
        client.encrypt plaintext state = (.ok ciphertext, state') ∧
        ciphertext.toUtf8 = some new.value ∧ new.keyId = Vault.activeKeyId) := by
  unfold migrateField at hStep
  split at hStep
  · rename_i hEmpty
    exact .inl ⟨hEmpty, (Prod.mk.inj (reading_ok_iff.mp hStep).1).1.symm⟩
  · rename_i hSome
    simp only [andThen_eq_ok_iff, raising_eq_ok_iff, if_true, reading_ok_iff, Prod.mk.injEq,
      VaultCipher.encrypt_eq_ok_iff] at hStep
    rcases hStep with
      ⟨plaintext, middle, hDecrypt, _, last, ⟨ciphertext, hCiphertext, hToken⟩, ⟨rfl, _⟩, _⟩
    exact .inr ⟨hSome, plaintext, ciphertext, middle, last, ⟨state, middle, hDecrypt⟩, hCiphertext,
      hToken, rfl⟩

theorem migrateField_dry {state after : State}
    (hStep : migrateField client false field secrets state = (.ok (new, secrets'), after)) :
    field = new := by
  unfold migrateField at hStep
  split at hStep
  · exact (Prod.mk.inj (reading_ok_iff.mp hStep).1).1
  · rcases andThen_eq_ok_iff.mp hStep with ⟨_, _, _, hNext⟩
    exact (Prod.mk.inj (reading_ok_iff.mp hNext).1).1

variable {event : AuditEvent}

theorem signaturePolicy_eq_ok {apply : Bool} {new : Option Text} {state after : State}
    (hPolicy : signaturePolicy client apply event state = (.ok new, after)) :
    if apply then ∃ signature state state',
      new = some signature ∧ client.sign event.eventHash state = (.ok signature, state')
    else new = none := by
  unfold signaturePolicy at hPolicy
  split at hPolicy
  · cases (reading_eq_ok_iff.mp hPolicy).1
  rcases andThen_eq_ok_iff.mp hPolicy with ⟨accepted, middle, _, hNext⟩
  split at hNext
  · cases (reading_eq_ok_iff.mp hNext).1
  cases apply with
  | false => exact (reading_ok_iff.mp hNext).1.symm
  | true =>
    rcases andThen_eq_ok_iff.mp hNext with ⟨signature, last, hSign, hNew⟩
    exact ⟨signature, middle, last, (reading_ok_iff.mp hNew).1.symm, raising_eq_ok_iff.mp hSign⟩

---- A Migrated Database

/- The plaintext that the keyring read is what the active backend alone decrypts. -/
def FieldMigrated (client : KeyringClient State) (active : Backend State)
    (field new : EncryptedField) : Prop :=
  (field.value = [] → new = field) ∧ (field.value ≠ [] → new.keyId = Vault.activeKeyId ∧
    ∃ plaintext ciphertext, ReadAs client field plaintext ∧ decodeUtf8 new.value = some ciphertext ∧
      ∀ later, (active.decrypt ciphertext later).1 = .ok plaintext)

/- What the migration leaves, using `active` alone. -/
structure FaithfullyMigrated
    (services : Services) (client : KeyringClient State) (active : Backend State)
    (tables tables' : VaultTables) : Prop where
  fields : Forall₂ (FieldMigrated client active) (encryptedModelFields.get tables.encrypted)
    (encryptedModelFields.get tables'.encrypted)
  events : ∃ rows event, tables'.audit.events = rows ++ [event] ∧ Forall₂
    (fun old new => new = { old with signature := new.signature })
    tables.audit.events rows
  signatures : ∀ event ∈ tables'.audit.events, ∀ later,
    (active.verify event.eventHash event.signature later).1 = .ok true
  verified : ∀ legacyLocal later, ∃ verification, (verifyAuditChainBy services
    (application (.vaultTransit active legacyLocal))
    tables'.audit.events tables'.audit.chain later).1 = .ok verification ∧
    (verification.valid = true ↔
      ∀ event ∈ tables.audit.events, event.hashVersion = 1 ∨ event.hashVersion = 2)

variable {services : Services} {stamp : EventStamp} {active localBackend : Backend State}
variable {tables tables' : VaultTables} {report : Report} {state after : State}

theorem fieldMigrated_of_step {legacyLocal : Option (Backend State)} (hActive : active.Faithful)
    (hStep :
      migrateField (application (.vaultTransit active legacyLocal)) true field secrets state =
        (.ok (new, secrets'), after)) :
    FieldMigrated (application (.vaultTransit active legacyLocal)) active field new := by
  rcases migrateField_applied hStep with
    ⟨hEmpty, hSame⟩ | ⟨hSome, plaintext, ciphertext, before, between, hRead, hEncrypt, hToken, hKey⟩
  · exact ⟨fun _ => hSame, fun hSome => absurd hEmpty hSome⟩
  · refine ⟨fun hEmpty => absurd hEmpty hSome, fun _ =>
    ⟨hKey, plaintext, ciphertext, hRead, decodeUtf8_toUtf8 hToken, ?_⟩⟩
    exact hActive.decrypts plaintext ciphertext before between (request_eq_ok_iff.mp hEncrypt).2

variable {signature : Text}

theorem verifies_of_signed {payload : Text} {legacyLocal : Option (Backend State)}
    (hActive : active.Faithful)
    (hSigned : ∃ state state', (application (.vaultTransit active legacyLocal)).sign payload
      state = (.ok signature, state'))
    (legacyLocal' : Option (Backend State)) :
    signature ≠ [] ∧ (application (.vaultTransit active legacyLocal')).Verifies payload signature ∧
      ∀ later, (active.verify payload signature later).1 = .ok true := by
  rcases hSigned with ⟨before, between, hSign⟩
  exact @verifies_of_sign State before between signature (.vaultTransit active legacyLocal)
    (.vaultTransit active legacyLocal') payload hActive rfl hSign

variable {log : AuditLog}

theorem signed_of_mem_migratedLog {choice : Uuid → Option Text} {call : EventCall}
    (hChoice : ∀ event ∈ log.events, ∃ state state',
      signaturePolicy client true event state = (.ok (choice event.id), state'))
    (hSign : ∃ state state',
      client.sign (call.eventHash services log.chain) state = (.ok signature, state')) :
    ∀ event ∈ (migratedLog log choice (call.event services log.chain signature)).events,
      ∃ state state', client.sign event.eventHash state = (.ok event.signature, state') := by
  refine forall_mem_migratedLog ?_ hSign
  intro old hOld
  rcases hChoice old hOld with ⟨_, _, hPolicy⟩
  rcases signaturePolicy_eq_ok hPolicy with ⟨new, before, between, hSome, hNew⟩
  rw [resign_of_some hSome]
  exact ⟨before, between, hNew⟩

theorem run_applied (hActive : active.Faithful)
    (hIds : (tables.audit.events.map AuditEvent.id).Nodup)
    (hRun : run services (application (.vaultTransit active (some localBackend)))
      stamp true tables state = (.ok (report, tables'), after)) :
    FaithfullyMigrated services (application (.vaultTransit active (some localBackend)))
      active tables tables' := by
  rcases andThen_eq_ok_iff.mp hRun with ⟨_, _, hMigrate, hReport⟩
  rcases (reading_ok_iff.mp hReport).1 with ⟨_, rfl⟩
  have hFields := migrateTables_forall₂ hMigrate
  rcases migrateTables_applied hIds hMigrate with
    ⟨hChecked, choice, hChoice, signature, before, between, hSign, hAudit⟩
  have hSigned := signed_of_mem_migratedLog hChoice ⟨before, between, hSign⟩
  rw [← hAudit] at hSigned
  refine ⟨?_, ?_, ?_, ?_⟩
  · refine hFields.imp ?_
    rintro field new ⟨_, _, _, _, hStep⟩
    exact fieldMigrated_of_step hActive hStep
  · refine ⟨tables.audit.events.map (resign choice), _, by rw [hAudit]; rfl, ?_⟩
    rw [forall₂_map_right_iff, forall₂_same]
    exact fun _ _ => rfl
  · intro event hMem
    exact (verifies_of_signed hActive (hSigned event hMem) none).2.2
  · intro legacyLocal later
    have hVerified :=
      fun event hMem =>
        have hEvent := verifies_of_signed hActive (hSigned event hMem) legacyLocal
        And.intro hEvent.1 hEvent.2.1
    rw [hAudit] at hVerified ⊢
    exact hChecked.verify_migrated rfl hVerified later

theorem run_dry (hIds : (tables.audit.events.map AuditEvent.id).Nodup)
    (hRun : run services client stamp false tables state = (.ok (report, tables'), after)) :
    tables' = tables := by
  rcases andThen_eq_ok_iff.mp hRun with ⟨_, _, hMigrate, hReport⟩
  rcases (reading_ok_iff.mp hReport).1 with ⟨_, rfl⟩
  exact migrateTables_dry hIds (fun _ _ _ _ _ _ => migrateField_dry)
    (fun _ _ _ _ => signaturePolicy_eq_ok) hMigrate

/-
  With Vault as the active backend and the local key still there: the chain is valid afterwards
  exactly if there was no unknown hash version.
-/
theorem keyring_backend_migration_faithful
    {texts : PythonTexts} {apply : Bool} {confirm : Text} {result : Except Text Report}
    {world : VaultTables × State} (hActive : active.Faithful)
    (hIds : (tables.audit.events.map AuditEvent.id).Nodup)
    (hRun :
      migrateKeyringBackend texts services (application (.vaultTransit active (some localBackend)))
        stamp apply confirm (tables, state) = (result, world)) :
    (∀ report, result = .ok report → apply = true →
      FaithfullyMigrated services (application (.vaultTransit active (some localBackend)))
        active tables world.1) ∧
      (apply = false → world.1 = tables) ∧
      (∀ message, result = .error message → world.1 = tables) := by
  refine ⟨?_, ?_, ?_⟩
  · rintro report rfl rfl
    exact run_applied hActive hIds (runCommand_eq_ok hRun)
  · rintro rfl
    cases result with
    | ok report => exact run_dry hIds (runCommand_eq_ok hRun)
    | error message => exact runCommand_eq_error hRun
  · rintro message rfl
    exact runCommand_eq_error hRun

---- Small Databases

def sampleEvent (version : Nat) : AuditEvent where
  id := 0
  occurredAt := sampleTime
  sequence := 1
  hashVersion := version
  actorId := none
  action := "target.created"
  resourceType := "targets.target"
  resourceId := "1"
  sourceIp := none
  metadata := .obj []
  previousHash := []
  eventHash := "h"
  signature := plainSignature

def sampleTables (version : Nat) : VaultTables :=
  itemTables [⟨0, encodePoints "vault:note", Vault.activeKeyId⟩] ⟨[sampleEvent version], ⟨1, "h"⟩⟩

def sampleTexts : PythonTexts where
  printable := fun _ => true
  encodeError := fun text => text

def sampleClient : KeyringClient Unit :=
  application (.vaultTransit plainBackend (some plainBackend))

/- The command with `apply` on the small database. -/
def sampleRun (version : Nat) : Except Text Report × (VaultTables × Unit) :=
  migrateKeyringBackend sampleTexts plainServices sampleClient sampleStamp true
    "MIGRATE-KEYRING-BACKEND"
    (sampleTables version, ())

theorem keyring_backend_migration_sample : ((sampleTables 1).audit.events.map AuditEvent.id).Nodup ∧
    ∃ report tables, sampleRun 1 = (.ok report, tables) ∧
        FaithfullyMigrated plainServices sampleClient plainBackend (sampleTables 1) tables.1 := by
  have hIds : ((sampleTables 1).audit.events.map AuditEvent.id).Nodup := nodup_singleton _
  have hSome : (sampleRun 1).1.toOption.isSome = true := by decide +kernel
  rcases exists_of_isSome hSome with ⟨report, tables, hRun⟩
  refine ⟨hIds, report, tables, hRun, ?_⟩
  exact (keyring_backend_migration_faithful plainBackend_faithful hIds hRun).1 report rfl rfl

/- An unknown hash version goes through the migration, and the chain is not valid afterwards. -/
theorem unknown_version_migrates : (plainBackend : Backend Unit).Faithful ∧
    ((sampleTables 3).audit.events.map AuditEvent.id).Nodup ∧
    ∃ report tables verification, sampleRun 3 = (.ok report, tables) ∧
        (verifyAuditChainBy plainServices (application (.vaultTransit plainBackend none))
          tables.1.audit.events tables.1.audit.chain ()).1 = .ok verification ∧
        verification.valid = false := by
  have hSome : (sampleRun 3).1.toOption.isSome = true := by decide +kernel
  have hInvalid : (verifyAuditChainBy plainServices (application (.vaultTransit plainBackend none))
    (sampleRun 3).2.1.audit.events (sampleRun 3).2.1.audit.chain ()).1.toOption.map
    AuditVerification.valid = some false := by
    decide +kernel
  rcases exists_of_isSome hSome with ⟨report, tables, hRun⟩
  rw [hRun, Option.map_eq_some_iff] at hInvalid
  rcases hInvalid with ⟨verification, hVerify, hValid⟩
  exact ⟨plainBackend_faithful, nodup_singleton _, report, tables, verification, hRun,
    toOption_eq_some_iff.mp hVerify, hValid⟩

---- The Check Without Apply

/- The migration demands a signature that is accepted of every event. -/
def Signed (services : Services) (event : AuditEvent) : Prop :=
  event.signature ≠ [] ∧ services.keyring.verify event.eventHash event.signature = .ok true

/- The keyring is up, and its answers do not depend on its state. -/
def Answers (services : Services) (client : KeyringClient State) : Prop :=
  ∀ hash signature state,
    (client.verify hash signature state).1 = services.keyring.verify hash signature

theorem signaturePolicy_dry_fst (hAnswers : Answers services client) (event : AuditEvent)
    (state : State) :
    (signaturePolicy client false event state).1 = .ok none ↔ Signed services event := by
  unfold signaturePolicy Signed
  split
  next hEmpty => simp [reading, hEmpty]
  next hSome =>
    unfold andThen raising
    dsimp only
    rw [hAnswers]
    rcases services.keyring.verify event.eventHash event.signature with
      failure | accepted | accepted
    · simp [Except.mapError]
    · simp [Except.mapError, reading]
    · simp [Except.mapError, reading, hSome]

theorem scanEvents_dry_iff (hIds : (log.events.map AuditEvent.id).Nodup)
    (hAnswers : Answers services client) (state : State) :
    (∃ scan, (scanEvents services (signaturePolicy client false) log state).1 = .ok scan) ↔
      ChainChecked services log ∧ ∀ event ∈ log.events, Signed services event := by
  constructor
  · rintro ⟨scan, hScan⟩
    rcases scanEvents_spec hIds (Prod.ext hScan rfl) with ⟨hChecked, choice, hChoice, _⟩
    refine ⟨hChecked, ?_⟩
    intro event hMem
    rcases hChoice event hMem with ⟨before, after, hPolicy⟩
    have hNone : choice event.id = none := signaturePolicy_eq_ok hPolicy
    rw [hNone] at hPolicy
    exact (signaturePolicy_dry_fst hAnswers event before).mp (congrArg Prod.fst hPolicy)
  · rintro ⟨hChecked, hSigned⟩
    refine ⟨_, scanEvents_unchanged hChecked ?_ state⟩
    intro event hMem state
    exact (signaturePolicy_dry_fst hAnswers event state).mpr (hSigned event hMem)

theorem verifyAuditChainBy_valid_iff (hAnswers : Answers services client) (state : State) :
    (∃ result, (verifyAuditChainBy services client log.events log.chain state).1 = .ok result ∧
      result.valid = true) ↔ Accepted services (orderBySequence log.events) log.chain := by
  rw [verifyAuditChainBy_fst fun _ _ _ _ state => hAnswers _ _ state]
  constructor
  · rintro ⟨result, hRun, hValid⟩
    exact (valid_iff_accepted hRun).mp hValid
  · intro hAccepted
    rcases verifyAuditChain_of_accepted hAccepted with ⟨result, hRun⟩
    exact ⟨result, hRun.1, hRun.2.1⟩

/-
  Without `apply` the command passes the tables that the verifier reports valid, exactly if on a
  sound chain every event is signed just when every event is of version 1, or of version 2 and
  signed.
-/
theorem dry_migration_agrees_iff (hIds : (log.events.map AuditEvent.id).Nodup)
    (hAnswers : Answers services client) (state : State) :
    ((∃ scan, (scanEvents services (signaturePolicy client false) log state).1 = .ok scan) ↔
      ∃ result, (verifyAuditChainBy services client log.events log.chain state).1 = .ok result ∧
        result.valid = true) ↔
    (ChainChecked services log → ((∀ event ∈ log.events, Signed services event) ↔
      ∀ event ∈ log.events, event.hashVersion = 1 ∨
        (event.hashVersion = 2 ∧ Signed services event))) := by
  rw [scanEvents_dry_iff hIds hAnswers, verifyAuditChainBy_valid_iff hAnswers, accepted_iff_checked]
  exact and_congr_right_iff

/- A chain of one event from before the chain was hashed. -/
def legacyLog (signature : Text) : AuditLog :=
  ⟨[{ sampleEvent 1 with signature := signature }], ⟨1, "h"⟩⟩

/- Its signature is checked by one of the two and accepted by both. -/
theorem dry_migration_agrees_sample :
    (∃ scan, (scanEvents plainServices (signaturePolicy (.ofKeyring plainServices.keyring) false)
      (legacyLog "sh") ()).1 = .ok scan) ↔
      ∃ result, (verifyAuditChainBy plainServices (.ofKeyring plainServices.keyring)
        (legacyLog "sh").events (legacyLog "sh").chain ()).1 = .ok result ∧
        result.valid = true := by
  have hIds : ((legacyLog "sh").events.map AuditEvent.id).Nodup := nodup_singleton _
  refine (dry_migration_agrees_iff hIds (fun _ _ _ => rfl) ()).mpr ?_
  intro _
  constructor
  · intro _ event hMem
    rw [mem_singleton.mp hMem]
    exact .inl rfl
  · intro _ event hMem
    rw [mem_singleton.mp hMem]
    exact ⟨by decide, rfl⟩

/- Without a signature the verifier passes it, and the migration stops at it. -/
theorem legacy_event_stops_migration :
    (∃ result, (verifyAuditChainBy plainServices (.ofKeyring plainServices.keyring)
      (legacyLog []).events (legacyLog []).chain ()).1 = .ok result ∧ result.valid = true) ∧
      (scanEvents plainServices (signaturePolicy (.ofKeyring plainServices.keyring) false)
        (legacyLog []) ()).1 = .error (.signatureInvalid 0) :=
  ⟨⟨_, rfl, rfl⟩, rfl⟩

end PamOlive.BackendMigration
