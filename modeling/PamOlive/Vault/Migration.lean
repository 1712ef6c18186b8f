import PamOlive.Vault.KeyRotation

/-
  What the two migrations to another keyring share.

  Both walk through the audit chain, check the links and the hashes, replace signatures by primary
  key, compare the head, and record an event. Which signatures they accept and replace is the
  parameter `policy`.
-/

---- Commands

namespace PamOlive.Migration

open Foundations Foundations.HashChain Audit KeyRotation AuditEvent List

variable {State : Type} {services : Services}

inductive MigrationError where
  | chainBroken (event : Uuid)
  | hashInvalid (event : Uuid)
  | signatureInvalid (event : Uuid)
  | headMismatch
  | cipher (error : CipherError)
  | signingKeyRequired | noLegacyKey | invalidLegacyKey
  | legacyKeyUnavailable (keyId : Text)
  | legacyNotDecrypted | notAscii

/- A `KeyringError` of the client. -/
def keyringRaised (error : KeyringError) : MigrationError := .cipher (.keyring error)

/- `str(exc)`. -/
def MigrationError.str (texts : PythonTexts) : MigrationError → Text
| .chainBroken event => "Audit chain is broken at event " ++ Uuid.str event
| .hashInvalid event => "Audit event hash is invalid at " ++ Uuid.str event
| .signatureInvalid event => "Audit signature is invalid at event " ++ Uuid.str event
| .headMismatch => "Audit chain head does not match the last event"
| .cipher error => error.str texts
| .signingKeyRequired =>
  "PAMOLIVE_AUDIT_SIGNING_KEY is " ++ "required for audit migration"
| .noLegacyKey => "No legacy vault key is available for migration"
| .invalidLegacyKey =>
  "Fernet key must be 32 url-safe " ++ "base64-encoded bytes."
| .legacyKeyUnavailable keyId =>
  "Legacy vault key " ++ Json.reprText texts.printable keyId ++ " is unavailable"
| .legacyNotDecrypted => "A legacy secret could not be decrypted"
| .notAscii =>
  "comparing strings with non-ASCII " ++ "characters is not supported"

/-
  `Command.handle`: the confirmation, and `_run` inside a transaction; the keyring is not rolled
  back.
-/
def runCommand {Report : Type} (texts : PythonTexts) (confirmation : String)
    (run : Bool → VaultTables → State → Except MigrationError (Report × VaultTables) × State)
    (apply : Bool) (confirm : Text) (world : VaultTables × State) :
    Except Text Report × (VaultTables × State) :=
  if apply ∧ confirm ≠ Text.ofString confirmation then
    (.error ("--apply requires --confirm " ++ Text.ofString confirmation), world)
  else
    match run apply world.1 world.2 with
    | (.ok (report, tables), after) => (.ok report, (tables, after))
    | (.error failure, after) =>
      (.error ("Migration aborted without committing " ++ "changes: " ++ failure.str texts),
        (world.1, after))

variable {apply : Bool} {Report : Type} {texts : PythonTexts} {confirmation : String}
variable {run : Bool → VaultTables → State → Except MigrationError (Report × VaultTables) × State}
variable {report : Report} {confirm : Text}

theorem runCommand_eq_ok {world after : VaultTables × State}
    (hRun : runCommand texts confirmation run apply confirm world = (.ok report, after)) :
    run apply world.1 world.2 = (.ok (report, after.1), after.2) := by
  unfold runCommand at hRun
  split at hRun
  · cases congrArg Prod.fst hRun
  · split at hRun
    · rename_i hFound
      rcases hRun with ⟨rfl, rfl⟩
      exact hFound
    · cases congrArg Prod.fst hRun

theorem runCommand_eq_error {message : Text} {world after : VaultTables × State}
    (hRun : runCommand texts confirmation run apply confirm world = (.error message, after)) :
    after.1 = world.1 := by
  unfold runCommand at hRun
  split at hRun
  · rw [← (Prod.mk.inj hRun).2]
  · split at hRun
    · cases congrArg Prod.fst hRun
    · rw [← (Prod.mk.inj hRun).2]

---- The Walk Through The Chain

/- The loop variables, and the table as updated so far. -/
structure Scan where
  previousHash : Text
  previousSequence : Nat
  auditEvents : Nat
  resigned : Nat
  events : List AuditEvent

/- `filter(pk=...).update(signature=...)`. -/
def updateSignature (id : Uuid) (signature : Text) (events : List AuditEvent) : List AuditEvent :=
  events.map fun event =>
    if event.id = id then
      { event with signature := signature }
    else event

def Scan.advance (scan : Scan) (event : AuditEvent) : Option Text → Scan
| some signature =>
  { previousHash := event.eventHash
    previousSequence := event.sequence
    auditEvents := scan.auditEvents + 1
    resigned := scan.resigned + 1
    events := updateSignature event.id signature scan.events }
| none =>
  { previousHash := event.eventHash
    previousSequence := event.sequence
    auditEvents := scan.auditEvents + 1
    resigned := scan.resigned
    events := scan.events }

/- The signature a row gets, or that it keeps its own. -/
abbrev Policy (State : Type) : Type :=
  AuditEvent → State → Except MigrationError (Option Text) × State

section

variable (services : Services) (policy : Policy State)

def scanEvent (event : AuditEvent) (scan : Scan) : State → Except MigrationError Scan × State :=
  if event.sequence ≠ scan.previousSequence + 1 ∨ event.previousHash ≠ scan.previousHash then
    reading (fun _ => .error (.chainBroken event.id))
  else if event.hashVersion = 2 ∧ event.eventHash ≠ payloadHash services event.payload then
    reading (fun _ => .error (.hashInvalid event.id))
  else
    andThen (policy event) fun new =>
    reading (fun _ => .ok (scan.advance event new))

/- The loop over the events, and the check of the head. -/
def scanEvents (log : AuditLog) : State → Except MigrationError Scan × State :=
  andThen
    (forEach (scanEvent services policy) (orderBySequence log.events) ⟨[], 0, 0, 0, log.events⟩)
    fun scan =>
  if log.chain.lastSequence ≠ scan.previousSequence ∨ log.chain.lastHash ≠ scan.previousHash then
    reading (fun _ => .error .headMismatch)
  else reading (fun _ => .ok scan)

end

---- What The Walk Has Checked

def resign (choice : Uuid → Option Text) (event : AuditEvent) : AuditEvent :=
  { event with signature := (choice event.id).getD event.signature }

variable {event : AuditEvent} {choice : Uuid → Option Text}

theorem resign_of_none (hNone : choice event.id = none) : resign choice event = event := by
  unfold resign
  rw [hNone]
  rfl

variable {signature : Text}

theorem resign_of_some (hSome : choice event.id = some signature) :
    resign choice event = { event with signature := signature } := by
  unfold resign
  rw [hSome]
  rfl

variable {scan : Scan}

theorem scanEvent_eq_ok_iff {policy : Policy State} {next : Scan} {state after : State} :
    scanEvent services policy event scan state = (.ok next, after) ↔
      event.sequence = scan.previousSequence + 1 ∧ event.previousHash = scan.previousHash ∧
        (event.hashVersion = 2 → event.eventHash = payloadHash services event.payload) ∧
        ∃ new, policy event state = (.ok new, after) ∧ next = scan.advance event new := by
  unfold scanEvent
  split_ifs with hBroken hInvalid
  · simp only [reading_eq_ok_iff, reduceCtorEq, false_and, false_iff]
    tauto
  · simp only [reading_eq_ok_iff, reduceCtorEq, false_and, false_iff]
    tauto
  rw [not_or, not_not, not_not] at hBroken
  rw [not_and, not_not] at hInvalid
  simp only [andThen_eq_ok_iff, reading_ok_iff]
  constructor
  · rintro ⟨new, _, hPolicy, rfl, rfl⟩
    exact ⟨hBroken.1, hBroken.2, hInvalid, new, hPolicy, rfl⟩
  · rintro ⟨_, _, _, new, hPolicy, rfl⟩
    exact ⟨new, after, hPolicy, rfl, rfl⟩

@[simp]
theorem Scan.previousHash_advance (scan : Scan) (event : AuditEvent) (new : Option Text) :
    (scan.advance event new).previousHash = event.eventHash := by
  cases new with
  | none => rfl
  | some signature => rfl

@[simp]
theorem Scan.previousSequence_advance (scan : Scan) (event : AuditEvent) (new : Option Text) :
    (scan.advance event new).previousSequence = event.sequence := by
  cases new with
  | none => rfl
  | some signature => rfl

theorem Scan.events_advance (scan : Scan) (event : AuditEvent) (new : Option Text) :
    (scan.advance event new).events = scan.events.map (resign fun id =>
        if id = event.id then new else none) := by
  cases new with
  | none =>
    refine (map_id'' ?_ scan.events).symm
    exact fun row => resign_of_none (ite_self none)
  | some signature =>
    refine map_congr_left ?_
    intro row _
    by_cases hRow : row.id = event.id
    · rw [resign_of_some (if_pos hRow), if_pos hRow]
    · rw [resign_of_none (if_neg hRow), if_neg hRow]

/- The links, the numbers and the hashes of the events. -/
structure ChainChecked (services : Services) (log : AuditLog) : Prop where
  numbered : Numbered sequence 0 (orderBySequence log.events)
  linked : Linked previousHash eventHash [] (orderBySequence log.events) log.chain.lastHash
  counted : log.chain.lastSequence = log.events.length
  hashed : ∀ event ∈ log.events,
    event.hashVersion = 2 → event.eventHash = payloadHash services event.payload

variable {rows : List AuditEvent}

section Walk

variable {policy : Policy State} {last : Scan} {state after : State}

theorem forEach_scanEvent_checked
    (hLoop : forEach (scanEvent services policy) rows scan state = (.ok last, after)) :
    Numbered sequence scan.previousSequence rows ∧
      Linked previousHash eventHash scan.previousHash rows last.previousHash ∧
      last.previousSequence = scan.previousSequence + rows.length ∧ ∀ event ∈ rows,
        event.hashVersion = 2 → event.eventHash = payloadHash services event.payload := by
  induction rows generalizing scan state with
  | nil =>
    rcases reading_ok_iff.mp hLoop with ⟨rfl, _⟩
    exact ⟨trivial, rfl, rfl, fun _ hMem => absurd hMem not_mem_nil⟩
  | cons event rest ih =>
    rcases andThen_eq_ok_iff.mp hLoop with ⟨next, middle, hFirst, hRest⟩
    rcases scanEvent_eq_ok_iff.mp hFirst with ⟨hSequence, hPrevious, hHash, new, _, rfl⟩
    have hLater := ih hRest
    rw [Scan.previousHash_advance, Scan.previousSequence_advance] at hLater
    rcases hLater with ⟨hNumbered, hLinked, hCounted, hHashes⟩
    refine ⟨⟨hSequence, ?_⟩, ⟨hPrevious, hLinked⟩, ?_, ?_⟩
    · rw [← hSequence]
      exact hNumbered
    · rw [hCounted, hSequence, length_cons]
      omega
    · exact forall_mem_cons.mpr ⟨hHash, hHashes⟩

/- A row gets the signature that the policy gave for it, and each row is met once. -/
theorem forEach_scanEvent_events (hIds : (rows.map AuditEvent.id).Nodup)
    (hLoop : forEach (scanEvent services policy) rows scan state = (.ok last, after)) :
    ∃ choice : Uuid → Option Text, (∀ id, id ∉ rows.map AuditEvent.id → choice id = none) ∧
      (∀ event ∈ rows, ∃ state state', policy event state = (.ok (choice event.id), state')) ∧
      last.events = scan.events.map (resign choice) := by
  induction rows generalizing scan state with
  | nil =>
    rcases reading_ok_iff.mp hLoop with ⟨rfl, _⟩
    refine ⟨fun _ => none, fun _ _ => rfl, fun _ hMem => absurd hMem not_mem_nil, ?_⟩
    exact (map_id'' (fun _ => rfl) _).symm
  | cons event rest ih =>
    rw [map_cons, nodup_cons] at hIds
    rcases andThen_eq_ok_iff.mp hLoop with ⟨next, middle, hFirst, hRest⟩
    rcases scanEvent_eq_ok_iff.mp hFirst with ⟨_, _, _, new, hPolicy, rfl⟩
    rcases ih hIds.2 hRest with ⟨choice, hOther, hChoice, hEvents⟩
    have hOwn : choice event.id = none := hOther event.id hIds.1
    refine ⟨Function.update choice event.id new, ?_, ?_, ?_⟩
    · intro id hId
      rw [map_cons, mem_cons, not_or] at hId
      rw [Function.update_of_ne hId.1]
      exact hOther id hId.2
    · intro row hMem
      rcases mem_cons.mp hMem with rfl | hLater
      · rw [Function.update_self]
        exact ⟨state, middle, hPolicy⟩
      · have hDiffers : row.id ≠ event.id := fun hSame => hIds.1 (hSame ▸ mem_map_of_mem hLater)
        rw [Function.update_of_ne hDiffers]
        exact hChoice row hLater
    · rw [hEvents, Scan.events_advance, map_map]
      refine map_congr_left ?_
      intro row _
      unfold resign
      by_cases hRow : row.id = event.id
      · simp [hRow, hOwn]
      · simp [hRow]

end Walk

variable {log : AuditLog}

theorem scanEvents_spec {policy : Policy State} {state after : State}
    (hIds : (log.events.map AuditEvent.id).Nodup)
    (hRun : scanEvents services policy log state = (.ok scan, after)) :
    ChainChecked services log ∧
      ∃ choice : Uuid → Option Text, (∀ event ∈ log.events, ∃ state state',
        policy event state = (.ok (choice event.id), state')) ∧
        scan.events = log.events.map (resign choice) := by
  have hPerm : (orderBySequence log.events).Perm log.events := perm_insertionSort _ _
  rcases andThen_eq_ok_iff.mp hRun with ⟨last, middle, hLoop, hHead⟩
  split at hHead
  · cases (reading_eq_ok_iff.mp hHead).1
  rename_i hSame
  rw [not_or, not_not, not_not] at hSame
  rcases reading_ok_iff.mp hHead with ⟨rfl, _⟩
  rcases forEach_scanEvent_checked hLoop with ⟨hNumbered, hLinked, hCounted, hHashed⟩
  have hRowIds : ((orderBySequence log.events).map AuditEvent.id).Nodup :=
    (hPerm.map AuditEvent.id).nodup_iff.mpr hIds
  rcases forEach_scanEvent_events hRowIds hLoop with ⟨choice, _, hChoice, hEvents⟩
  refine ⟨⟨hNumbered, ?_, ?_, ?_⟩, choice, ?_, hEvents⟩
  · rw [hSame.2]
    exact hLinked
  · rw [hSame.1, hCounted, hPerm.length_eq]
    exact Nat.zero_add _
  · exact fun event hMem =>
    hHashed event (hPerm.mem_iff.mpr hMem)
  · exact fun event hMem =>
    hChoice event (hPerm.mem_iff.mpr hMem)

---- A Walk That Replaces Nothing

section Unchanged

variable {policy : Policy State}

theorem forEach_scanEvent_unchanged {hash : Text}
    (hNumbered : Numbered sequence scan.previousSequence rows)
    (hLinked : Linked previousHash eventHash scan.previousHash rows hash)
    (hHashed :
      ∀ event ∈ rows, event.hashVersion = 2 → event.eventHash = payloadHash services event.payload)
    (hPolicy : ∀ event ∈ rows, ∀ state, (policy event state).1 = .ok none)
    (state : State) :
    (forEach (scanEvent services policy) rows scan state).1 = .ok
      { previousHash := hash
        previousSequence := scan.previousSequence + rows.length
        auditEvents := scan.auditEvents + rows.length
        resigned := scan.resigned
        events := scan.events } := by
  induction rows generalizing scan state with
  | nil =>
    rw [← hLinked]
    rfl
  | cons event rest ih =>
    rcases hNumbered with ⟨hSequence, hNumbered⟩
    rcases hLinked with ⟨hPrevious, hLinked⟩
    rw [forall_mem_cons] at hHashed hPolicy
    have hStep :
      (scanEvent services policy event scan state).1 = .ok (scan.advance event none) := by
      unfold scanEvent
      rw [if_neg (by
        rintro (hOther | hOther)
        · exact hOther hSequence
        · exact hOther hPrevious), if_neg (fun hOther => hOther.2 (hHashed.1 hOther.1)),
        andThen_fst, hPolicy.1 state]
      rfl
    rw [forEach, andThen_fst, hStep]
    rw [← hSequence] at hNumbered
    refine (ih hNumbered hLinked hHashed.2 hPolicy.2 _).trans ?_
    unfold Scan.advance
    rw [hSequence, length_cons, Nat.add_assoc, Nat.add_assoc, Nat.add_comm 1]

/- The loop variables after a walk through a whole log. -/
def Scan.unchanged (log : AuditLog) : Scan where
  previousHash := log.chain.lastHash
  previousSequence := log.chain.lastSequence
  auditEvents := log.events.length
  resigned := 0
  events := log.events

theorem scanEvents_unchanged (hChecked : ChainChecked services log)
    (hPolicy : ∀ event ∈ log.events, ∀ state, (policy event state).1 = .ok none)
    (state : State) : (scanEvents services policy log state).1 = .ok (Scan.unchanged log) := by
  have hPerm : (orderBySequence log.events).Perm log.events := perm_insertionSort _ _
  have hLoop := @forEach_scanEvent_unchanged State services ⟨[], 0, 0, 0, log.events⟩
    (orderBySequence log.events) policy log.chain.lastHash
    hChecked.numbered hChecked.linked
    (fun event hMem => hChecked.hashed event (hPerm.mem_iff.mp hMem))
    (fun event hMem => hPolicy event (hPerm.mem_iff.mp hMem)) state
  unfold scanEvents
  rw [andThen_fst, hLoop, hPerm.length_eq]
  dsimp only [bind, Except.bind]
  unfold Scan.unchanged
  rw [if_neg (by
    rw [hChecked.counted, Nat.zero_add]
    rintro (hOther | hOther)
    · exact hOther rfl
    · exact hOther rfl), hChecked.counted, Nat.zero_add]
  rfl

end Unchanged

---- The Chain After A Migration

theorem orderBySequence_resign (events : List AuditEvent) :
    orderBySequence (events.map (resign choice)) =
      (orderBySequence events).map (resign choice) := by
  symm
  apply map_insertionSort
  intro row _ row' _
  exact Iff.rfl

theorem orderBySequence_concat {events : List AuditEvent}
    (hLast : ∀ row ∈ events, row.sequence ≤ event.sequence) :
    orderBySequence (events ++ [event]) = orderBySequence events ++ [event] := by
  have hInsert : ∀ (row : AuditEvent) (rows : List AuditEvent), row.sequence ≤ event.sequence →
    (rows ++ [event]).orderedInsert (fun row row' => row.sequence ≤ row'.sequence) row =
      rows.orderedInsert (fun row row' => row.sequence ≤ row'.sequence) row ++ [event] := by
    intro row rows hRow
    induction rows with
    | nil => simp [hRow]
    | cons first rest ih =>
      rw [cons_append, orderedInsert_cons, orderedInsert_cons, ih]
      split <;> rfl
  unfold orderBySequence
  induction events with
  | nil => rfl
  | cons first rest ih =>
    rw [forall_mem_cons] at hLast
    rw [cons_append, insertionSort_cons, insertionSort_cons, ih hLast.2, hInsert first _ hLast.1]

def migratedLog (log : AuditLog) (choice : Uuid → Option Text) (event : AuditEvent) : AuditLog :=
  ⟨log.events.map (resign choice) ++ [event], event.head⟩

theorem forall_mem_migratedLog {choice : Uuid → Option Text} {property : AuditEvent → Prop}
    (hOld : ∀ old ∈ log.events, property (resign choice old)) (hNew : property event) :
    ∀ row ∈ (migratedLog log choice event).events, property row :=
  forall_mem_append.mpr ⟨forall_mem_map.mpr hOld, forall_mem_singleton.mpr hNew⟩

section

variable (hChecked : ChainChecked services log)

include hChecked

theorem ChainChecked.sequence_le : ∀ row ∈ log.events, row.sequence ≤ log.chain.lastSequence := by
  intro row hMem
  have hRow : row ∈ orderBySequence log.events := (mem_insertionSort _).mpr hMem
  have hNumber : row.sequence ∈ (orderBySequence log.events).map sequence :=
    mem_map_of_mem hRow
  rw [hChecked.numbered.map_eq, mem_range'_1] at hNumber
  rw [hChecked.counted]
  unfold orderBySequence at hNumber
  rw [length_insertionSort] at hNumber
  omega

theorem ChainChecked.orderBySequence_migrated
    (choice : Uuid → Option Text) (hNext : event.sequence = log.chain.lastSequence + 1) :
    orderBySequence (migratedLog log choice event).events =
      (orderBySequence log.events).map (resign choice) ++ [event] := by
  unfold migratedLog
  rw [orderBySequence_concat, orderBySequence_resign]
  intro row hMem
  rcases mem_map.mp hMem with ⟨old, hOld, rfl⟩
  have hLe := hChecked.sequence_le old hOld
  rw [hNext]
  exact Nat.le_succ_of_le hLe

theorem ChainChecked.migrated (choice : Uuid → Option Text) (call : EventCall) (signature : Text) :
    ChainChecked services (migratedLog log choice (call.event services log.chain signature)) := by
  have hNext : (call.event services log.chain signature).sequence = log.chain.lastSequence + 1 :=
    rfl
  have hRows := hChecked.orderBySequence_migrated choice hNext
  have hSequence : ∀ row, (resign choice row).sequence = row.sequence := fun _ => rfl
  have hPrevious : ∀ row, (resign choice row).previousHash = row.previousHash := fun _ => rfl
  have hHash : ∀ row, (resign choice row).eventHash = row.eventHash := fun _ => rfl
  refine ⟨?_, ?_, ?_, ?_⟩
  · rw [hRows, numbered_concat, numbered_map _ hSequence]
    refine ⟨hChecked.numbered, ?_⟩
    rw [length_map]
    unfold orderBySequence
    rw [length_insertionSort, Nat.zero_add, ← hChecked.counted]
    rfl
  · rw [hRows, linked_concat, linked_map _ _ hPrevious hHash]
    exact ⟨hChecked.linked, rfl⟩
  · unfold migratedLog
    rw [length_append, length_map, ← hChecked.counted]
    rfl
  · refine forall_mem_migratedLog hChecked.hashed ?_
    simp [EventCall.event, EventCall.eventHash, payload, canonicalPayload]

end

/- The verifier looks at no signature of version 1, and accepts no other version than 1 and 2. -/
theorem accepted_iff_checked :
    Accepted services (orderBySequence log.events) log.chain ↔ ChainChecked services log ∧
      ∀ event ∈ log.events, event.hashVersion = 1 ∨ (event.hashVersion = 2 ∧ event.signature ≠ [] ∧
        services.keyring.verify event.eventHash event.signature = .ok true) := by
  have hPerm : (orderBySequence log.events).Perm log.events := perm_insertionSort _ _
  constructor
  · rintro ⟨hNumbered, hLinked, hCounted, hPasses⟩
    rw [hPerm.length_eq] at hCounted
    refine ⟨⟨hNumbered, hLinked, hCounted, ?_⟩, ?_⟩
    · intro event hMem hTwo
      rcases hPasses event (hPerm.mem_iff.mpr hMem) with hOne | ⟨_, hHash, _⟩
      · exact nomatch hTwo.symm.trans hOne
      · exact hHash
    · intro event hMem
      rcases hPasses event (hPerm.mem_iff.mpr hMem) with hOne | ⟨hTwo, _, hSigned⟩
      · exact .inl hOne
      · exact .inr ⟨hTwo, hSigned⟩
  · rintro ⟨hChecked, hSigned⟩
    refine ⟨hChecked.numbered, hChecked.linked, hPerm.length_eq ▸ hChecked.counted, ?_⟩
    intro event hMem
    rcases hSigned event (hPerm.mem_iff.mp hMem) with hOne | ⟨hTwo, hSigned⟩
    · exact .inl hOne
    · exact .inr ⟨hTwo, hChecked.hashed event (hPerm.mem_iff.mp hMem) hTwo, hSigned⟩

/- The verification of a checked chain returns, and it only objects to unknown hash versions. -/
theorem ChainChecked.verify {client : KeyringClient State} (hChecked : ChainChecked services log)
    (hVerified :
      ∀ event ∈ log.events, event.signature ≠ [] ∧ client.Verifies event.eventHash event.signature)
    (state : State) :
    ∃ result, (verifyAuditChainBy services client log.events log.chain state).1 = .ok result ∧
      (result.valid = true ↔
        ∀ event ∈ log.events, event.hashVersion = 1 ∨ event.hashVersion = 2) := by
  -- A keyring that accepts the signatures in every state.
  let plain : Services := ⟨services.sha256, { services.keyring with verify := fun _ _ => .ok true }⟩
  have hJudged : ∀ event ∈ log.events, JudgedBy plain client event :=
    fun event hMem _ _ state =>
      (hVerified event hMem).2 state
  have hSame : (verifyAuditChainBy services client log.events log.chain state).1 =
    verifyAuditChain plain log.events log.chain :=
    verifyAuditChainBy_fst hJudged state
  have hAvailable : VerifyAvailable plain := fun _ _ => ⟨true, rfl⟩
  rcases verifyAuditChain_total hAvailable log.events log.chain with ⟨result, hResult⟩
  refine ⟨result, hSame.trans hResult, ?_⟩
  rw [valid_iff_accepted hResult, accepted_iff_checked]
  constructor
  · rintro ⟨_, hSigned⟩ event hMem
    exact (hSigned event hMem).imp_right And.left
  · intro hKnown
    refine ⟨⟨hChecked.numbered, hChecked.linked, hChecked.counted, hChecked.hashed⟩, ?_⟩
    intro event hMem
    exact (hKnown event hMem).imp_right fun hTwo => ⟨hTwo, (hVerified event hMem).1, rfl⟩

theorem ChainChecked.verify_migrated {client : KeyringClient State} {call : EventCall}
    (hChecked : ChainChecked services log)
    (hEvent : event = call.event services log.chain signature)
    (hVerified : ∀ row ∈ (migratedLog log choice event).events,
      row.signature ≠ [] ∧ client.Verifies row.eventHash row.signature)
    (state : State) :
    ∃ result, (verifyAuditChainBy services client (migratedLog log choice event).events
      (migratedLog log choice event).chain state).1 = .ok result ∧
      (result.valid = true ↔ ∀ row ∈ log.events, row.hashVersion = 1 ∨ row.hashVersion = 2) := by
  subst hEvent
  rcases (hChecked.migrated choice call signature).verify
    hVerified state with ⟨result, hResult, hValid⟩
  refine ⟨result, hResult, hValid.trans ?_⟩
  constructor
  · intro hKnown row hMem
    exact hKnown (resign choice row) (mem_append_left _ (mem_map_of_mem hMem))
  · intro hKnown row hMem
    rcases mem_append.mp hMem with hOld | hNew
    · rcases mem_map.mp hOld with ⟨old, hMember, rfl⟩
      exact hKnown old hMember
    · rw [mem_singleton.mp hNew]
      exact .inr rfl

---- A Whole Migration

section Whole

variable {Counts : Type} {client : KeyringClient State} {step :
  EncryptedField → Counts → State → Except MigrationError (EncryptedField × Counts) × State}
variable {policy : Policy State} {start : Counts} {completed : Counts → Scan → EventCall}
variable {tables tables' : VaultTables} {done : Counts × Scan} {state after : State}

/- `Command._run` of both migrations: the fields, the audit chain, and with `apply` the event. -/
def migrateTables (services : Services) (client : KeyringClient State) (step :
    EncryptedField → Counts → State → Except MigrationError (EncryptedField × Counts) × State)
    (policy : Policy State) (start : Counts) (completed : Counts → Scan → EventCall)
    (apply : Bool) (tables : VaultTables) :
    State → Except MigrationError ((Counts × Scan) × VaultTables) × State :=
  andThen (replaceFields step tables.encrypted start) fun changed =>
  andThen (scanEvents services policy tables.audit) fun scan =>
  let log : AuditLog := ⟨scan.events, tables.audit.chain⟩
  if apply then
    andThen (raising keyringRaised (recordEventBy services client (completed changed.2 scan) log))
      fun recorded =>
    reading (fun _ => .ok ((changed.2, scan), ⟨changed.1, recorded.2⟩))
  else
    reading (fun _ => .ok ((changed.2, scan), ⟨changed.1, log⟩))

theorem migrateTables_forall₂ (hRun : migrateTables services client step policy start
    completed apply tables state = (.ok (done, tables'), after)) :
    Forall₂ (fun field new =>
        ∃ counts state counts' state', step field counts state = (.ok (new, counts'), state'))
      (encryptedModelFields.get tables.encrypted)
      (encryptedModelFields.get tables'.encrypted) := by
  rcases andThen_eq_ok_iff.mp hRun with ⟨⟨encrypted, counts⟩, middle, hFields, hRest⟩
  rcases andThen_eq_ok_iff.mp hRest with ⟨scan, middle', _, hRecord⟩
  have hSame : tables'.encrypted = encrypted := by
    cases apply with
    | true =>
      rcases andThen_eq_ok_iff.mp hRecord with ⟨_, _, _, hDone⟩
      rw [← (Prod.mk.inj (reading_ok_iff.mp hDone).1).2]
    | false => rw [← (Prod.mk.inj (reading_ok_iff.mp hRecord).1).2]
  rw [hSame]
  exact replaceFields_forall₂ hFields

theorem migrateTables_applied (hIds : (tables.audit.events.map AuditEvent.id).Nodup)
    (hRun : migrateTables services client step policy start
      completed true tables state = (.ok (done, tables'), after)) :
    ChainChecked services tables.audit ∧
      ∃ choice : Uuid → Option Text, (∀ event ∈ tables.audit.events, ∃ state state',
        policy event state = (.ok (choice event.id), state')) ∧
        ∃ signature state state', client.sign
          ((completed done.1 done.2).eventHash services tables.audit.chain) state =
          (.ok signature, state') ∧ tables'.audit = migratedLog tables.audit choice
            ((completed done.1 done.2).event services tables.audit.chain signature) := by
  rcases andThen_eq_ok_iff.mp hRun with ⟨⟨encrypted, counts⟩, middle, _, hRest⟩
  rcases andThen_eq_ok_iff.mp hRest with ⟨scan, middle', hScan, hRecord⟩
  rcases andThen_eq_ok_iff.mp hRecord with ⟨⟨event, log⟩, last, hEvent, hDone⟩
  rcases (reading_ok_iff.mp hDone).1 with ⟨rfl, rfl⟩
  rcases recordEventBy_eq_ok_iff.mp (raising_eq_ok_iff.mp hEvent) with ⟨signature, hSign, rfl, rfl⟩
  rcases scanEvents_spec hIds hScan with ⟨hChecked, choice, hChoice, hEvents⟩
  refine ⟨hChecked, choice, hChoice, signature, middle', last, hSign, ?_⟩
  unfold migratedLog
  rw [hEvents]

theorem migrateTables_dry (hIds : (tables.audit.events.map AuditEvent.id).Nodup)
    (hStep : ∀ field counts state new counts' state',
      step field counts state = (.ok (new, counts'), state') → field = new)
    (hPolicy : ∀ event state new state', policy event state = (.ok new, state') → new = none)
    (hRun : migrateTables services client step policy start
      completed false tables state = (.ok (done, tables'), after)) :
    tables' = tables := by
  rcases andThen_eq_ok_iff.mp hRun with ⟨⟨encrypted, counts⟩, middle, hFields, hRest⟩
  rcases andThen_eq_ok_iff.mp hRest with ⟨scan, middle', hScan, hDone⟩
  rcases scanEvents_spec hIds hScan with ⟨_, choice, hChoice, hEvents⟩
  have hSame : scan.events = tables.audit.events := by
    rw [hEvents]
    refine (map_congr_left ?_).trans (map_id _)
    intro event hMem
    rcases hChoice event hMem with ⟨_, _, hEvent⟩
    exact resign_of_none (hPolicy event _ _ _ hEvent)
  rw [← (Prod.mk.inj (reading_ok_iff.mp hDone).1).2, hSame, replaceFields_keeps hStep hFields]

end Whole

end PamOlive.Migration
