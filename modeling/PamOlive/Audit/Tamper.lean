import PamOlive.Audit.Concurrency
import PamOlive.Foundations.JsonCanonical

/-
  Tamper evidence of the audit chain.

  What the verification does not find in an edited table: a row marked as version 1 is not hashed,
  and metadata that Python takes for false are hashed like the empty object.

  Main declarations:
    * `Undetected`
    * `undetected_iff`
    * `rewritten_accepted`
-/

---- Hashed Fields

namespace PamOlive.Audit

open Foundations Foundations.HashChain AuditEvent List

variable {services : Services}

structure HashedFields where
  sequence : Nat
  occurredAt : DateTime
  actorId : Option UserId
  action : Text
  resourceType : Text
  resourceId : Text
  sourceIp : Option IpText
  metadata : Json
  previousHash : Text
  hashVersion : Nat

/- The hashed columns as stored; metadata up to the order of entries. -/
def AuditEvent.hashedFields (event : AuditEvent) : HashedFields where
  sequence := event.sequence
  occurredAt := event.occurredAt
  actorId := event.actorId
  action := event.action
  resourceType := event.resourceType
  resourceId := event.resourceId
  sourceIp := event.sourceIp
  metadata := event.metadata.sortKeys
  previousHash := event.previousHash
  hashVersion := event.hashVersion

/- The hashed columns as the payload holds them. -/
def AuditEvent.sealedFields (event : AuditEvent) : HashedFields :=
  { event.hashedFields with metadata := (orEmpty event.metadata).sortKeys }

/- Metadata that are false in Python, other than `{}`. -/
def Blank (event : AuditEvent) : Prop := event.metadata.truthy = false ∧ event.metadata ≠ .obj []

variable {event event' : AuditEvent}

theorem sealedFields_of_not_blank (hBlank : ¬ Blank event) :
    event.sealedFields = event.hashedFields := by
  unfold sealedFields orEmpty
  cases hTruthy : event.metadata.truthy with
  | true => rfl
  | false =>
    have hEmpty : event.metadata = .obj [] := by
      by_contra hOther
      exact hBlank ⟨hTruthy, hOther⟩
    simp [hEmpty, hashedFields]

theorem actorJson_injective : Function.Injective actorJson := by
  intro actor actor' hEq
  cases actor with
  | none =>
    cases actor' with
    | none => rfl
    | some id' => simp [actorJson] at hEq
  | some id =>
    cases actor' with
    | none => simp [actorJson] at hEq
    | some id' =>
      simp only [actorJson, Json.str.injEq] at hEq
      have hId := Text.decimal_injective hEq
      rw [PNat.eq hId]

theorem sourceIpJson_injective : Function.Injective sourceIpJson := by
  intro address address' hEq
  cases address with
  | none =>
    cases address' with
    | none => rfl
    | some text' => simp [sourceIpJson] at hEq
  | some text =>
    cases address' with
    | none => simp [sourceIpJson] at hEq
    | some text' =>
      simp only [sourceIpJson, Json.str.injEq] at hEq
      rw [Subtype.ext hEq]

theorem sortKeys_payload (event : AuditEvent) :
    event.payload.sortKeys = .obj [("action", .str event.action),
      ("actor", actorJson event.actorId), ("hash_version", .int event.hashVersion),
      ("metadata", (orEmpty event.metadata).sortKeys),
      ("occurred_at", .str event.occurredAt.isoformat), ("previous_hash", .str event.previousHash),
      ("resource_id", .str event.resourceId), ("resource_type", .str event.resourceType),
      ("sequence", .int event.sequence), ("source_ip", sourceIpJson event.sourceIp)] := by
  unfold payload
  cases event.actorId with
  | none =>
    cases event.sourceIp with
    | none => rfl
    | some address => rfl
  | some actor =>
    cases event.sourceIp with
    | none => rfl
    | some address => rfl

theorem payload_canonical_eq_iff (event event' : AuditEvent) :
    event.payload.canonical = event'.payload.canonical ↔
      event.sealedFields = event'.sealedFields := by
  rw [Json.canonical_eq_iff, sortKeys_payload, sortKeys_payload]
  simp only [Json.obj.injEq, cons.injEq, Prod.mk.injEq, Json.str.injEq, Json.int.injEq,
    Int.natCast_inj, actorJson_injective.eq_iff, sourceIpJson_injective.eq_iff,
    DateTime.isoformat_injective.eq_iff, true_and, and_true, sealedFields,
    hashedFields, HashedFields.mk.injEq]
  tauto

theorem sealedFields_eq_of_hash_eq (hDigest : Function.Injective services.sha256)
    (hEq : payloadHash services event.payload = payloadHash services event'.payload) :
    event.sealedFields = event'.sealedFields :=
  (payload_canonical_eq_iff _ _).mp (hDigest hEq)

---- Undetected Tables

/-
  The keyring accepts exactly the signatures issued for some recorded events: those of the log, and
  others whose transaction was rolled back.
-/
structure Issued (services : Services) (signed : List AuditEvent) : Prop where
  recorded : ∀ event ∈ signed, Recorded services event
  nonempty : ∀ event ∈ signed, event.signature ≠ []
  accepts_iff : ∀ hash signature, services.keyring.verify hash signature = .ok true ↔
    ∃ original ∈ signed, original.eventHash = hash ∧ original.signature = signature

/- A row with the sealed fields and the seal of another. -/
def Restates (row original : AuditEvent) : Prop :=
  row.sealedFields = original.sealedFields ∧ row.eventHash = original.eventHash ∧
    row.signature = original.signature

/-
  The edits that no check catches: as many rows as recorded, numbered and linked up to the head,
  each marked as version 1 or restating a signed event, and one of version 1 or with blank
  metadata.
-/
structure Undetected
    (signed : List AuditEvent) (log : AuditLog) (rows : List AuditEvent) : Prop where
  counted : rows.length = log.events.length
  numbered : Numbered sequence 0 rows
  linked : Linked previousHash eventHash [] rows log.chain.lastHash
  credible : ∀ row ∈ rows, row.hashVersion = 1 ∨ ∃ original ∈ signed, Restates row original
  marked : ∃ row ∈ rows, row.hashVersion = 1 ∨ Blank row

variable {signed : List AuditEvent} {log : AuditLog}

theorem hashVersion_eq_of_sealedFields_eq (hEq : event.sealedFields = event'.sealedFields) :
    event.hashVersion = event'.hashVersion :=
  congrArg HashedFields.hashVersion hEq

theorem previousHash_eq_of_sealedFields_eq (hEq : event.sealedFields = event'.sealedFields) :
    event.previousHash = event'.previousHash :=
  congrArg HashedFields.previousHash hEq

theorem Issued.passes_iff (hDigest : Function.Injective services.sha256)
    (hIssued : Issued services signed) (row : AuditEvent) :
    Passes services row ↔ row.hashVersion = 1 ∨ ∃ original ∈ signed, Restates row original := by
  constructor
  · rintro (hOne | ⟨hTwo, hHash, _, hVerify⟩)
    · exact Or.inl hOne
    · rcases (hIssued.accepts_iff _ _).mp hVerify with ⟨original, hMem, hSame, hSignature⟩
      have hOriginal := (hIssued.recorded original hMem).hashed
      refine Or.inr ⟨original, hMem, ?_, hSame.symm, hSignature.symm⟩
      apply sealedFields_eq_of_hash_eq hDigest
      exact hHash.symm.trans (hSame.symm.trans hOriginal)
  · rintro (hOne | ⟨original, hMem, hFields, hHash, hSignature⟩)
    · exact Or.inl hOne
    have hRecorded := hIssued.recorded original hMem
    have hText := (payload_canonical_eq_iff _ _).mpr hFields
    refine Or.inr ⟨?_, ?_, ?_, ?_⟩
    · rw [hashVersion_eq_of_sealedFields_eq hFields]
      exact hRecorded.version
    · rw [hHash, hRecorded.hashed, payloadHash, payloadHash, hText]
    · rw [hSignature]
      exact hIssued.nonempty original hMem
    · exact (hIssued.accepts_iff _ _).mpr ⟨original, hMem, hHash.symm, hSignature.symm⟩

variable {rows : List AuditEvent}

theorem sealedFields_eq_of_accepted (hDigest : Function.Injective services.sha256)
    (hWritten : Written services log) (hAccepted : Accepted services rows log.chain)
    (hVersions : ∀ row ∈ rows, row.hashVersion ≠ 1) :
    rows.map sealedFields = log.events.map sealedFields := by
  have hLength : rows.length = log.events.length := hAccepted.counted.symm.trans hWritten.counted
  apply map_body_eq_of_linked previousHash eventHash _ hLength _ hAccepted.linked hWritten.linked
  · intro row row' hFields
    exact previousHash_eq_of_sealedFields_eq hFields
  · intro row hRow event hEvent hSame
    have hRecorded := hWritten.recorded event hEvent
    rcases hAccepted.passes row hRow with hOne | ⟨_, hHash, _⟩
    · exact absurd hOne (hVersions row hRow)
    · apply sealedFields_eq_of_hash_eq hDigest
      exact hHash.symm.trans (hSame.trans hRecorded.hashed)

---- Edited Tables

theorem Recorded.not_blank (hRecorded : Recorded services event) : ¬ Blank event := by
  rintro ⟨hFalsy, hOther⟩
  have hNormal := hRecorded.normal
  simp only [orEmpty, hFalsy] at hNormal
  exact hOther hNormal.symm

theorem Recorded.of_hashedFields_eq {row : AuditEvent} (hRecorded : Recorded services event)
    (hEq : row.hashedFields = event.hashedFields) : row.hashVersion ≠ 1 ∧ ¬ Blank row := by
  have hVersion : row.hashVersion = event.hashVersion := congrArg HashedFields.hashVersion hEq
  have hMetadata : row.metadata.sortKeys = event.metadata.sortKeys :=
    congrArg HashedFields.metadata hEq
  constructor
  · rw [hVersion, hRecorded.version]
    simp
  rintro ⟨hFalsy, hOther⟩
  rw [← Json.truthy_sortKeys, hMetadata, Json.truthy_sortKeys] at hFalsy
  have hEmpty : event.metadata = .obj [] := by
    by_contra hEvent
    exact hRecorded.not_blank ⟨hFalsy, hEvent⟩
  apply hOther
  rw [← Json.sortKeys_eq_empty_iff, hMetadata, hEmpty]
  rfl

theorem hashedFields_eq_of_accepted (hDigest : Function.Injective services.sha256)
    (hWritten : Written services log) (hAccepted : Accepted services rows log.chain)
    (hUnmarked : ∀ row ∈ rows, ¬ (row.hashVersion = 1 ∨ Blank row)) :
    rows.map hashedFields = log.events.map hashedFields := by
  have hSealed := sealedFields_eq_of_accepted hDigest hWritten hAccepted
    (fun row hMem hOne => hUnmarked row hMem (Or.inl hOne))
  have hRows : rows.map sealedFields = rows.map hashedFields := by
    apply map_congr_left
    intro row hMem
    apply sealedFields_of_not_blank
    exact fun hBlank => hUnmarked row hMem (Or.inr hBlank)
  have hEvents : log.events.map sealedFields = log.events.map hashedFields := by
    apply map_congr_left
    intro event hMem
    apply sealedFields_of_not_blank
    exact (hWritten.recorded event hMem).not_blank
  rw [← hRows, hSealed, hEvents]

theorem hashedFields_ne_of_marked (hWritten : Written services log)
    (hMarked : ∃ row ∈ rows, row.hashVersion = 1 ∨ Blank row) :
    rows.map hashedFields ≠ log.events.map hashedFields := by
  intro hEq
  rcases hMarked with ⟨row, hMem, hMark⟩
  have hFields : row.hashedFields ∈ log.events.map hashedFields := by
    rw [← hEq]
    exact mem_map_of_mem hMem
  rcases mem_map.mp hFields with ⟨event, hEvent, hSame⟩
  rcases (hWritten.recorded event hEvent).of_hashedFields_eq hSame.symm with ⟨hVersion, hBlank⟩
  rcases hMark with hOne | hRow
  · exact hVersion hOne
  · exact hBlank hRow

theorem undetected_iff (hDigest : Function.Injective services.sha256)
    (hIssued : Issued services signed) (hWritten : Written services log) :
    Undetected signed log rows ↔ Accepted services rows log.chain ∧
      rows.map hashedFields ≠ log.events.map hashedFields := by
  constructor
  · intro hUndetected
    refine ⟨⟨hUndetected.numbered, hUndetected.linked, ?_, ?_⟩, ?_⟩
    · rw [hWritten.counted, hUndetected.counted]
    · intro row hMem
      rw [hIssued.passes_iff hDigest]
      exact hUndetected.credible row hMem
    · exact hashedFields_ne_of_marked hWritten hUndetected.marked
  · rintro ⟨hAccepted, hDiffers⟩
    refine ⟨?_, hAccepted.numbered, hAccepted.linked, ?_, ?_⟩
    · rw [← hAccepted.counted, hWritten.counted]
    · intro row hMem
      rw [← hIssued.passes_iff hDigest]
      exact hAccepted.passes row hMem
    · by_contra hUnmarked
      apply hDiffers
      apply hashedFields_eq_of_accepted hDigest hWritten hAccepted
      intro row hMem hMark
      exact hUnmarked ⟨row, hMem, hMark⟩

---- Rewriting A Log

/- Rows marked as version 1 can be rewritten but for their number and the two hashes. -/
theorem rewritten_accepted {edit : AuditEvent → AuditEvent} (hWritten : Written services log)
    (hVersion : ∀ row, (edit row).hashVersion = 1)
    (hSequence : ∀ row, (edit row).sequence = row.sequence)
    (hPrevious : ∀ row, (edit row).previousHash = row.previousHash)
    (hHash : ∀ row, (edit row).eventHash = row.eventHash) :
    ∃ result, verifyAuditChain services (log.events.map edit) log.chain = .ok result ∧
      result.valid = true := by
  have hNumbered : Numbered sequence 0 (log.events.map edit) :=
    (numbered_map _ hSequence _ _).mpr hWritten.numbered
  have hAccepted : Accepted services (orderBySequence (log.events.map edit)) log.chain := by
    rw [orderBySequence_of_numbered hNumbered]
    refine ⟨hNumbered, ?_, ?_, ?_⟩
    · exact (linked_map _ _ hPrevious hHash _ _ _).mpr hWritten.linked
    · rw [length_map]
      exact hWritten.counted
    · intro row hMem
      rcases mem_map.mp hMem with ⟨event, _, rfl⟩
      exact Or.inl (hVersion event)
  rcases verifyAuditChain_of_accepted hAccepted with ⟨result, hResult, hValid, _⟩
  exact ⟨result, hResult, hValid⟩

end PamOlive.Audit
