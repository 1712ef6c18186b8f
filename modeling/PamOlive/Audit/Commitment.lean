import PamOlive.Audit.Tamper

/-
  What the head of a verified chain commits to.

  Two tables of version-2 rows that are verified with one head hash agree on all that is hashed.
  The keyrings may differ; collisions between the two tables are excluded.
-/

---- Hashes Of Accepted Rows

namespace PamOlive.Audit

open Foundations Foundations.HashChain AuditEvent List

variable {services : Services} {rows rows' : List AuditEvent}

/- No two payloads of the tables are a collision. -/
def CollisionFree (sha256 : Text → Text) (rows rows' : List AuditEvent) : Prop :=
  ∀ row ∈ rows, ∀ row' ∈ rows', sha256 row.payload.canonical = sha256 row'.payload.canonical →
    row.payload.canonical = row'.payload.canonical

theorem Passes.eventHash_eq {row : AuditEvent} (hPasses : Passes services row)
    (hVersion : row.hashVersion = 2) : row.eventHash = services.sha256 row.payload.canonical := by
  rcases hPasses with hOne | ⟨_, hHash, _⟩
  · omega
  · exact hHash

theorem CollisionFree.sealedFields_eq {services' : Services} {row row' : AuditEvent}
    (hDigest : services'.sha256 = services.sha256)
    (hFree : CollisionFree services.sha256 rows rows') (hRow : row ∈ rows) (hRow' : row' ∈ rows')
    (hPasses : Passes services row) (hPasses' : Passes services' row')
    (hVersion : row.hashVersion = 2) (hVersion' : row'.hashVersion = 2)
    (hHash : row.eventHash = row'.eventHash) : row.sealedFields = row'.sealedFields := by
  rw [hPasses.eventHash_eq hVersion, hPasses'.eventHash_eq hVersion', hDigest] at hHash
  exact (payload_canonical_eq_iff _ _).mp (hFree row hRow row' hRow' hHash)

theorem headHash_of_valid
    {table : List AuditEvent} {state : AuditChainState} {result : AuditVerification}
    (hRun : verifyAuditChain services table state = .ok result)
    (hValid : result.valid = true) : result.headHash = state.lastHash := by
  have hAccepted := (valid_iff_accepted hRun).mp hValid
  rcases verifyAuditChain_of_accepted hAccepted with ⟨found, hFound, _, _, hHead⟩
  rw [hRun] at hFound
  injection hFound with hSame
  rw [hSame, hHead]

---- Commitment

theorem Accepted.sealedFields_eq {services' : Services} {state state' : AuditChainState}
    (hDigest : services'.sha256 = services.sha256) (hNonempty : ∀ text, services.sha256 text ≠ [])
    (hFree : CollisionFree services.sha256 rows rows') (hAccepted : Accepted services rows state)
    (hAccepted' : Accepted services' rows' state') (hVersions : ∀ row ∈ rows, row.hashVersion = 2)
    (hVersions' : ∀ row ∈ rows', row.hashVersion = 2) (hLast : state.lastHash = state'.lastHash) :
    rows.length = rows'.length ∧ rows.map sealedFields = rows'.map sealedFields := by
  have hCommits : ∀ row ∈ rows, ∀ row' ∈ rows',
    row.eventHash = row'.eventHash → row.sealedFields = row'.sealedFields := by
    intro row hRow row' hRow' hHash
    exact hFree.sealedFields_eq hDigest hRow hRow' (hAccepted.passes row hRow)
      (hAccepted'.passes row' hRow') (hVersions row hRow)
      (hVersions' row' hRow') hHash
  have hFresh : ∀ row ∈ rows, row.eventHash ≠ [] := by
    intro row hRow
    rw [(hAccepted.passes row hRow).eventHash_eq (hVersions row hRow)]
    exact hNonempty _
  have hFresh' : ∀ row ∈ rows', row.eventHash ≠ [] := by
    intro row hRow
    rw [(hAccepted'.passes row hRow).eventHash_eq (hVersions' row hRow), hDigest]
    exact hNonempty _
  have hLinked' := hAccepted'.linked
  rw [← hLast] at hLinked'
  -- The last row of either table holds its number, so the
  -- tables cannot differ in length.
  have hLength : rows.length = rows'.length :=
    length_eq_of_linked previousHash eventHash sequence hAccepted.numbered
      (fun _ _ hFields => congrArg HashedFields.sequence hFields)
      hCommits hFresh hFresh' hAccepted'.numbered hAccepted.linked hLinked'
  refine ⟨hLength, ?_⟩
  exact map_body_eq_of_linked previousHash eventHash
    (fun _ _ => previousHash_eq_of_sealedFields_eq) hLength
    hCommits hAccepted.linked hLinked'

/-
  Two tables of version-2 rows that are verified with one head hash hold the same history: their
  hashed columns, with missing metadata as the empty object.
-/
theorem head_commits_to_history
    {sha256 : Text → Text} {keyring keyring' : Keyring} {table table' : List AuditEvent}
    {state state' : AuditChainState} {result result' : AuditVerification}
    (hNonempty : ∀ text, sha256 text ≠ []) (hFree : CollisionFree sha256 table table')
    (hVersions : ∀ row ∈ table, row.hashVersion = 2)
    (hVersions' : ∀ row ∈ table', row.hashVersion = 2)
    (hRun : verifyAuditChain ⟨sha256, keyring⟩ table state = .ok result)
    (hRun' : verifyAuditChain ⟨sha256, keyring'⟩ table' state' = .ok result')
    (hValid : result.valid = true) (hValid' : result'.valid = true)
    (hHead : result.headHash = result'.headHash) :
    table.length = table'.length ∧ (orderBySequence table).map sealedFields =
      (orderBySequence table').map sealedFields := by
  have hMem : ∀ rows : List AuditEvent, ∀ row, row ∈ orderBySequence rows ↔ row ∈ rows :=
    fun _ _ => mem_insertionSort _
  have hLength : ∀ rows : List AuditEvent, (orderBySequence rows).length = rows.length :=
    fun rows => length_insertionSort _ rows
  rw [headHash_of_valid hRun hValid, headHash_of_valid hRun' hValid'] at hHead
  rw [← hLength table, ← hLength table']
  have hDigest : (⟨sha256, keyring'⟩ : Services).sha256 = (⟨sha256, keyring⟩ : Services).sha256 :=
    rfl
  refine Accepted.sealedFields_eq hDigest hNonempty ?_ ((valid_iff_accepted hRun).mp hValid)
    ((valid_iff_accepted hRun').mp hValid') ?_ ?_ hHead
  · intro row hRow row' hRow'
    exact hFree row ((hMem table row).mp hRow) row' ((hMem table' row').mp hRow')
  · intro row hRow
    exact hVersions row ((hMem table row).mp hRow)
  · intro row hRow
    exact hVersions' row ((hMem table' row).mp hRow)

def markedServices : Services := ⟨fun text => 104 :: text, plainServices.keyring⟩

def markedEvent : AuditEvent :=
  sampleCall.event markedServices ⟨0, []⟩ (115 :: sampleCall.eventHash markedServices ⟨0, []⟩)

theorem markedEvent_passes (id : Uuid) : Passes markedServices { markedEvent with id := id } :=
  Or.inr ⟨rfl, rfl, by simp [markedEvent, EventCall.event],
    by simp [markedServices, plainServices, markedEvent, EventCall.event]⟩

theorem markedEvent_accepted (id : Uuid) :
    Accepted markedServices (orderBySequence [{ markedEvent with id := id }]) markedEvent.head where
  numbered := ⟨rfl, trivial⟩
  linked := ⟨rfl, rfl⟩
  counted := rfl
  passes := by
    intro event hMem
    rw [mem_singleton.mp hMem]
    exact markedEvent_passes id

theorem head_commits_to_history_sample :
    ([{ markedEvent with id := 1 }].map sealedFields) = [{ markedEvent with id := 2 }].map
        sealedFields := by
  rcases verifyAuditChain_of_accepted (markedEvent_accepted 1) with
    ⟨first, hFirst, hValid, _, hHead⟩
  rcases verifyAuditChain_of_accepted (markedEvent_accepted 2) with
    ⟨second, hSecond, hValid', _, hHead'⟩
  have hVersions : ∀ id : Uuid, ∀ row ∈ [{ markedEvent with id := id }], row.hashVersion = 2 := by
    intro id row hMem
    rw [mem_singleton.mp hMem]
    rfl
  have hFree : CollisionFree markedServices.sha256 [{ markedEvent with id := 1 }]
    [{ markedEvent with id := 2 }] := by
    intro row _ row' _ hEq
    exact (cons.inj hEq).2
  exact (head_commits_to_history (fun text => cons_ne_nil 104 text) hFree
    (hVersions 1) (hVersions 2) hFirst hSecond hValid hValid' (hHead.trans hHead'.symm)).2

end PamOlive.Audit
