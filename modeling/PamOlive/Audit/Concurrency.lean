import PamOlive.Audit.Interleaving

/-
  The verifier next to concurrent writers.

  On the tables of one committed state the verifier accepts what concurrent transactions wrote. Its
  two reads are separate queries, though: a commit between them makes it report a broken chain.
-/

---- A Small Installation

namespace PamOlive.Audit

open Foundations Foundations.HashChain TransitionSystem AuditEvent List

variable {services : Services}

def sampleCall : EventCall where
  id := 0
  occurredAt := sampleTime
  actor := some sampleUser
  action := "session.opened"
  resourceType := "targets.target"
  resourceId := "7"
  sourceIp := none
  metadata := .null

def freshSystem : ChainSystem := ⟨AuditLog.empty, fun _ => .idle⟩

def sampleEvent : AuditEvent :=
  sampleCall.event plainServices ⟨0, []⟩ (115 :: sampleCall.eventHash plainServices ⟨0, []⟩)

def sampleCommitted : ChainSystem := ⟨⟨[sampleEvent], sampleEvent.head⟩, fun _ => .idle⟩

theorem freshSystem_reachable : (chainSystem plainServices).Reachable freshSystem :=
  ⟨_, [], ⟨rfl, fun _ => rfl⟩, Run.nil _⟩

theorem sampleCommitted_reachable : (chainSystem plainServices).Reachable sampleCommitted :=
  freshSystem_reachable.run (run_of_recordEvent 0 rfl)

/-
  Whatever transactions ran, the committed rows are numbered `1..n`, linked from the empty hash to
  the stored head, and verified as a valid chain.
-/
theorem committed_chain_verifies (hAgrees : services.keyring.Agrees) {system : ChainSystem}
    (hReachable : (chainSystem services).Reachable system) :
    system.log.events.map sequence = range' 1 system.log.events.length ∧
      Linked previousHash eventHash [] system.log.events system.log.chain.lastHash ∧
      system.log.chain.lastSequence = system.log.events.length ∧
      ∃ result, verifyAuditChain services system.log.events system.log.chain = .ok result ∧
        result.valid = true ∧ result.checkedEvents = system.log.events.length ∧
        result.headHash = system.log.chain.lastHash := by
  have hWritten := (coherent_of_reachable hReachable).written
  refine ⟨?_, hWritten.linked, hWritten.counted, ?_⟩
  · exact hWritten.numbered.map_eq sequence
  · apply verifyAuditChain_of_accepted
    rw [hWritten.orderBySequence_eq]
    exact hWritten.accepted hAgrees

theorem committed_chain_verifies_sample :
    plainServices.keyring.Agrees ∧ (chainSystem plainServices).Reachable sampleCommitted ∧
      ∃ result, verifyAuditChain plainServices sampleCommitted.log.events
        sampleCommitted.log.chain = .ok result ∧ result.valid = true ∧ result.checkedEvents = 1 ∧
        result.headHash = sampleCommitted.log.chain.lastHash := by
  refine ⟨plainServices_agrees, sampleCommitted_reachable, ?_⟩
  exact (committed_chain_verifies plainServices_agrees sampleCommitted_reachable).2.2.2

---- Verification During Commits

theorem ChainStep.log_cases {system after : ChainSystem} {label : ChainLabel}
    (hCoherent : Coherent services system) (hStep : ChainStep services system label after) :
    ((∀ tx, label ≠ .commit tx) ∧ after.log = system.log) ∨
      ((∃ tx, label = .commit tx) ∧ system.log.events.length < after.log.events.length) := by
  cases hStep with
  | @commit _ rows _ hPhase =>
    have hRows : rows ≠ [] := (hCoherent.sound _ _ hPhase).2
    have hLength := length_pos_iff.mpr hRows
    refine Or.inr ⟨⟨_, rfl⟩, ?_⟩
    simp only [ChainSystem.move_log, length_append]
    omega
  | _ => exact Or.inl ⟨by simp, rfl⟩

theorem run_log_cases {system after : ChainSystem} {labels : List ChainLabel}
    (hCoherent : Coherent services system) (hRun : (chainSystem services).Run system labels after) :
    ((∀ tx, ChainLabel.commit tx ∉ labels) ∧ after.log = system.log) ∨
      ((∃ tx, ChainLabel.commit tx ∈ labels) ∧
        system.log.events.length < after.log.events.length) := by
  induction hRun with
  | nil => exact Or.inl ⟨by simp, rfl⟩
  | cons hStep _ ih =>
    rcases ChainStep.log_cases hCoherent hStep with ⟨hOther, hSame⟩ | ⟨⟨tx, rfl⟩, hGrows⟩
    · rcases ih (hCoherent.step hStep) with ⟨hNone, hRest⟩ | ⟨⟨tx, hMem⟩, hGrows⟩
      · refine Or.inl ⟨?_, hRest.trans hSame⟩
        intro tx hMem
        rcases mem_cons.mp hMem with hHead | hTail
        · exact hOther tx hHead.symm
        · exact hNone tx hTail
      · rw [hSame] at hGrows
        exact Or.inr ⟨⟨tx, mem_cons_of_mem _ hMem⟩, hGrows⟩
    · refine Or.inr ⟨⟨tx, mem_cons_self⟩, ?_⟩
      rcases ih (hCoherent.step hStep) with ⟨_, hRest⟩ | ⟨_, hLater⟩
      · rw [hRest]
        exact hGrows
      · exact hGrows.trans hLater

/-
  A verification that reads the head later than the events reports a valid chain exactly if nothing
  was committed in between.
-/
theorem concurrent_verification_valid_iff (hAgrees : services.keyring.Agrees)
    {scanned headRead : ChainSystem} {labels : List ChainLabel}
    (hReachable : (chainSystem services).Reachable scanned)
    (hRun : (chainSystem services).Run scanned labels headRead) :
    (∃ result, verifyAuditChain services scanned.log.events headRead.log.chain = .ok result ∧
        result.valid = true) ↔
      ∀ tx, ChainLabel.commit tx ∉ labels := by
  have hCoherent := coherent_of_reachable hReachable
  have hScanned := hCoherent.written
  have hHead := (coherent_of_reachable (hReachable.run hRun)).written
  constructor
  · rintro ⟨result, hResult, hValid⟩
    have hAccepted := (valid_iff_accepted hResult).mp hValid
    rw [hScanned.orderBySequence_eq] at hAccepted
    have hCount : headRead.log.events.length = scanned.log.events.length :=
      hHead.counted.symm.trans hAccepted.counted
    rcases run_log_cases hCoherent hRun with ⟨hNone, _⟩ | ⟨_, hGrows⟩
    · exact hNone
    · omega
  · intro hNone
    rcases run_log_cases hCoherent hRun with ⟨_, hSame⟩ | ⟨⟨tx, hMem⟩, _⟩
    · have hAccepted : Accepted services (orderBySequence scanned.log.events)
        headRead.log.chain := by
        rw [hSame, hScanned.orderBySequence_eq]
        exact hScanned.accepted hAgrees
      rcases verifyAuditChain_of_accepted hAccepted with ⟨result, hResult, hValid, _⟩
      exact ⟨result, hResult, hValid⟩
    · exact absurd hMem (hNone tx)

/- Another transaction writes its event and is aborted between the two reads. -/
theorem concurrent_verification_valid_iff_sample :
    plainServices.keyring.Agrees ∧ (chainSystem plainServices).Reachable sampleCommitted ∧
      ∃ headRead, (chainSystem plainServices).Run sampleCommitted
        [.start 1 sampleCall, .lock 1, .insert 1, .save 1, .abort 1] headRead ∧
      ∃ result, verifyAuditChain plainServices sampleCommitted.log.events
        headRead.log.chain = .ok result ∧ result.valid = true := by
  refine ⟨plainServices_agrees, sampleCommitted_reachable, ?_⟩
  have hRun : ∃ headRead, (chainSystem plainServices).Run sampleCommitted
    [.start 1 sampleCall, .lock 1, .insert 1, .save 1, .abort 1] headRead := by
    refine ⟨_, .cons (.start rfl) (.cons (.lock rfl ?_) (.cons (.insert rfl rfl)
      (.cons (.save rfl) (.cons .abort (.nil _)))))⟩
    intro other writer hWriting
    rcases ChainSystem.move_phase_writing hWriting with ⟨_, hNow⟩ | ⟨_, hBefore⟩
    · cases hNow
    · cases hBefore
  rcases hRun with ⟨headRead, hRun⟩
  refine ⟨headRead, hRun, ?_⟩
  apply (concurrent_verification_valid_iff plainServices_agrees sampleCommitted_reachable hRun).mpr
  simp

/- One commit between the scan of an empty table and the read of the head breaks the chain. -/
theorem concurrent_commit_false_alarm :
    ∃ scanned headRead labels result, plainServices.keyring.Agrees ∧
      (chainSystem plainServices).Reachable scanned ∧
      (chainSystem plainServices).Run scanned labels headRead ∧
      verifyAuditChain plainServices scanned.log.events headRead.log.chain = .ok result ∧
      result.valid = false := by
  refine ⟨freshSystem, sampleCommitted, recordLabels 0 sampleCall, _, plainServices_agrees,
    freshSystem_reachable, run_of_recordEvent 0 rfl, rfl, ?_⟩
  rfl

end PamOlive.Audit
