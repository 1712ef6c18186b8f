import PamOlive.Audit.Written
import PamOlive.Foundations.Transition
import Mathlib.Logic.Function.Basic

/-
  Concurrent transactions that record events.

  A transaction locks the chain row, reads the head, inserts its row, saves the head, and commits
  or aborts. It may record several events, and roll a failed call back to its savepoint. Rows and
  head become visible together, at the commit.
-/

---- Transactions

namespace PamOlive.Audit

open Foundations TransitionSystem

/- How far the current call of a lock holder has come. -/
inductive Stage where
  | ready (call : EventCall)
  | inserted (event : AuditEvent)
  | saved

/- A lock holder: the rows it has recorded, the head as it sees it, and the current call. -/
structure Writer where
  rows : List AuditEvent
  head : AuditChainState
  stage : Stage

open Writer

/- A transaction, seen from the chain row. -/
inductive Phase where
  | idle
  | waiting (call : EventCall)
  | writing (writer : Writer)

/- The committed tables and all transactions. -/
structure ChainSystem where
  log : AuditLog
  phase : Nat → Phase

open ChainSystem

def ChainSystem.move (system : ChainSystem) (tx : Nat) (phase : Phase) : ChainSystem :=
  { system with phase := Function.update system.phase tx phase }

inductive ChainLabel where
  | start (tx : Nat) (call : EventCall)
  | lock (tx : Nat)
  | insert (tx : Nat)
  | save (tx : Nat)
  | next (tx : Nat) (call : EventCall)
  | undo (tx : Nat)
  | commit (tx : Nat)
  | abort (tx : Nat)

/- After a rollback to a savepoint the lock is kept only if an earlier call holds it. -/
def Writer.undo (writer : Writer) : Phase :=
  if writer.rows = [] then .idle
  else .writing { writer with stage := .saved }

/-
  One step of one transaction. Where the keyring does not sign, only `undo` and `abort` are left.
-/
inductive ChainStep (services : Services) (system : ChainSystem) : ChainLabel → ChainSystem → Prop
  | start {tx : Nat} {call : EventCall} (hPhase : system.phase tx = .idle) :
    ChainStep services system (.start tx call) (system.move tx (.waiting call))
  | lock {tx : Nat} {call : EventCall} (hPhase : system.phase tx = .waiting call)
    (hFree : ∀ other writer, system.phase other ≠ .writing writer) :
    ChainStep services system (.lock tx)
      (system.move tx (.writing ⟨[], system.log.chain, .ready call⟩))
  | insert {tx : Nat} {call : EventCall}
    {rows : List AuditEvent} {head : AuditChainState} {signature : Text}
    (hPhase : system.phase tx = .writing ⟨rows, head, .ready call⟩)
    (hSign : services.keyring.sign (call.eventHash services head) = .ok signature) :
    ChainStep services system (.insert tx)
      (system.move tx (.writing ⟨rows, head, .inserted (call.event services head signature)⟩))
  | save {tx : Nat} {rows : List AuditEvent} {head : AuditChainState}
    {event : AuditEvent}
    (hPhase : system.phase tx = .writing ⟨rows, head, .inserted event⟩) :
    ChainStep services system (.save tx)
      (system.move tx (.writing ⟨rows ++ [event], event.head, .saved⟩))
  | next {tx : Nat} {call : EventCall}
    {rows : List AuditEvent} {head : AuditChainState}
    (hPhase : system.phase tx = .writing ⟨rows, head, .saved⟩) :
    ChainStep services system (.next tx call) (system.move tx (.writing ⟨rows, head, .ready call⟩))
  | undo {tx : Nat} {writer : Writer} (hPhase : system.phase tx = .writing writer) :
    ChainStep services system (.undo tx) (system.move tx writer.undo)
  | commit {tx : Nat} {rows : List AuditEvent} {head : AuditChainState}
    (hPhase : system.phase tx = .writing ⟨rows, head, .saved⟩) :
    ChainStep services system (.commit tx) (move { system with
        log := ⟨system.log.events ++ rows, head⟩ } tx .idle)
  | abort {tx : Nat} : ChainStep services system (.abort tx) (system.move tx .idle)

/- Any number of transactions on a fresh installation. -/
def chainSystem (services : Services) : TransitionSystem ChainSystem ChainLabel where
  init system := system.log = AuditLog.empty ∧ ∀ tx, system.phase tx = .idle
  step := ChainStep services

---- Coherence

variable {services : Services}

@[simp]
theorem ChainSystem.move_log (system : ChainSystem) (tx : Nat) (phase : Phase) :
    (system.move tx phase).log = system.log :=
  rfl

theorem ChainSystem.move_phase_self (system : ChainSystem) (tx : Nat) (phase : Phase) :
    (system.move tx phase).phase tx = phase := by
  simp [move]

@[simp]
theorem ChainSystem.move_move (system : ChainSystem) (tx : Nat) (phase phase' : Phase) :
    (system.move tx phase).move tx phase' = system.move tx phase' := by
  simp [move]

/- The committed log followed by what a writer recorded. -/
def Writer.view (writer : Writer) (log : AuditLog) : AuditLog :=
  ⟨log.events ++ writer.rows, writer.head⟩

section

variable (services : Services)

/- What the current call of a writer has done so far. -/
def Writer.Staged (writer : Writer) : Prop :=
  match writer.stage with
  | .ready _ => True
  | .inserted event =>
    ∃ (call : EventCall) (signature : Text),
      services.keyring.sign (call.eventHash services writer.head) = .ok signature ∧
      event = call.event services writer.head signature
  | .saved => writer.rows ≠ []

/- A writer whose commit would leave a written log. -/
def Writer.Sound (log : AuditLog) (writer : Writer) : Prop :=
  Written services (writer.view log) ∧ writer.Staged services

/- The committed log is written, at most one transaction holds the lock, and it is sound. -/
structure Coherent (system : ChainSystem) : Prop where
  written : Written services system.log
  exclusive : ∀ tx other writer writer',
    system.phase tx = .writing writer → system.phase other = .writing writer' → tx = other
  sound : ∀ tx writer, system.phase tx = .writing writer → writer.Sound services system.log

end

variable {system : ChainSystem} {writer : Writer} {tx : Nat} {phase : Phase}

theorem ChainSystem.move_phase_writing {other : Nat}
    (hWriting : (system.move tx phase).phase other = .writing writer) :
    (other = tx ∧ phase = .writing writer) ∨
      (other ≠ tx ∧ system.phase other = .writing writer) := by
  unfold move at hWriting
  by_cases hSame : other = tx
  · subst hSame
    simp only [Function.update_self] at hWriting
    exact Or.inl ⟨rfl, hWriting⟩
  · simp only [Function.update_of_ne hSame] at hWriting
    exact Or.inr ⟨hSame, hWriting⟩

section

variable (hCoherent : Coherent services system)

include hCoherent

theorem Coherent.move_unlocked (tx : Nat) (hPhase : ∀ writer, phase ≠ .writing writer) :
    Coherent services (system.move tx phase) where
  written := hCoherent.written
  exclusive := by
    intro first second writer writer' hFirst hSecond
    rcases move_phase_writing hFirst with ⟨_, hNow⟩ | ⟨_, hBefore⟩
    · exact absurd hNow (hPhase writer)
    · rcases move_phase_writing hSecond with ⟨_, hNow'⟩ | ⟨_, hBefore'⟩
      · exact absurd hNow' (hPhase writer')
      · exact hCoherent.exclusive first second writer writer' hBefore hBefore'
  sound := by
    intro other writer hWriting
    rcases move_phase_writing hWriting with ⟨_, hNow⟩ | ⟨_, hBefore⟩
    · exact absurd hNow (hPhase writer)
    · exact hCoherent.sound other writer hBefore

theorem Coherent.move_writing (tx : Nat)
    (hAlone : ∀ other writer', system.phase other = .writing writer' → other = tx)
    (hSound : writer.Sound services system.log) :
    Coherent services (system.move tx (.writing writer)) where
  written := hCoherent.written
  exclusive := by
    have hOnly : ∀ other writer',
      (system.move tx (.writing writer)).phase other = .writing writer' → other = tx := by
      intro other writer' hWriting
      rcases move_phase_writing hWriting with ⟨hSame, _⟩ | ⟨_, hBefore⟩
      · exact hSame
      · exact hAlone other writer' hBefore
    intro first second writer' writer'' hFirst hSecond
    rw [hOnly first writer' hFirst, hOnly second writer'' hSecond]
  sound := by
    intro other writer' hWriting
    rcases move_phase_writing hWriting with ⟨_, hNow⟩ | ⟨_, hBefore⟩
    · injection hNow with hWriter
      rw [← hWriter]
      exact hSound
    · exact hCoherent.sound other writer' hBefore

theorem Coherent.move_holder {before : Writer}
    (hPhase : system.phase tx = .writing before) (hSound : writer.Sound services system.log) :
    Coherent services (system.move tx (.writing writer)) := by
  apply hCoherent.move_writing tx _ hSound
  intro other writer' hWriting
  exact hCoherent.exclusive other tx writer' before hWriting hPhase

end

variable {log : AuditLog} {rows : List AuditEvent} {head : AuditChainState} {event : AuditEvent}

theorem Writer.Sound.save (hSound : Sound services log ⟨rows, head, .inserted event⟩) :
    Sound services log ⟨rows ++ [event], event.head, .saved⟩ := by
  rcases hSound with ⟨hWritten, call, signature, hSign, hEvent⟩
  have hRecord : recordEvent services call (view ⟨rows, head, .inserted event⟩ log) =
    .ok (event, view ⟨rows ++ [event], event.head, .saved⟩ log) := by
    apply recordEvent_eq_ok_iff.mpr
    refine ⟨signature, hSign, hEvent, ?_⟩
    simp [view]
  constructor
  · exact Written.record hWritten hRecord
  · simp [Staged]

section

variable (hCoherent : Coherent services system)

include hCoherent

theorem Coherent.undo (hPhase : system.phase tx = .writing writer) :
    Coherent services (system.move tx writer.undo) := by
  unfold Writer.undo
  split
  · apply hCoherent.move_unlocked tx
    intro writer'
    simp
  · rename_i hRows
    apply hCoherent.move_holder hPhase
    exact ⟨(hCoherent.sound tx writer hPhase).1, hRows⟩

theorem Coherent.commit (hPhase : system.phase tx = .writing ⟨rows, head, .saved⟩) :
    Coherent services (move { system with
        log := ⟨system.log.events ++ rows, head⟩ } tx .idle) := by
  have hNone : ∀ other writer, (move { system with
      log := ⟨system.log.events ++ rows, head⟩ } tx .idle).phase other ≠ .writing writer := by
    intro other writer hWriting
    rcases move_phase_writing hWriting with ⟨_, hNow⟩ | ⟨hOther, hBefore⟩
    · simp at hNow
    · exact hOther (hCoherent.exclusive other tx writer _ hBefore hPhase)
  constructor
  · exact (hCoherent.sound tx _ hPhase).1
  · intro first _ writer _ hFirst _
    exact absurd hFirst (hNone first writer)
  · intro other writer hWriting
    exact absurd hWriting (hNone other writer)

theorem Coherent.step {after : ChainSystem} {label : ChainLabel}
    (hStep : ChainStep services system label after) : Coherent services after := by
  cases hStep with
  | start hPhase =>
    apply hCoherent.move_unlocked
    intro writer
    simp
  | lock hPhase hFree =>
    apply hCoherent.move_writing
    · intro other writer hWriting
      exact absurd hWriting (hFree other writer)
    · refine ⟨?_, trivial⟩
      simpa [view] using hCoherent.written
  | insert hPhase hSign =>
    apply hCoherent.move_holder hPhase
    exact ⟨(hCoherent.sound _ _ hPhase).1, _, _, hSign, rfl⟩
  | save hPhase =>
    apply hCoherent.move_holder hPhase
    exact (hCoherent.sound _ _ hPhase).save
  | next hPhase =>
    apply hCoherent.move_holder hPhase
    exact ⟨(hCoherent.sound _ _ hPhase).1, trivial⟩
  | undo hPhase => exact hCoherent.undo hPhase
  | commit hPhase => exact hCoherent.commit hPhase
  | abort =>
    apply hCoherent.move_unlocked
    intro writer
    simp

end

theorem coherent_of_reachable (hReachable : (chainSystem services).Reachable system) :
    Coherent services system := by
  apply hReachable.invariant
  · rintro start ⟨hLog, hIdle⟩
    constructor
    · rw [hLog]
      exact Written.empty
    · intro tx _ writer _ hWriting _
      simp [hIdle tx] at hWriting
    · intro tx writer hWriting
      simp [hIdle tx] at hWriting
  · intro before label after hBefore hStep
    exact hBefore.step hStep

---- Sequential Calls As Runs

/- The five steps of a transaction with one call. -/
def recordLabels (tx : Nat) (call : EventCall) : List ChainLabel :=
  [.start tx call, .lock tx, .insert tx, .save tx, .commit tx]

theorem run_of_recordEvent {after : AuditLog} {call : EventCall} (tx : Nat)
    (hRecord : recordEvent services call log = .ok (event, after)) :
    (chainSystem services).Run ⟨log, fun _ => .idle⟩
      (recordLabels tx call) ⟨after, fun _ => .idle⟩ := by
  rcases recordEvent_eq_ok_iff.mp hRecord with ⟨signature, hSign, rfl, rfl⟩
  let idle : ChainSystem := ⟨log, fun _ => .idle⟩
  have hFree : ∀ other writer, (idle.move tx (.waiting call)).phase other ≠ .writing writer := by
    intro other writer hWriting
    rcases move_phase_writing hWriting with ⟨_, hNow⟩ | ⟨_, hBefore⟩
    · simp at hNow
    · simp [idle] at hBefore
  apply Run.cons (ChainStep.start rfl)
  apply Run.cons (ChainStep.lock (idle.move_phase_self tx _) hFree)
  rw [move_move]
  apply Run.cons (ChainStep.insert (idle.move_phase_self tx _) hSign)
  rw [move_move]
  apply Run.cons (ChainStep.save (idle.move_phase_self tx _))
  rw [move_move]
  apply Run.cons (ChainStep.commit (idle.move_phase_self tx _))
  simp [move, idle]
  apply Run.nil

theorem written_iff_reachable (log : AuditLog) : Written services log ↔
    ∃ system, (chainSystem services).Reachable system ∧ system.log = log := by
  constructor
  · intro hWritten
    refine ⟨⟨log, fun _ => .idle⟩, ?_, rfl⟩
    induction hWritten with
    | empty => exact ⟨_, [], ⟨rfl, fun _ => rfl⟩, Run.nil _⟩
    | record _ hRecord ih => exact ih.run (run_of_recordEvent 0 hRecord)
  · rintro ⟨system, hReachable, rfl⟩
    exact (coherent_of_reachable hReachable).written

end PamOlive.Audit
