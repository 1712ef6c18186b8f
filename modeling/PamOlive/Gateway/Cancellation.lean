import PamOlive.Gateway.Bridge

/-
  A bridge whose session is cancelled.

  The bridge asks the process to end, waits up to three seconds, and only then cancels the input
  loop, which until then writes what the client sends. At the end it waits for both output streams,
  as long as the target keeps them open.
-/

---- Cancelled Runs

namespace PamOlive.Gateway

open Foundations Api InputState BridgePhase List InputState

def TimedEvent.isCancel (timed : TimedEvent) : Bool :=
  match timed.event with
  | .cancel => true
  | _ => false

/- When the event is set, and when the tasks start, if they do. The later one counts. -/
structure CancelledRun where
  envelope : Envelope
  setup : BridgeSetup
  readyAt : Int
  setAt : Int
  before : List TimedEvent
  after : List TimedEvent
  ordered : InOrder (before ++ ⟨max setAt readyAt, .cancel⟩ :: after)
  ready : ∀ timed ∈ before, readyAt ≤ timed.time
  unset : ∀ timed ∈ before, timed.isCancel = false

namespace CancelledRun

def seenAt (run : CancelledRun) : Int := max run.setAt run.readyAt

def schedule (run : CancelledRun) : Schedule where
  events := run.before ++ ⟨run.seenAt, .cancel⟩ :: run.after
  ordered := run.ordered

variable {timed : TimedEvent}

theorem time_lt_setAt (run : CancelledRun) (hMem : timed ∈ run.before) :
    timed.time < run.setAt := by
  have hReady := run.ready timed hMem
  have hLater := (pairwise_append.mp run.ordered).2.2 timed hMem _ mem_cons_self
  dsimp only at hLater
  omega

theorem setAt_lt_time (run : CancelledRun) (hMem : timed ∈ run.after) : run.setAt < timed.time := by
  have hRest := (pairwise_append.mp run.ordered).2.1
  have hLater := (pairwise_cons.mp hRest).1 timed hMem
  dsimp only at hLater
  omega

end CancelledRun

---- Messages That Reach The Process

variable {env : InputEnv}

def AlertPasses (env : InputEnv) (faults : Faults) (candidate : Text) : Prop :=
  (inspectCommands env (completedCommands candidate)).alertMatch ≠ [] →
    env.hasCallback = true → faults.callback = false

/-
  A message brings text to the process: nonempty terminal input that can be encoded, recorded and
  written, with no completed line denied and every alert reported.
-/
def Reaches (env : InputEnv) (turn : Turn) (input : InputState) : Prop :=
  ∃ text, messageRequest env turn.message = .input text ∧ text ≠ [] ∧ (text.encode).isSome = true ∧
    turn.faults.recorder = false ∧ turn.faults.stdin = false ∧
    (hasNewline text = true → ¬ Denied env (input.pendingCommand ++ text) ∧
      AlertPasses env turn.faults (input.pendingCommand ++ text))

variable {faults : Faults} {text : Text} {state : InputState}

theorem forwardText_stdin_ne_iff (hRunning : state.signal = .running) :
    (forwardText faults text state).stdin ≠ state.stdin ↔
      text ≠ [] ∧ (text.encode).isSome = true ∧ faults.recorder = false ∧ faults.stdin = false := by
  unfold forwardText record
  cases text.encode with
  | none => simp [InputState.andThen, raise]
  | some data =>
    cases hRecorder : faults.recorder with
    | true => simp [InputState.andThen, raise]
    | false =>
      cases hStdin : faults.stdin with
      | true => simp [InputState.andThen, hRunning, writeStdin, hStdin, raise]
      | false => simp [InputState.andThen, hRunning, writeStdin, hStdin]

theorem alertCommand_signal {candidate : Text} (hRunning : state.signal = .running) :
    (alertCommand env faults (inspectCommands env (completedCommands candidate)) state).signal =
      .running ↔ AlertPasses env faults candidate := by
  unfold alertCommand AlertPasses notify
  by_cases hAlert : (inspectCommands env (completedCommands candidate)).alertMatch = []
  · simp [hAlert, hRunning]
  · cases hCallback : env.hasCallback with
    | false => simp [hRunning]
    | true =>
      cases hFault : faults.callback with
      | true => simp [hAlert, raise]
      | false => simp [hAlert, hRunning]

theorem alertedInput_stdin_ne_iff (hRunning : state.signal = .running) : ((alertCommand env faults
    (inspectCommands env (completedCommands (state.pendingCommand ++ text)))
    { state with pendingCommand := [] }).andThen (forwardText faults text)).stdin ≠ state.stdin ↔
    (text ≠ [] ∧ (text.encode).isSome = true ∧ faults.recorder = false ∧ faults.stdin = false) ∧
      AlertPasses env faults (state.pendingCommand ++ text) := by
  have hSame := (@sameLine_alertCommand env faults
    (inspectCommands env (completedCommands (state.pendingCommand ++ text)))
    { state with pendingCommand := [] }).1
  have hSignal := @alertCommand_signal env faults { state with pendingCommand := [] }
    (state.pendingCommand ++ text) hRunning
  generalize alertCommand env faults
    (inspectCommands env (completedCommands (state.pendingCommand ++ text)))
    { state with pendingCommand := [] } = alerted
    at hSame hSignal ⊢
  rw [← hSame, ← hSignal]
  unfold InputState.andThen
  cases hAlerted : alerted.signal with
  | running =>
    rw [forwardText_stdin_ne_iff hAlerted]
    simp
  | returned => simp
  | raised => simp

theorem terminalInput_stdin_ne_iff (hRunning : state.signal = .running) :
    (terminalInput env faults text state).stdin ≠ state.stdin ↔
      text ≠ [] ∧ (text.encode).isSome = true ∧ faults.recorder = false ∧ faults.stdin = false ∧
        (hasNewline text = true → ¬ Denied env (state.pendingCommand ++ text) ∧
          AlertPasses env faults (state.pendingCommand ++ text)) := by
  cases hText : hasNewline text with
  | false =>
    rw [terminalInput_of_not_hasNewline hText]
    have hForward := @forwardText_stdin_ne_iff faults text { state with
        pendingCommand := lastPending (state.pendingCommand ++ text) }
      hRunning
    rw [hForward]
    simp
  | true =>
    by_cases hDenied : Denied env (state.pendingCommand ++ text)
    · rw [terminalInput_of_denied hText hDenied]
      have hSame := (@sameLine_denyCommand env faults
        (inspectCommands env (completedCommands (state.pendingCommand ++ text)))
        { state with pendingCommand := [] }).1
      simp [hSame, hDenied]
    · rw [terminalInput_of_not_denied hText hDenied, alertedInput_stdin_ne_iff hRunning]
      simp [hDenied, and_assoc]

variable {input : InputState}

theorem forwardMessage_stdin_ne_iff {turn : Turn} (hRunning : input.signal = .running) :
    (forwardMessage env turn input).stdin ≠ input.stdin ↔ Reaches env turn input := by
  unfold forwardMessage Reaches
  cases hRequest : messageRequest env turn.message with
  | stop => simp
  | ignore => simp
  | fail => simp [raise]
  | input text =>
    rw [terminalInput_stdin_ne_iff hRunning]
    simp
  | resize payload =>
    have hSame := (@sameLine_terminalResize env turn.faults payload input).1
    simp [hSame]

---- The Grace Period

/- The messages the input loop still takes: before the deadline and the exit of the process. -/
def graceTurns (deadline : Int) : List TimedEvent → List Turn
| [] => []
| timed :: rest =>
  if deadline ≤ timed.time then []
  else
    match timed.event with
    | .remoteExit => []
    | .message turn => turn :: graceTurns deadline rest
    | _ => graceTurns deadline rest

/- Fed to the input loop, no message gets through. -/
def Quiet (env : InputEnv) : InputState → List Turn → Prop
| _, [] => True
| input, turn :: rest =>
  ¬ Reaches env turn input ∧ ((forwardMessage env turn input).signal = .running →
    Quiet env (forwardMessage env turn input) rest)

/- The input loop after the messages among some events. -/
def inputAfter (env : InputEnv) : InputState → List TimedEvent → InputState
| input, [] => input
| input, timed :: rest =>
  match timed.event with
  | .message turn => inputAfter env (forwardMessage env turn input) rest
  | _ => inputAfter env input rest

variable {state : BridgeState} {deadline : Int} {writes : List (Int × Text)} {write : Int × Text}

theorem mem_writes_of_mem (hMem : write ∈ state.writes)
    (events : List TimedEvent) : write ∈ (runBridge env events state).writes := by
  induction events generalizing state with
  | nil => exact hMem
  | cons timed rest ih =>
    apply ih
    rcases timed with ⟨time, turn | _ | _ | _ | _⟩
    · unfold bridgeStep relay
      dsimp only
      split
      · exact mem_append_left _ hMem
      · exact hMem
    · exact hMem
    · exact hMem
    · exact hMem
    · exact hMem

theorem bridgeStep_of_stopped {state : BridgeState} (hStopped : state.input.signal ≠ .running)
    (timed : TimedEvent) :
    (bridgeStep env state timed).input = state.input ∧ (bridgeStep env state timed).writes =
      state.writes := by
  rcases timed with ⟨time, turn | _ | _ | _ | _⟩
  · unfold bridgeStep relay
    dsimp only
    rw [if_neg (fun hTakes => hStopped hTakes.2)]
    exact ⟨rfl, rfl⟩
  · exact ⟨rfl, rfl⟩
  · exact ⟨rfl, rfl⟩
  · exact ⟨rfl, rfl⟩
  · exact ⟨rfl, rfl⟩

theorem writes_of_stopped (hStopped : state.input.signal ≠ .running) (events : List TimedEvent) :
    (runBridge env events state).writes = state.writes := by
  induction events generalizing state with
  | nil => rfl
  | cons timed rest ih =>
    have hStep := @bridgeStep_of_stopped env _ hStopped timed
    rw [runBridge_cons, ih (hStep.1 ▸ hStopped), hStep.2]

variable {timed : TimedEvent}

theorem bridgeStep_expired (hExpired : deadline ≤ timed.time) :
    bridgeStep env ⟨.terminating deadline, input, writes⟩ timed =
      ⟨.draining deadline, input, writes⟩ := by
  have hPhase : expire timed.time (.terminating deadline) = .draining deadline := if_pos hExpired
  unfold bridgeStep
  rw [hPhase]
  rcases timed with ⟨time, turn | _ | _ | _ | _⟩ <;> rfl

theorem bridgeStep_waiting (hTime : timed.time < deadline) :
    bridgeStep env ⟨.terminating deadline, input, writes⟩ timed =
      match timed.event with
      | .message turn => relay env timed.time turn ⟨.terminating deadline, input, writes⟩
      | .remoteExit => ⟨.draining timed.time, input, writes⟩
      | _ => ⟨.terminating deadline, input, writes⟩ := by
  have hPhase : expire timed.time (.terminating deadline) = .terminating deadline :=
    if_neg (not_le.mpr hTime)
  unfold bridgeStep
  rw [hPhase]
  rcases timed with ⟨time, turn | _ | _ | _ | _⟩ <;> rfl

variable {time : Int} {before after : InputState}

theorem writtenBy_eq_nil_iff : writtenBy time before after = [] ↔ after.stdin = before.stdin := by
  unfold writtenBy
  split
  · rename_i hSame
    simp [hSame]
  · rename_i hOther
    simp [hOther]

variable {instant : Int}

theorem not_le_of_written {phase : BridgePhase}
    (hLate : instant < time) (hWritten : after.stdin ≠ before.stdin) (events : List TimedEvent) :
    ¬ ∀ write ∈ (runBridge env events ⟨phase, after, writes ++ writtenBy time before after⟩).writes,
      write.1 ≤ instant := by
  intro hBound
  have hMem :
    (time, after.stdin.drop before.stdin.length) ∈ writes ++ writtenBy time before after := by
    unfold writtenBy
    rw [if_neg hWritten]
    simp
  have hLe := hBound _ (mem_writes_of_mem hMem events)
  omega

variable {events : List TimedEvent}

/-
  A waiting bridge writes nothing after an instant exactly if no message of the grace period gets
  through.
-/
theorem writes_terminating_iff (hRunning : input.signal = .running)
    (hPast : ∀ write ∈ writes, write.1 ≤ instant)
    (hFuture : ∀ timed ∈ events, instant < timed.time) :
    (∀ write ∈ (runBridge env events ⟨.terminating deadline, input, writes⟩).writes,
      write.1 ≤ instant) ↔ Quiet env input (graceTurns deadline events) := by
  induction events generalizing input writes with
  | nil => simpa [runBridge, graceTurns, Quiet] using hPast
  | cons timed rest ih =>
    have hNow := hFuture timed mem_cons_self
    have hLater : ∀ later ∈ rest, instant < later.time :=
      fun later hMem =>
        hFuture later (mem_cons_of_mem _ hMem)
    rw [runBridge_cons]
    unfold graceTurns
    by_cases hExpired : deadline ≤ timed.time
    · rw [if_pos hExpired, bridgeStep_expired hExpired, runBridge_of_isFinal rfl]
      simpa [Quiet] using hPast
    rw [if_neg hExpired, bridgeStep_waiting (not_le.mp hExpired)]
    rcases timed with ⟨time, turn | _ | _ | _ | _⟩
    · dsimp only at hNow ⊢
      unfold relay Quiet
      rw [if_pos ⟨rfl, hRunning⟩]
      dsimp only [afterInput]
      rw [← forwardMessage_stdin_ne_iff hRunning, not_not]
      by_cases hSame : (forwardMessage env turn input).stdin = input.stdin
      · -- Nothing is written: go on, if the loop does.
        rw [writtenBy_eq_nil_iff.mpr hSame, append_nil]
        cases hSignal : (forwardMessage env turn input).signal with
        | running =>
          rw [ih hSignal hPast hLater]
          simp [hSame]
        | returned =>
          rw [writes_of_stopped (by simp [hSignal])]
          simpa [hSame] using hPast
        | raised =>
          rw [writes_of_stopped (by simp [hSignal])]
          simpa [hSame] using hPast
      · simp only [hSame, false_and, iff_false]
        exact not_le_of_written hNow hSame rest
    · rw [runBridge_of_isFinal rfl]
      simpa [Quiet] using hPast
    · exact ih hRunning hPast hLater
    · exact ih hRunning hPast hLater
    · exact ih hRunning hPast hLater

---- Before The Cancellation

theorem mem_writes_runBridge (hMem : write ∈ (runBridge env events state).writes) :
    write ∈ state.writes ∨ ∃ timed ∈ events, write.1 = timed.time := by
  induction events generalizing state with
  | nil => exact .inl hMem
  | cons timed rest ih =>
    rcases ih hMem with hStep | ⟨later, hLater, hTime⟩
    · rcases mem_writes_bridgeStep hStep with hOld | hNow
      · exact .inl hOld
      · exact .inr ⟨timed, mem_cons_self, hNow⟩
    · exact .inr ⟨later, mem_cons_of_mem _ hLater, hTime⟩

theorem input_of_stopped (hStopped : state.input.signal ≠ .running) (events : List TimedEvent) :
    (runBridge env events state).input = state.input := by
  induction events generalizing state with
  | nil => rfl
  | cons timed rest ih =>
    have hStep := @bridgeStep_of_stopped env _ hStopped timed
    rw [runBridge_cons, ih (hStep.1 ▸ hStopped), hStep.1]

def BridgeState.Settled (state : BridgeState) : Prop :=
  state.phase.isFinal = true ∨ state.input.signal ≠ .running

theorem writes_of_settled {state : BridgeState} (hSettled : state.Settled)
    (events : List TimedEvent) : (runBridge env events state).writes = state.writes := by
  rcases hSettled with hFinal | hStopped
  · rw [runBridge_of_isFinal hFinal]
  · exact writes_of_stopped hStopped events

theorem settled_runBridge (hSettled : state.Settled) (events : List TimedEvent) :
    (runBridge env events state).Settled := by
  rcases hSettled with hFinal | hStopped
  · rw [runBridge_of_isFinal hFinal]
    exact .inl hFinal
  · refine .inr ?_
    rw [input_of_stopped hStopped]
    exact hStopped

/- Without a cancellation, a bridge relays until its first stop, and then writes nothing more. -/
theorem runBridge_relaying_cases
    (hRunning : input.signal = .running) (hUnset : ∀ timed ∈ events, timed.isCancel = false) :
    (firstStop env input events = none ∧ (inputAfter env input events).signal = .running ∧
      ∃ writes', runBridge env events ⟨.relaying, input, writes⟩ =
        ⟨.relaying, inputAfter env input events, writes'⟩) ∨
      (firstStop env input events ≠ none ∧
        (runBridge env events ⟨.relaying, input, writes⟩).Settled) := by
  induction events generalizing input writes with
  | nil => exact .inl ⟨rfl, hRunning, writes, rfl⟩
  | cons timed rest ih =>
    have hRest : ∀ later ∈ rest, later.isCancel = false :=
      fun later hMem =>
        hUnset later (mem_cons_of_mem _ hMem)
    rw [runBridge_cons]
    unfold firstStop inputAfter
    rcases timed with ⟨time, turn | _ | _ | _ | _⟩
    · rw [bridgeStep_message hRunning]
      dsimp only
      cases hSignal : (forwardMessage env turn input).signal with
      | running => exact ih hSignal hRest
      | returned =>
        refine .inr ⟨by simp, ?_⟩
        exact settled_runBridge (.inr (by simp [hSignal])) rest
      | raised =>
        refine .inr ⟨by simp, ?_⟩
        exact settled_runBridge (.inl rfl) rest
    · refine .inr ⟨by simp, ?_⟩
      exact settled_runBridge (.inl rfl) rest
    · have hNot := hUnset _ mem_cons_self
      exact absurd hNot.symm Bool.false_ne_true
    · exact ih hRunning hRest
    · exact ih hRunning hRest

---- Termination

/- Nothing more is written, and the bridge returns within three seconds and some slack. -/
def TerminationEffective (slack : Int) (run : CancelledRun) (outcome : BridgeOutcome) : Prop :=
  (∀ write ∈ outcome.writes, write.1 ≤ run.setAt) ∧
    ∃ ended, outcome.endedAt = some ended ∧ ended ≤ run.setAt + terminationTimeout + slack

/- If the bridge still relays, no message of the three seconds that follow gets through. -/
def ClientQuiet (env : InputEnv) (run : CancelledRun) : Prop :=
  firstStop env initial run.before = none → Quiet env (inputAfter env initial run.before)
      (graceTurns (run.seenAt + terminationTimeout) run.after)

theorem runBridge_append (first second : List TimedEvent) (state : BridgeState) :
    runBridge env (first ++ second) state = runBridge env second (runBridge env first state) :=
  foldl_append

theorem writes_cancelled_iff (run : CancelledRun) :
    (∀ write ∈ (runBridge env run.schedule.events BridgeState.initial).writes,
      write.1 ≤ run.setAt) ↔ ClientQuiet env run := by
  have hBefore :
    ∀ write ∈ (runBridge env run.before BridgeState.initial).writes, write.1 ≤ run.setAt := by
    intro write hMem
    rcases mem_writes_runBridge hMem with hNone | ⟨timed, hTimed, hTime⟩
    · exact absurd hNone not_mem_nil
    · have hLt := run.time_lt_setAt hTimed
      omega
  unfold CancelledRun.schedule ClientQuiet
  rw [runBridge_append]
  rcases @runBridge_relaying_cases env initial [] run.before rfl run.unset with
    ⟨hNone, hRunning, writes, hRun⟩ | ⟨hSome, hSettled⟩
  · have hStart : runBridge env run.before BridgeState.initial =
    ⟨.relaying, inputAfter env initial run.before, writes⟩ :=
    hRun
    rw [hStart] at hBefore ⊢
    have hAfter := @writes_terminating_iff env _ (run.seenAt + terminationTimeout) writes run.setAt
      run.after hRunning hBefore
      (fun _ hMem => run.setAt_lt_time hMem)
    refine hAfter.trans ?_
    simp [hNone]
  · have hWrites := @writes_of_settled env _ hSettled (⟨run.seenAt, .cancel⟩ :: run.after)
    unfold BridgeState.initial at hBefore ⊢
    rw [hWrites]
    exact iff_of_true hBefore (fun hNone => absurd hNone hSome)

/-
  A termination is effective and bounded exactly if nothing the client sends in the grace period
  gets through, and the set up, the process and both output streams end in time.
-/
theorem termination_effective_iff (env : InputEnv) (run : CancelledRun) (slack : Int) :
    TerminationEffective slack run (bridgeSsh env run.envelope run.setup run.schedule) ↔
      OverBy env run.envelope run.setup run.schedule (run.setAt + terminationTimeout + slack) ∧
        (setUp run.envelope run.setup = .ok () → ClientQuiet env run) := by
  unfold TerminationEffective
  rw [ended_bridgeSsh_iff, and_comm]
  apply and_congr_right
  unfold bridgeSsh
  cases hSetUp : setUp run.envelope run.setup with
  | error time => simp
  | ok _ =>
    rw [writes_cancelled_iff]
    simp

/- Cancelled after five seconds; the target ignores the signals, and the client sends a command. -/
def sampleCancelled : CancelledRun where
  envelope := sampleEnvelope
  setup := sampleSetup
  readyAt := 1
  setAt := 5000000
  before := []
  after := [⟨6000000, .message (inputTurn "ls\r")⟩]
  ordered := by simp [InOrder]
  ready := by simp
  unset := by simp

/- The command is written, and the bridge never returns. -/
theorem cancelled_bridge_goes_on : bridgeSsh sampleInputEnv sampleCancelled.envelope
    sampleCancelled.setup sampleCancelled.schedule = ⟨[(6000000, "ls\r")], none⟩ ∧
    ∀ slack, ¬ TerminationEffective slack sampleCancelled
      (bridgeSsh sampleInputEnv sampleCancelled.envelope sampleCancelled.setup
        sampleCancelled.schedule) := by
  have hRun : bridgeSsh sampleInputEnv sampleCancelled.envelope
    sampleCancelled.setup sampleCancelled.schedule = ⟨[(6000000, "ls\r")], none⟩ := by
    rfl
  refine ⟨hRun, ?_⟩
  rw [hRun]
  rintro slack ⟨_, ended, hEnded, _⟩
  simp at hEnded

end PamOlive.Gateway
