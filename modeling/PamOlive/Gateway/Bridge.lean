import PamOlive.Api.Gateway
import PamOlive.Gateway.CommandControl

/-
  The event loop of an SSH bridge, with its clock.

  `bridge_ssh` waits until the input loop ends, the process exits, or the session is cancelled. It
  then ends the process, with three seconds of patience, stops the input loop, and waits for both
  output streams. A schedule holds what happens, in order of time; none of it comes from the expiry
  of the session, which the bridge does not look at.
-/

---- Events

namespace PamOlive.Gateway

open Foundations Api List

inductive BridgeEvent where
  | message (turn : Turn)
  | remoteExit | cancel | stdoutDone | stderrDone

structure TimedEvent where
  time : Int
  event : BridgeEvent

def InOrder (events : List TimedEvent) : Prop :=
  events.Pairwise (fun first second => first.time < second.time)

structure Schedule where
  events : List TimedEvent
  ordered : InOrder events

/-
  How the connection is set up: when it stands, and when the connection, the host key callback or
  the new process raise, if they do.
-/
structure BridgeSetup where
  startedAt : Int
  connected : Except Int Int
  hasHostKeyCallback : Bool
  hostKey : Except Int Unit
  process : Except Int Unit

---- The Event Loop

/-
  Relaying, waiting for the process until a deadline, waiting for the output streams since an
  instant, or left by an exception.
-/
inductive BridgePhase where
  | relaying
  | terminating (deadline : Int)
  | draining (since : Int)
  | failed (time : Int)
deriving DecidableEq

open BridgePhase

/- The bridge, and what it wrote to the process, and when. -/
structure BridgeState where
  phase : BridgePhase
  input : InputState
  writes : List (Int × Text)

def BridgeState.initial : BridgeState where
  phase := .relaying
  input := InputState.initial
  writes := []

/- The patience of `wait_for(wait_task, timeout=3)`. -/
def terminationTimeout : Int := seconds 3

def BridgePhase.expire (time : Int) : BridgePhase → BridgePhase
| .terminating deadline =>
  if deadline ≤ time then .draining deadline
  else .terminating deadline
| phase => phase

def BridgePhase.afterInput (time : Int) : BridgePhase → Signal → BridgePhase
| .relaying, .running => .relaying
| .relaying, .returned => .terminating (time + terminationTimeout)
| .relaying, .raised => .failed time
| phase, _ => phase

def BridgePhase.afterExit (time : Int) : BridgePhase → BridgePhase
| .relaying => .draining time
| .terminating _ => .draining time
| phase => phase

def BridgePhase.afterCancel (time : Int) : BridgePhase → BridgePhase
| .relaying => .terminating (time + terminationTimeout)
| phase => phase

/- The input loop is cancelled once the process has ended. -/
def BridgePhase.takesInput : BridgePhase → Bool
| .relaying => true
| .terminating _ => true
| _ => false

def writtenBy (time : Int) (before after : InputState) : List (Int × Text) :=
  if after.stdin = before.stdin then []
  else [(time, after.stdin.drop before.stdin.length)]

def relay (env : InputEnv) (time : Int) (turn : Turn) (state : BridgeState) : BridgeState :=
  if state.phase.takesInput = true ∧ state.input.signal = .running then
    let input := forwardMessage env turn state.input
    { phase := state.phase.afterInput time input.signal
      input := input
      writes := state.writes ++ writtenBy time state.input input }
  else state

def bridgeStep (env : InputEnv) (state : BridgeState) (timed : TimedEvent) : BridgeState :=
  let state := { state with phase := state.phase.expire timed.time }
  match timed.event with
  | .message turn => relay env timed.time turn state
  | .remoteExit =>
    { state with phase := state.phase.afterExit timed.time }
  | .cancel =>
    { state with phase := state.phase.afterCancel timed.time }
  | .stdoutDone => state
  | .stderrDone => state

def runBridge (env : InputEnv) (events : List TimedEvent) (state : BridgeState) : BridgeState :=
  events.foldl (bridgeStep env) state

---- The Bridge

def TimedEvent.isStdoutDone (timed : TimedEvent) : Bool :=
  match timed.event with
  | .stdoutDone => true
  | _ => false

def TimedEvent.isStderrDone (timed : TimedEvent) : Bool :=
  match timed.event with
  | .stderrDone => true
  | _ => false

def TimedEvent.isExit (timed : TimedEvent) : Bool :=
  match timed.event with
  | .remoteExit => true
  | _ => false

def firstTime (kind : TimedEvent → Bool) (events : List TimedEvent) : Option Int :=
  (events.find? kind).map TimedEvent.time

/- When both output streams are done as well. -/
def drainedAt (since : Int) (events : List TimedEvent) : Option Int :=
  match firstTime TimedEvent.isStdoutDone events, firstTime TimedEvent.isStderrDone events with
  | some stdout, some stderr => some (max since (max stdout stderr))
  | _, _ => none

def endedAt (events : List TimedEvent) : BridgePhase → Option Int
| .relaying => none
| .terminating deadline => drainedAt deadline events
| .draining since => drainedAt since events
| .failed time => some time

structure BridgeOutcome where
  writes : List (Int × Text)
  endedAt : Option Int

def knownHostsOf : EnvelopeDetails → Text
| .ssh knownHosts _ _ _ => knownHosts
| .rdp _ _ _ _ _ _ _ => []

def hostKeyPolicyOf : EnvelopeDetails → Text
| .ssh _ hostKeyPolicy _ _ => hostKeyPolicy
| .rdp _ _ _ _ _ _ _ => []

/- The part before the tasks start, or when it raises. -/
def setUp (envelope : Envelope) (setup : BridgeSetup) : Except Int Unit := do
  require (envelope.protocol = "ssh") setup.startedAt
  let connectedAt ← setup.connected
  if knownHostsOf envelope.details = [] then
    require (hostKeyPolicyOf envelope.details = "tofu" ∧ setup.hasHostKeyCallback = true)
      connectedAt
    setup.hostKey
  setup.process

def bridgeSsh (env : InputEnv) (envelope : Envelope) (setup : BridgeSetup)
    (schedule : Schedule) : BridgeOutcome :=
  match setUp envelope setup with
  | .error time => ⟨[], some time⟩
  | .ok _ =>
    let final := runBridge env schedule.events BridgeState.initial
    ⟨final.writes, endedAt schedule.events final.phase⟩

---- The First Stop

variable {env : InputEnv}

/- Why a bridge stops: the process exited, it has to be asked to, or the input loop raised. -/
inductive StopKind where
  | exited | asked | raised
deriving DecidableEq

structure FirstStop where
  time : Int
  kind : StopKind
  rest : List TimedEvent

def firstStop (env : InputEnv) : InputState → List TimedEvent → Option FirstStop
| _, [] => none
| input, timed :: rest =>
  match timed.event with
  | .remoteExit => some ⟨timed.time, .exited, rest⟩
  | .cancel => some ⟨timed.time, .asked, rest⟩
  | .message turn =>
    match (forwardMessage env turn input).signal with
    | .running => firstStop env (forwardMessage env turn input) rest
    | .returned => some ⟨timed.time, .asked, rest⟩
    | .raised => some ⟨timed.time, .raised, rest⟩
  | _ => firstStop env input rest

/- Some event of a kind happens by an instant. -/
def HappensBy (kind : TimedEvent → Bool) (instant : Int) (events : List TimedEvent) : Prop :=
  ∃ timed ∈ events, kind timed = true ∧ timed.time ≤ instant

/- A stop in time: the process ends in time when it is asked to, and so do the output streams. -/
def FirstStop.EndsBy (stop : FirstStop) (streams : List TimedEvent) (instant : Int) : Prop :=
  stop.time ≤ instant ∧ (stop.kind = .asked →
    stop.time + terminationTimeout ≤ instant ∨ HappensBy TimedEvent.isExit instant stop.rest) ∧
    (stop.kind ≠ .raised → HappensBy TimedEvent.isStdoutDone instant streams ∧
      HappensBy TimedEvent.isStderrDone instant streams)

/- Something else than the clock ends the bridge in time. -/
def EndsBy (env : InputEnv) (schedule : Schedule) (instant : Int) : Prop :=
  ∃ stop, firstStop env InputState.initial schedule.events = some stop ∧
    stop.EndsBy schedule.events instant

---- Ending

variable {timed : TimedEvent} {rest events : List TimedEvent} {instant since : Int}
variable {kind : TimedEvent → Bool} {state : BridgeState} {input : InputState}

theorem inOrder_cons_iff :
    InOrder (timed :: rest) ↔ (∀ later ∈ rest, timed.time < later.time) ∧ InOrder rest :=
  pairwise_cons

theorem firstTime_le_iff (hOrdered : InOrder events) :
    (∃ time, firstTime kind events = some time ∧ time ≤ instant) ↔
      HappensBy kind instant events := by
  unfold firstTime HappensBy
  induction events with
  | nil => simp
  | cons timed rest ih =>
    rw [inOrder_cons_iff] at hOrdered
    cases hKind : kind timed with
    | true =>
      rw [find?_cons_of_pos hKind]
      constructor
      · rintro ⟨time, hTime, hLe⟩
        cases hTime
        exact ⟨timed, mem_cons_self, hKind, hLe⟩
      · rintro ⟨other, hOther, _, hLe⟩
        refine ⟨timed.time, rfl, ?_⟩
        rcases mem_cons.mp hOther with rfl | hLater
        · exact hLe
        · have hBefore := hOrdered.1 other hLater
          omega
    | false =>
      rw [find?_cons_of_neg (by simp [hKind]), ih hOrdered.2]
      constructor
      · rintro ⟨other, hOther, hOk⟩
        exact ⟨other, mem_cons_of_mem _ hOther, hOk⟩
      · rintro ⟨other, hOther, hOk⟩
        rcases mem_cons.mp hOther with rfl | hLater
        · rw [hKind] at hOk
          exact absurd hOk.1 Bool.false_ne_true
        · exact ⟨other, hLater, hOk⟩

theorem drainedAt_le_iff (hOrdered : InOrder events) :
    (∃ time, drainedAt since events = some time ∧ time ≤ instant) ↔ since ≤ instant ∧
      HappensBy TimedEvent.isStdoutDone instant events ∧ HappensBy TimedEvent.isStderrDone instant
        events := by
  rw [← firstTime_le_iff hOrdered, ← firstTime_le_iff hOrdered]
  unfold drainedAt
  cases firstTime TimedEvent.isStdoutDone events with
  | none => simp
  | some stdout =>
    cases firstTime TimedEvent.isStderrDone events with
    | none => simp
    | some stderr =>
      simp only [Option.some.injEq, exists_eq_left']
      omega

def BridgePhase.isFinal : BridgePhase → Bool
| .draining _ => true
| .failed _ => true
| _ => false

theorem bridgeStep_of_isFinal (hFinal : state.phase.isFinal = true) (timed : TimedEvent) :
    bridgeStep env state timed = state := by
  rcases state with ⟨phase, input, writes⟩
  rcases timed with ⟨time, turn | _ | _ | _ | _⟩
  · cases phase <;> simp_all [bridgeStep, relay, expire, takesInput, isFinal]
  all_goals
    cases phase <;> first | rfl | simp [isFinal] at hFinal

theorem runBridge_cons (timed : TimedEvent) (rest : List TimedEvent) (state : BridgeState) :
    runBridge env (timed :: rest) state = runBridge env rest (bridgeStep env state timed) :=
  rfl

theorem runBridge_of_isFinal (hFinal : state.phase.isFinal = true) (events : List TimedEvent) :
    runBridge env events state = state := by
  induction events with
  | nil => rfl
  | cons timed rest ih =>
    rw [runBridge_cons, bridgeStep_of_isFinal hFinal]
    exact ih

variable {deadline : Int}

theorem bridgeStep_terminating (hPhase : state.phase = .terminating deadline) (timed : TimedEvent) :
    (bridgeStep env state timed).phase =
      if deadline ≤ timed.time then .draining deadline
      else if timed.isExit = true then .draining timed.time
      else .terminating deadline := by
  rcases state with ⟨phase, input, writes⟩
  subst hPhase
  rcases timed with ⟨time, turn | _ | _ | _ | _⟩
  · unfold bridgeStep relay
    dsimp only [expire, TimedEvent.isExit]
    by_cases hExpired : deadline ≤ time
    · simp [hExpired, takesInput]
    · simp only [hExpired, if_false, Bool.false_eq_true]
      split <;> rfl
  · by_cases hExpired : deadline ≤ time
    · simp [bridgeStep, expire, hExpired, afterExit]
    · simp [bridgeStep, expire, hExpired, afterExit, TimedEvent.isExit]
  · by_cases hExpired : deadline ≤ time
    · simp [bridgeStep, expire, hExpired, afterCancel]
    · simp [bridgeStep, expire, hExpired, afterCancel, TimedEvent.isExit]
  · rfl
  · rfl

theorem happensBy_cons_iff : HappensBy kind instant (timed :: rest) ↔
    (kind timed = true ∧ timed.time ≤ instant) ∨ HappensBy kind instant rest := by
  unfold HappensBy
  simp

theorem le_of_happensBy (hOrdered : ∀ later ∈ rest, timed.time < later.time)
    (hHappens : HappensBy kind instant rest) : timed.time ≤ instant := by
  rcases hHappens with ⟨later, hLater, _, hLe⟩
  have hBefore := hOrdered later hLater
  omega

theorem endedAt_draining (hPhase : state.phase = .draining since)
    (events streams : List TimedEvent) :
    endedAt streams (runBridge env events state).phase = drainedAt since streams := by
  have hFinal : state.phase.isFinal = true := by
    rw [hPhase]
    rfl
  rw [runBridge_of_isFinal hFinal, hPhase]
  rfl

/- A waiting bridge drains from the deadline on, or from an earlier exit of the process. -/
theorem runBridge_terminating
    (hPhase : state.phase = .terminating deadline) (hOrdered : InOrder events) :
    ∃ since, (∀ streams,
      endedAt streams (runBridge env events state).phase = drainedAt since streams) ∧
      ∀ instant, since ≤ instant ↔ deadline ≤ instant ∨ HappensBy TimedEvent.isExit instant
        events := by
  induction events generalizing state with
  | nil =>
    refine ⟨deadline, ?_, ?_⟩
    · intro streams
      unfold runBridge
      rw [foldl_nil, hPhase]
      rfl
    · simp [HappensBy]
  | cons timed rest ih =>
    rw [inOrder_cons_iff] at hOrdered
    simp only [happensBy_cons_iff]
    have hStep := @bridgeStep_terminating env _ _ hPhase timed
    by_cases hExpired : deadline ≤ timed.time
    · rw [if_pos hExpired] at hStep
      refine ⟨deadline, endedAt_draining hStep rest, ?_⟩
      intro instant
      constructor
      · exact Or.inl
      · rintro (hLe | hExit | hLater)
        · exact hLe
        · omega
        · have hLe := le_of_happensBy hOrdered.1 hLater
          omega
    · rw [if_neg hExpired] at hStep
      cases hExit : timed.isExit with
      | true =>
        rw [hExit, if_pos rfl] at hStep
        refine ⟨timed.time, endedAt_draining hStep rest, ?_⟩
        intro instant
        constructor
        · intro hLe
          exact .inr (.inl ⟨rfl, hLe⟩)
        · rintro (hLe | hNow | hLater)
          · omega
          · exact hNow.2
          · exact le_of_happensBy hOrdered.1 hLater
      | false =>
        rw [hExit, if_neg Bool.false_ne_true] at hStep
        rcases ih hStep hOrdered.2 with ⟨since, hEnded, hSince⟩
        refine ⟨since, hEnded, ?_⟩
        intro instant
        rw [hSince instant]
        simp

variable {streams : List TimedEvent}

theorem endedAt_asked_iff (hPhase : state.phase = .terminating (timed.time + terminationTimeout))
    (hOrdered : InOrder (timed :: rest)) (hStreams : InOrder streams) :
    (∃ ended, endedAt streams (runBridge env rest state).phase = some ended ∧ ended ≤ instant) ↔
      FirstStop.EndsBy ⟨timed.time, .asked, rest⟩ streams instant := by
  rw [inOrder_cons_iff] at hOrdered
  rcases @runBridge_terminating env _ _ _ hPhase hOrdered.2 with ⟨since, hEnded, hSince⟩
  rw [hEnded, drainedAt_le_iff hStreams, hSince]
  unfold FirstStop.EndsBy
  dsimp only
  constructor
  · rintro ⟨hEnds, hDone⟩
    refine ⟨?_, fun _ => hEnds, fun _ => hDone⟩
    rcases hEnds with hLe | hExit
    · have hPositive : 0 ≤ terminationTimeout := by decide
      omega
    · exact le_of_happensBy hOrdered.1 hExit
  · rintro ⟨_, hEnds, hDone⟩
    exact ⟨hEnds rfl, hDone (by simp)⟩

theorem bridgeStep_message (hRunning : input.signal = .running) (time : Int) (turn : Turn)
    (writes : List (Int × Text)) :
    bridgeStep env ⟨.relaying, input, writes⟩ ⟨time, .message turn⟩ =
      ⟨relaying.afterInput time (forwardMessage env turn input).signal,
        forwardMessage env turn input,
        writes ++ writtenBy time input (forwardMessage env turn input)⟩ := by
  exact if_pos ⟨rfl, hRunning⟩

variable {writes : List (Int × Text)}

/- A relaying bridge ends by an instant exactly when its first stop comes in time. -/
theorem endedAt_relaying_iff
    (hRunning : input.signal = .running) (hOrdered : InOrder events) (hStreams : InOrder streams) :
    (∃ ended, endedAt streams (runBridge env events ⟨.relaying, input, writes⟩).phase = some ended ∧
      ended ≤ instant) ↔
      ∃ stop, firstStop env input events = some stop ∧ stop.EndsBy streams instant := by
  induction events generalizing input writes with
  | nil => simp [runBridge, endedAt, firstStop]
  | cons timed rest ih =>
    have hRest := (inOrder_cons_iff.mp hOrdered).2
    rw [runBridge_cons]
    rcases timed with ⟨time, turn | _ | _ | _ | _⟩
    · rw [bridgeStep_message hRunning]
      unfold firstStop
      dsimp only
      cases hSignal : (forwardMessage env turn input).signal with
      | running => exact ih hSignal hRest
      | returned =>
        simp only [Option.some.injEq, exists_eq_left']
        exact endedAt_asked_iff rfl hOrdered hStreams
      | raised =>
        rw [runBridge_of_isFinal rfl]
        simp [afterInput, endedAt, FirstStop.EndsBy]
    · have hStep :
      (bridgeStep env ⟨.relaying, input, writes⟩ ⟨time, .remoteExit⟩).phase = .draining time :=
      rfl
      rw [endedAt_draining hStep, drainedAt_le_iff hStreams]
      simp [firstStop, FirstStop.EndsBy]
    · unfold firstStop
      simp only [Option.some.injEq, exists_eq_left']
      exact endedAt_asked_iff rfl hOrdered hStreams
    · exact ih hRunning hRest
    · exact ih hRunning hRest

---- Writing

variable {faults : Faults} {text : Text}

open InputState in
theorem stdin_forwardText_of_stopped {state : InputState}
    (hStopped : (forwardText faults text state).signal ≠ .running) :
    (forwardText faults text state).stdin = state.stdin := by
  have hRecord := sameLine_record faults .input text state
  unfold forwardText InputState.andThen at hStopped ⊢
  cases hSignal : (state.record faults .input text).signal with
  | running =>
    simp only [hSignal] at hStopped ⊢
    unfold writeStdin at hStopped ⊢
    split
    · exact hRecord.1
    · rename_i hWrites
      simp [hWrites, hSignal] at hStopped
  | returned => exact hRecord.1
  | raised => exact hRecord.1

theorem stdin_terminalInput_of_stopped {state : InputState}
    (hStopped : (terminalInput env faults text state).signal ≠ .running) :
    (terminalInput env faults text state).stdin = state.stdin := by
  revert hStopped
  unfold terminalInput
  dsimp only
  split
  · split
    · intro _
      exact (sameLine_denyCommand _ _ _).1
    · unfold InputState.andThen
      split
      · intro hStopped
        exact (stdin_forwardText_of_stopped hStopped).trans (sameLine_alertCommand _ _ _).1
      · intro _
        exact (sameLine_alertCommand _ _ _).1
  · exact stdin_forwardText_of_stopped

variable {turn : Turn} {write : Int × Text} {ended : Int}

section

variable (hStopped : (forwardMessage env turn input).signal ≠ .running)

include hStopped

theorem stdin_forwardMessage_of_stopped : (forwardMessage env turn input).stdin = input.stdin := by
  revert hStopped
  unfold forwardMessage
  split
  · exact fun _ => rfl
  · exact fun _ => rfl
  · exact fun _ => rfl
  · exact stdin_terminalInput_of_stopped
  · exact fun _ => (sameLine_terminalResize _ _ _).1

variable {time : Int}

theorem writtenBy_of_stopped : writtenBy time input (forwardMessage env turn input) = [] :=
  if_pos (stdin_forwardMessage_of_stopped hStopped)

end

theorem time_of_mem_writtenBy {before after : InputState}
    (hMem : write ∈ writtenBy time before after) : write.1 = time := by
  unfold writtenBy at hMem
  split at hMem
  · simp at hMem
  · rw [mem_singleton] at hMem
    rw [hMem]

/- Nothing is written from the instant of a phase on. -/
def BridgePhase.Bounds (writes : List (Int × Text)) : BridgePhase → Prop
| .relaying => True
| .terminating deadline => ∀ write ∈ writes, write.1 < deadline
| .draining since => ∀ write ∈ writes, write.1 < since
| .failed time => ∀ write ∈ writes, write.1 < time

/- The writes so far come before the events to come, and the phase bounds them. -/
structure Written (events : List TimedEvent) (state : BridgeState) : Prop where
  past : ∀ write ∈ state.writes, ∀ timed ∈ events, write.1 < timed.time
  bounded : state.phase.Bounds state.writes

theorem mem_writes_relay (hMem : write ∈ (relay env time turn state).writes) :
    write ∈ state.writes ∨ write.1 = time := by
  unfold relay at hMem
  split at hMem
  · rcases mem_append.mp hMem with hOld | hNew
    · exact .inl hOld
    · exact .inr (time_of_mem_writtenBy hNew)
  · exact .inl hMem

theorem mem_writes_bridgeStep (hMem : write ∈ (bridgeStep env state timed).writes) :
    write ∈ state.writes ∨ write.1 = timed.time := by
  rcases timed with ⟨time, turn | _ | _ | _ | _⟩
  · change write ∈ (relay env time turn { state with phase := state.phase.expire time }).writes
    at hMem
    have hCases := mem_writes_relay hMem
    exact hCases
  · exact .inl hMem
  · exact .inl hMem
  · exact .inl hMem
  · exact .inl hMem

variable {phase : BridgePhase}

section

variable (hBounds : phase.Bounds writes)

include hBounds

theorem BridgePhase.Bounds.expire (time : Int) : (phase.expire time).Bounds writes := by
  cases phase with
  | terminating deadline =>
    dsimp only [expire]
    split <;> exact hBounds
  | _ => exact hBounds

theorem BridgePhase.Bounds.afterExit
    (hPast : ∀ write ∈ writes, write.1 < time) : (phase.afterExit time).Bounds writes := by
  cases phase with
  | relaying => exact hPast
  | terminating deadline => exact hPast
  | draining since => exact hBounds
  | failed instant => exact hBounds

theorem BridgePhase.Bounds.afterCancel
    (hPast : ∀ write ∈ writes, write.1 ≤ time) : (phase.afterCancel time).Bounds writes := by
  cases phase with
  | relaying =>
    intro write hWrite
    have hLe := hPast write hWrite
    unfold terminationTimeout seconds
    omega
  | _ => exact hBounds

end

theorem lt_of_expire_eq_terminating
    (hPhase : phase.expire time = .terminating deadline) : time < deadline := by
  cases phase with
  | terminating limit =>
    dsimp only [expire] at hPhase
    split at hPhase
    · simp at hPhase
    · injection hPhase with hLimit
      omega
  | _ => simp [expire] at hPhase

/- A message that raises writes nothing; any other write comes before the deadline. -/
theorem bounds_relay (hPast : ∀ write ∈ state.writes, write.1 < time)
    (hBounds : state.phase.Bounds state.writes)
    (hTimer : ∀ deadline, state.phase = .terminating deadline → time < deadline) :
    (relay env time turn state).phase.Bounds (relay env time turn state).writes := by
  have hWrites : ∀ write ∈ (relay env time turn state).writes, write.1 ≤ time := by
    intro write hWrite
    rcases mem_writes_relay hWrite with hOld | hNew
    · exact (hPast write hOld).le
    · exact hNew.le
  unfold relay at hWrites ⊢
  split
  · rename_i hTakes
    rw [if_pos hTakes] at hWrites
    dsimp only at hWrites ⊢
    cases hPhase : state.phase with
    | relaying =>
      cases hSignal : (forwardMessage env turn state.input).signal with
      | running => trivial
      | returned =>
        intro write hWrite
        have hLe := hWrites write hWrite
        unfold terminationTimeout seconds
        omega
      | raised =>
        rw [writtenBy_of_stopped (by simp [hSignal]), append_nil]
        exact hPast
    | terminating deadline =>
      intro write hWrite
      have hLe := hWrites write hWrite
      have hLt := hTimer deadline hPhase
      omega
    | draining since => simp [hPhase, takesInput] at hTakes
    | failed instant => simp [hPhase, takesInput] at hTakes
  · exact hBounds

theorem Written.step (hOrdered : ∀ later ∈ rest, timed.time < later.time)
    (hWritten : Written (timed :: rest) state) : Written rest (bridgeStep env state timed) := by
  have hPast : ∀ write ∈ state.writes, write.1 < timed.time :=
    fun write hWrite =>
      hWritten.past write hWrite timed mem_cons_self
  have hExpired := hWritten.bounded.expire timed.time
  constructor
  · intro write hWrite later hLater
    rcases mem_writes_bridgeStep hWrite with hOld | hNew
    · exact hWritten.past write hOld later (mem_cons_of_mem _ hLater)
    · rw [hNew]
      exact hOrdered later hLater
  · rcases timed with ⟨time, turn | _ | _ | _ | _⟩
    · exact bounds_relay hPast hExpired (fun _ => lt_of_expire_eq_terminating)
    · exact hExpired.afterExit hPast
    · exact hExpired.afterCancel (fun write hWrite => (hPast write hWrite).le)
    · exact hExpired
    · exact hExpired

theorem Written.run (hOrdered : InOrder events)
    (hWritten : Written events state) : Written [] (runBridge env events state) := by
  induction events generalizing state with
  | nil => exact hWritten
  | cons timed rest ih =>
    rw [inOrder_cons_iff] at hOrdered
    exact ih hOrdered.2 (hWritten.step hOrdered.1)

theorem since_le_drainedAt (hEnded : drainedAt since events = some ended) : since ≤ ended := by
  unfold drainedAt at hEnded
  split at hEnded
  · injection hEnded with hEnded
    omega
  · simp at hEnded

theorem lt_of_endedAt (hBounds : phase.Bounds writes)
    (hEnded : endedAt events phase = some ended) : ∀ write ∈ writes, write.1 < ended := by
  intro write hWrite
  cases phase with
  | relaying => simp [endedAt] at hEnded
  | terminating deadline => exact lt_of_lt_of_le (hBounds write hWrite) (since_le_drainedAt hEnded)
  | draining since => exact lt_of_lt_of_le (hBounds write hWrite) (since_le_drainedAt hEnded)
  | failed time =>
    injection hEnded with hEnded
    rw [← hEnded]
    exact hBounds write hWrite

---- Duration

/- Nothing is written from the expiry of the session on, and the bridge has ended then. -/
def DurationEnforced (envelope : Envelope) (outcome : BridgeOutcome) : Prop :=
  ∀ expires, envelope.expiresAt = some expires → (∀ write ∈ outcome.writes, write.1 < expires) ∧
    ∃ ended, outcome.endedAt = some ended ∧ ended ≤ expires

/- The bridge is over by an instant, for whatever reason. -/
def OverBy (env : InputEnv) (envelope : Envelope) (setup : BridgeSetup) (schedule : Schedule)
    (instant : Int) : Prop :=
  match setUp envelope setup with
  | .error time => time ≤ instant
  | .ok _ => EndsBy env schedule instant

theorem written_initial (events : List TimedEvent) : Written events BridgeState.initial where
  past := by simp [BridgeState.initial]
  bounded := trivial

variable {envelope : Envelope} {setup : BridgeSetup} {schedule : Schedule}

theorem ended_bridgeSsh_iff :
    (∃ ended, (bridgeSsh env envelope setup schedule).endedAt = some ended ∧ ended ≤ instant) ↔
      OverBy env envelope setup schedule instant := by
  unfold bridgeSsh OverBy
  cases setUp envelope setup with
  | error time => simp
  | ok _ => exact endedAt_relaying_iff rfl schedule.ordered schedule.ordered

theorem writes_lt_of_ended (hEnded : (bridgeSsh env envelope setup schedule).endedAt = some ended) :
    ∀ write ∈ (bridgeSsh env envelope setup schedule).writes, write.1 < ended := by
  unfold bridgeSsh at hEnded ⊢
  cases hSetUp : setUp envelope setup with
  | error time => simp
  | ok _ =>
    rw [hSetUp] at hEnded
    have hWritten : Written [] (runBridge env schedule.events BridgeState.initial) :=
      (written_initial schedule.events).run schedule.ordered
    exact lt_of_endedAt hWritten.bounded hEnded

/-
  The bridge reads no clock: the duration is enforced exactly when the client, the process or an
  administrator ends the session before its expiry.
-/
theorem duration_enforced_iff
    (env : InputEnv) (envelope : Envelope) (setup : BridgeSetup) (schedule : Schedule) :
    DurationEnforced envelope (bridgeSsh env envelope setup schedule) ↔
      ∀ expires, envelope.expiresAt = some expires →
        OverBy env envelope setup schedule expires := by
  apply forall_congr'
  intro expires
  apply imp_congr_right
  intro _
  rw [ended_bridgeSsh_iff]
  constructor
  · exact And.right
  · intro hOver
    rcases ended_bridgeSsh_iff.mpr hOver with ⟨ended, hEnded, hLe⟩
    refine ⟨?_, hOver⟩
    intro write hWrite
    exact lt_of_lt_of_le (writes_lt_of_ended hEnded write hWrite) hLe

def sampleEnvelope : Envelope where
  sessionId := []
  pamUserId := []
  protocol := "ssh"
  host := "host"
  port := 22
  username := "root"
  credentialKind := "password"
  secret := "secret"
  expiresAt := some 5
  leaseId := []
  details := .ssh "host ssh-ed25519 key" "strict" [] []

def sampleSetup : BridgeSetup where
  startedAt := 0
  connected := .ok 1
  hasHostKeyCallback := false
  hostKey := .ok ()
  process := .ok ()

def lateSchedule : Schedule where
  events := [⟨10, .message (inputTurn "ls\r")⟩]
  ordered := pairwise_singleton _ _

/- A command that arrives after the expiry is written. -/
theorem expired_session_accepts_input :
    bridgeSsh sampleInputEnv sampleEnvelope sampleSetup lateSchedule = ⟨[(10, "ls\r")], none⟩ ∧
      ¬ DurationEnforced sampleEnvelope
        (bridgeSsh sampleInputEnv sampleEnvelope sampleSetup lateSchedule) := by
  have hRun : bridgeSsh sampleInputEnv sampleEnvelope sampleSetup lateSchedule =
    ⟨[(10, "ls\r")], none⟩ := by
    rfl
  refine ⟨hRun, ?_⟩
  rw [hRun]
  intro hEnforced
  rcases hEnforced 5 rfl with ⟨_, ended, hEnded, _⟩
  simp at hEnded

end PamOlive.Gateway
