import PamOlive.Gateway.CommandControl

/-
  What a client can send without ending its session.

  `_forward_input` only handles a text that is no JSON. A payload without `get`, a size `int`
  refuses and a text with a lone surrogate all raise; other messages are skipped or processed.
-/

namespace PamOlive.Gateway

open Foundations InputState List

variable {env : InputEnv} {turn : Turn} {text : Text} {state : InputState}

def noFaults : Faults := ⟨false, false, false, false, false⟩

def Plain (text : Text) : Prop := ∀ point ∈ text, point.isSurrogate = false

theorem Plain.append {first second : Text} (hFirst : Plain first) (hSecond : Plain second) :
    Plain (first ++ second) := by
  intro point hPoint
  exact (mem_append.mp hPoint).elim (hFirst point) (hSecond point)

/- What a message must not do: disconnect, and raise on the way to its effect. -/
def Harmless (env : InputEnv) (turn : Turn) : Prop :=
  turn.faults = noFaults ∧
    match messageRequest env turn.message with
    | .stop => False
    | .fail => False
    | .ignore => True
    | .input text => Plain text
    | .resize payload => ((payload.get "cols" (.int 80)).bind (toInt env)).isSome = true ∧
        ((payload.get "rows" (.int 24)).bind (toInt env)).isSome = true

/- The coroutine runs, and what it may have to record of the pending command can be encoded. -/
structure Ready (state : InputState) : Prop where
  running : state.signal = .running
  pending : Plain state.pendingCommand

section

variable (hReady : Ready state)

include hReady

theorem Ready.andThen {next : InputState → InputState}
    (hNext : Ready (next state)) : Ready (state.andThen next) := by
  unfold InputState.andThen
  rw [hReady.running]
  exact hNext

theorem Ready.record (direction : Direction) (hText : Plain text) :
    Ready (state.record noFaults direction text) := by
  unfold InputState.record Text.encode
  rw [if_neg (by simpa [Plain] using hText)]
  exact ⟨hReady.running, hReady.pending⟩

theorem Ready.forwardText (hText : Plain text) : Ready (forwardText noFaults text state) := by
  have hRecorded := hReady.record .input hText
  exact hRecorded.andThen ⟨hRecorded.running, hRecorded.pending⟩

theorem Ready.notify (event : CommandEvent) : Ready (state.notify env noFaults event) := by
  unfold InputState.notify
  split
  · exact ⟨hReady.running, hReady.pending⟩
  · exact hReady

theorem Ready.sendDenied (env : InputEnv) : Ready (state.sendDenied env noFaults) := by
  unfold InputState.sendDenied
  split
  · exact ⟨hReady.running, hReady.pending⟩
  · exact hReady

theorem Ready.denyCommand {found : Inspection}
    (hCommand : Plain found.inspectedCommand) : Ready (denyCommand env noFaults found state) := by
  have hRecorded := hReady.record .commandDenied hCommand
  have hSent := hRecorded.andThen (hRecorded.sendDenied env)
  exact hSent.andThen (hSent.notify _)

end

theorem plain_of_mem_completedCommands {candidate command : Text} (hPlain : Plain candidate)
    (hCommand : command ∈ completedCommands candidate) : Plain command := by
  rcases mem_map.mp hCommand with ⟨segment, hSegment, rfl⟩
  intro point hPoint
  have hStripped : point ∈ segment := Text.mem_of_mem_strip hPoint
  rcases Lines.mem_of_mem_splitRunsFrom _ (mem_filter.mp hSegment).1 hStripped with hNone | hMem
  · exact absurd hNone not_mem_nil
  · exact hPlain point hMem

theorem plain_inspectedCommand {found : Inspection} {commands : List Text}
    (hFound : Plain found.inspectedCommand) (hCommands : ∀ command ∈ commands, Plain command) :
    Plain (inspectFrom env found commands).inspectedCommand := by
  induction commands generalizing found with
  | nil => exact hFound
  | cons command rest ih =>
    rw [forall_mem_cons] at hCommands
    unfold inspectFrom
    dsimp only
    split
    · exact hCommands.1
    · split
      · exact ih hFound hCommands.2
      · refine ih ?_ hCommands.2
        split
        · exact hCommands.1
        · exact hFound

theorem Ready.terminalInput (hReady : Ready state) (hText : Plain text) :
    Ready (terminalInput env noFaults text state) := by
  have hCandidate := hReady.pending.append hText
  have hEmpty : Ready { state with pendingCommand := [] } :=
    ⟨hReady.running, fun _ hPoint => absurd hPoint not_mem_nil⟩
  unfold Gateway.terminalInput
  dsimp only
  split
  · split
    · apply hEmpty.denyCommand
      apply plain_inspectedCommand (fun _ hPoint => absurd hPoint not_mem_nil)
      exact fun command hCommand => plain_of_mem_completedCommands hCandidate hCommand
    have hAlert : Ready (alertCommand env noFaults
      (inspectCommands env (completedCommands (state.pendingCommand ++ text)))
      { state with pendingCommand := [] }) := by
      unfold alertCommand
      split
      · exact hEmpty.notify _
      · exact hEmpty
    exact hAlert.andThen (hAlert.forwardText hText)
  · have hKept : Plain (lastPending (state.pendingCommand ++ text)) :=
      fun point hPoint => hCandidate point ((drop_suffix _ _).subset hPoint)
    generalize lastPending (state.pendingCommand ++ text) = pending at hKept ⊢
    exact Ready.forwardText ⟨hReady.running, hKept⟩ hText

theorem Ready.forwardMessage (hReady : Ready state) (hHarmless : Harmless env turn) :
    Ready (forwardMessage env turn state) := by
  rcases hHarmless with ⟨hFaults, hHarmless⟩
  unfold Gateway.forwardMessage
  rw [hFaults]
  cases hRequest : messageRequest env turn.message with
  | stop => simp [hRequest] at hHarmless
  | ignore => exact hReady
  | fail => simp [hRequest] at hHarmless
  | input text => exact hReady.terminalInput (by simpa [hRequest] using hHarmless)
  | resize payload =>
    simp only [hRequest, Option.isSome_iff_exists] at hHarmless
    rcases hHarmless with ⟨⟨cols, hCols⟩, rows, hRows⟩
    unfold terminalResize
    simp only [hCols, hRows]
    exact ⟨hReady.running, hReady.pending⟩

def isSkipped (env : InputEnv) (turn : Turn) : Bool :=
  match messageRequest env turn.message with
  | .ignore => true
  | _ => false

/- After any sequence of harmless messages the coroutine runs, as without those it skips. -/
theorem harmless_messages_survive (turns : List Turn)
    (hHarmless : ∀ turn ∈ turns, Harmless env turn) :
    ∃ state, state.signal = .running ∧ (inputSystem env).Run initial turns state ∧
      (inputSystem env).Run initial (turns.filter (fun turn => !isSkipped env turn)) state := by
  suffices hAny : ∀ before, Ready before → ∃ state, state.signal = .running ∧
      (inputSystem env).Run before turns state ∧
      (inputSystem env).Run before (turns.filter (fun turn => !isSkipped env turn)) state from
    hAny _ ⟨rfl, fun _ hPoint => absurd hPoint not_mem_nil⟩
  induction turns with
  | nil => exact fun before hReady => ⟨before, hReady.running, .nil _, .nil _⟩
  | cons turn rest ih =>
    intro before hReady
    rw [forall_mem_cons] at hHarmless
    rcases ih hHarmless.2 _ (hReady.forwardMessage hHarmless.1) with ⟨state, hRunning, hAll, hKept⟩
    refine ⟨state, hRunning, .cons ⟨hReady.running, rfl⟩ hAll, ?_⟩
    cases hSkipped : isSkipped env turn with
    | false =>
      rw [filter_cons_of_pos (by simp [hSkipped])]
      exact .cons ⟨hReady.running, rfl⟩ hKept
    | true =>
      rw [filter_cons_of_neg (by simp [hSkipped])]
      have hSame : forwardMessage env turn before = before := by
        unfold isSkipped at hSkipped
        unfold Gateway.forwardMessage
        split at hSkipped
        · rename_i hRequest
          rw [hRequest]
        · simp at hSkipped
      rwa [hSame] at hKept

/- A loader that also knows the empty array. -/
def arrayInputEnv : InputEnv :=
  { sampleInputEnv with
    loads := fun text => if text = "[]" then .value (.arr []) else sampleInputEnv.loads text }

/- A command between a broken text and a message of another kind. -/
def sampleTurns : List Turn :=
  [⟨.receive (some "\x7b"), noFaults⟩, inputTurn "ls\r", ⟨.other, noFaults⟩]

theorem harmless_messages_survive_sample : (∀ turn ∈ sampleTurns, Harmless arrayInputEnv turn) ∧
    ∃ state, state.signal = .running ∧ (inputSystem arrayInputEnv).Run initial sampleTurns state ∧
      (inputSystem arrayInputEnv).Run initial [inputTurn "ls\r"] state := by
  have hHarmless : ∀ turn ∈ sampleTurns, Harmless arrayInputEnv turn := by
    have hPlain : Plain "ls\r" := by
      simp [Plain, Text.ofString, CodePoint.isSurrogate, CodePoint.ofChar]
    exact forall_mem_cons.mpr ⟨⟨rfl, trivial⟩, forall_mem_cons.mpr ⟨⟨rfl, hPlain⟩,
      forall_mem_singleton.mpr ⟨rfl, trivial⟩⟩⟩
  exact ⟨hHarmless, harmless_messages_survive _ hHarmless⟩

/- An empty JSON array has no `get`, which ends the session. -/
theorem array_message_raises : ∃ state,
    (inputSystem arrayInputEnv).Run initial [⟨.receive (some "[]"), noFaults⟩] state ∧
      state.signal = .raised :=
  ⟨_, .cons ⟨rfl, rfl⟩ (.nil _), rfl⟩

end PamOlive.Gateway
