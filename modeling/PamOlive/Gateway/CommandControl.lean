import PamOlive.Gateway.ForwardInput

/-
  Command control of SSH input.

  The shell sees the concatenation of all forwarded texts. `_forward_input` checks what it believes
  to be the lines of that text. The belief is lost when a line is denied whose start was forwarded,
  when a text ends inside a line after a line break, and when the pending line is cut.
-/

---- Command Lines

namespace PamOlive.Gateway

open Foundations CodePoint List Lines

variable {env : InputEnv}

/- The segments closed by runs of CR or LF, stripped, empty ones dropped. -/
def submittedLines (text : Text) : List Text :=
  ((splitRuns isNewline text).dropLast.filter
    (fun item => decide (Text.strip item ≠ []))).map Text.strip

/- No deny pattern matches any submitted command line. -/
def Enforced (env : InputEnv) (state : InputState) : Prop :=
  ∀ line ∈ submittedLines state.stdin, ∀ pattern ∈ env.deny, env.search pattern line ≠ some true

/- The line the remote shell has not yet been given whole. -/
def openLine (text : Text) : Text := openFrom isNewline [] text

theorem submittedLines_eq (text : Text) : submittedLines text =
    ((closedFrom isNewline [] text).filter (fun item => decide (Text.strip item ≠ []))).map
      Text.strip := by
  unfold submittedLines
  rw [filter_dropLast_splitRuns isNewline (by simp)]

theorem submittedLines_subset_completedCommands (candidate : Text) :
    submittedLines candidate ⊆ completedCommands candidate := by
  rw [submittedLines_eq]
  unfold completedCommands
  rw [filter_splitRuns isNewline (by simp), map_append]
  exact subset_append_left _ _

theorem submittedLines_append (before text : Text) : submittedLines (before ++ text) =
    submittedLines before ++ submittedLines (openLine before ++ text) := by
  have hClean : ∀ point ∈ openFrom isNewline [] before, isNewline point = false :=
    openFrom_clean isNewline (by simp)
  rw [submittedLines_eq, submittedLines_eq, submittedLines_eq, closedFrom_append,
    closedFrom_eq_closedFrom_nil isNewline hClean, filter_append, map_append]
  rfl

variable {text : Text}

theorem submittedLines_of_not_hasNewline (hText : hasNewline text = false) (before : Text) :
    submittedLines (before ++ text) = submittedLines before := by
  have hClean : ∀ point ∈ text, isNewline point = false := by simpa [hasNewline] using hText
  rw [submittedLines_eq, submittedLines_eq, closedFrom_append,
    closedFrom_of_forall_not isNewline hClean, append_nil]

theorem openLine_of_not_hasNewline (hText : hasNewline text = false) (before : Text) :
    openLine (before ++ text) = openLine before ++ text := by
  have hClean : ∀ point ∈ text, isNewline point = false := by simpa [hasNewline] using hText
  unfold openLine
  rw [openFrom_append, openFrom_of_forall_not isNewline hClean]

---- Inspection

/- Some completed command of a candidate is denied. -/
def Denied (env : InputEnv) (candidate : Text) : Prop :=
  ∃ command ∈ completedCommands candidate, firstMatchingPattern env command env.deny ≠ []

theorem inspectFrom_denyMatch_eq_nil_iff {found : Inspection} (hFound : found.denyMatch = [])
    (commands : List Text) :
    (inspectFrom env found commands).denyMatch = [] ↔
      ∀ command ∈ commands, firstMatchingPattern env command env.deny = [] := by
  induction commands generalizing found with
  | nil => simp [inspectFrom, hFound]
  | cons command rest ih =>
    unfold inspectFrom
    by_cases hDeny : firstMatchingPattern env command env.deny = []
    · by_cases hAlert : found.alertMatch = [] <;> simp [hDeny, hAlert, ih]
    · simp [hDeny]

theorem denyMatch_ne_nil_iff (candidate : Text) :
    (inspectCommands env (completedCommands candidate)).denyMatch ≠ [] ↔ Denied env candidate := by
  unfold inspectCommands Denied
  rw [Ne, inspectFrom_denyMatch_eq_nil_iff rfl]
  simp

theorem search_ne_of_firstMatchingPattern_eq_nil {command : Text} {patterns : List Text}
    (hPatterns : [] ∉ patterns) (hNone : firstMatchingPattern env command patterns = []) :
    ∀ pattern ∈ patterns, env.search pattern command ≠ some true := by
  induction patterns with
  | nil => simp
  | cons first rest ih =>
    simp only [mem_cons, not_or] at hPatterns
    unfold firstMatchingPattern at hNone
    by_cases hMatch : env.search first command = some true
    · simp only [hMatch, if_true] at hNone
      exact absurd hNone.symm hPatterns.1
    · simp only [hMatch, if_false] at hNone
      intro pattern hMem
      rcases mem_cons.mp hMem with rfl | hRest
      · exact hMatch
      · exact ih hPatterns.2 hNone pattern hRest

variable {candidate : Text}

theorem search_ne_of_not_denied (hPatterns : [] ∉ env.deny) (hAllowed : ¬ Denied env candidate) :
    ∀ line ∈ submittedLines candidate,
      ∀ pattern ∈ env.deny, env.search pattern line ≠ some true := by
  intro line hLine
  apply search_ne_of_firstMatchingPattern_eq_nil hPatterns
  by_contra hMatch
  apply hAllowed
  exact ⟨line, submittedLines_subset_completedCommands _ hLine, hMatch⟩

---- Effects Of A Turn

namespace InputState

/- Neither the shell nor the pending command saw anything. -/
def SameLine (before after : InputState) : Prop :=
  after.stdin = before.stdin ∧ after.pendingCommand = before.pendingCommand

theorem SameLine.refl (state : InputState) : SameLine state state := ⟨rfl, rfl⟩

variable {before state : InputState}

theorem SameLine.andThen {middle : InputState} {next : InputState → InputState}
    (hFirst : SameLine before middle)
    (hNext : SameLine middle (next middle)) : SameLine before (middle.andThen next) := by
  unfold InputState.andThen
  split
  · exact ⟨hNext.1.trans hFirst.1, hNext.2.trans hFirst.2⟩
  · exact hFirst

theorem sameLine_record
    (faults : Faults) (direction : Direction) (text : Text) (state : InputState) :
    SameLine state (state.record faults direction text) := by
  unfold record
  split
  · exact ⟨rfl, rfl⟩
  · split <;> exact ⟨rfl, rfl⟩

theorem sameLine_sendDenied (faults : Faults) (state : InputState) :
    SameLine state (state.sendDenied env faults) := by
  unfold sendDenied
  split
  · split <;> exact ⟨rfl, rfl⟩
  · exact SameLine.refl state

theorem sameLine_notify (faults : Faults) (event : CommandEvent) (state : InputState) :
    SameLine state (state.notify env faults event) := by
  unfold notify
  split
  · split <;> exact ⟨rfl, rfl⟩
  · exact SameLine.refl state

end InputState

open InputState

theorem sameLine_denyCommand (faults : Faults) (found : Inspection) (state : InputState) :
    SameLine state (denyCommand env faults found state) := by
  apply SameLine.andThen
  · apply SameLine.andThen
    · exact sameLine_record _ _ _ _
    · exact sameLine_sendDenied _ _
  · exact sameLine_notify _ _ _

theorem sameLine_alertCommand (faults : Faults) (found : Inspection) (state : InputState) :
    SameLine state (alertCommand env faults found state) := by
  unfold alertCommand
  split
  · exact sameLine_notify _ _ _
  · exact SameLine.refl state

theorem sameLine_terminalResize (faults : Faults) (payload : Json) (state : InputState) :
    SameLine state (terminalResize env faults payload state) := by
  unfold terminalResize
  split
  · split <;> exact ⟨rfl, rfl⟩
  · exact ⟨rfl, rfl⟩

/- The text reached the shell, or nothing did and the coroutine is over. -/
def Delivered (stdin text : Text) (after : InputState) : Prop :=
  after.stdin = stdin ++ text ∨ (after.stdin = stdin ∧ after.signal ≠ .running)

theorem delivered_forwardText (faults : Faults) (text : Text) (state : InputState) :
    Delivered state.stdin text (forwardText faults text state) ∧
      (forwardText faults text state).pendingCommand = state.pendingCommand := by
  have hRecord := sameLine_record faults .input text state
  unfold forwardText InputState.andThen
  split
  · rcases hRecord with ⟨hStdin, hPending⟩
    unfold writeStdin
    split
    · exact ⟨Or.inr ⟨hStdin, by simp [raise]⟩, hPending⟩
    · exact ⟨Or.inl (by simp [hStdin]), hPending⟩
  · rename_i hStopped
    exact ⟨Or.inr ⟨hRecord.1, hStopped⟩, hRecord.2⟩

theorem delivered_alertCommand
    (faults : Faults) (found : Inspection) (text : Text) (state : InputState) :
    Delivered state.stdin text
      ((alertCommand env faults found state).andThen (forwardText faults text)) ∧
      ((alertCommand env faults found state).andThen (forwardText faults text)).pendingCommand =
        state.pendingCommand := by
  have hAlert := @sameLine_alertCommand env faults found state
  have hForward := delivered_forwardText faults text (alertCommand env faults found state)
  unfold InputState.andThen
  split
  · rcases hForward with ⟨hDelivered, hPending⟩
    refine ⟨?_, hPending.trans hAlert.2⟩
    rw [hAlert.1] at hDelivered
    exact hDelivered
  · rename_i hStopped
    exact ⟨Or.inr ⟨hAlert.1, hStopped⟩, hAlert.2⟩

theorem terminalInput_of_not_hasNewline (hText : hasNewline text = false)
    (faults : Faults) (state : InputState) :
    terminalInput env faults text state = forwardText faults text { state with
        pendingCommand := lastPending (state.pendingCommand ++ text) } := by
  unfold terminalInput
  rw [hText]
  rfl

variable {state : InputState}

theorem terminalInput_of_denied (hText : hasNewline text = true)
    (hDenied : Denied env (state.pendingCommand ++ text)) (faults : Faults) :
    terminalInput env faults text state = denyCommand env faults
      (inspectCommands env (completedCommands (state.pendingCommand ++ text)))
      { state with pendingCommand := [] } := by
  unfold terminalInput
  rw [hText, if_pos rfl]
  exact if_pos ((denyMatch_ne_nil_iff _).mpr hDenied)

theorem terminalInput_of_not_denied (hText : hasNewline text = true)
    (hAllowed : ¬ Denied env (state.pendingCommand ++ text)) (faults : Faults) :
    terminalInput env faults text state = (alertCommand env faults
      (inspectCommands env (completedCommands (state.pendingCommand ++ text)))
      { state with pendingCommand := [] }).andThen (forwardText faults text) := by
  unfold terminalInput
  rw [hText, if_pos rfl]
  exact if_neg (mt (denyMatch_ne_nil_iff _).mp hAllowed)

---- Keeping The Line

section

variable (env : InputEnv) (state : InputState)

/- The pending command is the open line of the shell, and no submitted line is denied. -/
structure InStep : Prop where
  enforced : Enforced env state
  pending : state.signal = .running → state.pendingCommand = openLine state.stdin

/-
  A text without line break must fit the pending buffer; a denied text must not complete a line
  that was started before; any other text with a line break must end with one.
-/
def KeepsLine (text : Text) : Prop :=
  (hasNewline text = false → (state.pendingCommand ++ text).length ≤ 4000) ∧
  (hasNewline text = true →
    (Denied env (state.pendingCommand ++ text) → state.pendingCommand = []) ∧
    (¬ Denied env (state.pendingCommand ++ text) → openLine text = []))

def KeepsTurn (turn : Turn) : Prop :=
  ∀ text, messageRequest env turn.message = .input text → KeepsLine env state text

end

theorem lastPending_of_length_le (hLength : candidate.length ≤ 4000) :
    lastPending candidate = candidate := by
  unfold lastPending
  rw [Nat.sub_eq_zero_of_le hLength, drop_zero]

variable {after : InputState} {before : InputState}

theorem Enforced.of_stdin_eq (hStdin : after.stdin = before.stdin)
    (hEnforced : Enforced env before) : Enforced env after := by
  unfold Enforced
  rw [hStdin]
  exact hEnforced

theorem InStep.of_sameLine (hBefore : InStep env before) (hRunning : before.signal = .running)
    (hSame : SameLine before after) :
    InStep env after where
  enforced := hBefore.enforced.of_stdin_eq hSame.1
  pending := by
    intro _
    rw [hSame.1, hSame.2]
    exact hBefore.pending hRunning

theorem openLine_of_hasNewline (hText : hasNewline text = true) (before : Text) :
    openLine (before ++ text) = openLine text := by
  unfold openLine
  rw [openFrom_append]
  apply openFrom_eq_openFrom_nil
  simpa [hasNewline] using hText

theorem InStep.extend (hBefore : InStep env before) (hRunning : before.signal = .running)
    (hText : hasNewline text = false)
    (hPending : after.pendingCommand = before.pendingCommand ++ text)
    (hDelivered : Delivered before.stdin text after) : InStep env after := by
  rcases hDelivered with hStdin | ⟨hStdin, hStopped⟩
  · constructor
    · unfold Enforced
      rw [hStdin, submittedLines_of_not_hasNewline hText]
      exact hBefore.enforced
    · intro _
      rw [hPending, hStdin, openLine_of_not_hasNewline hText, hBefore.pending hRunning]
  · constructor
    · exact hBefore.enforced.of_stdin_eq hStdin
    · intro hRuns
      exact absurd hRuns hStopped

theorem InStep.submit (hPatterns : [] ∉ env.deny) (hBefore : InStep env before)
    (hRunning : before.signal = .running) (hText : hasNewline text = true)
    (hAllowed : ¬ Denied env (before.pendingCommand ++ text)) (hEnds : openLine text = [])
    (hPending : after.pendingCommand = [])
    (hDelivered : Delivered before.stdin text after) : InStep env after := by
  rcases hDelivered with hStdin | ⟨hStdin, hStopped⟩
  · constructor
    · unfold Enforced
      rw [hStdin, submittedLines_append, ← hBefore.pending hRunning]
      intro line hLine
      rcases mem_append.mp hLine with hOld | hNew
      · exact hBefore.enforced line hOld
      · exact search_ne_of_not_denied hPatterns hAllowed line hNew
    · intro _
      rw [hPending, hStdin, openLine_of_hasNewline hText, hEnds]
  · constructor
    · exact hBefore.enforced.of_stdin_eq hStdin
    · intro hRuns
      exact absurd hRuns hStopped

section

variable (hPatterns : [] ∉ env.deny) (hState : InStep env state)
  (hRunning : state.signal = .running)

include hPatterns hState hRunning

theorem InStep.terminalInput (hKeeps : KeepsLine env state text)
    (faults : Faults) : InStep env (terminalInput env faults text state) := by
  rcases hKeeps with ⟨hFits, hBreak⟩
  cases hText : hasNewline text with
  | false =>
    rw [terminalInput_of_not_hasNewline hText]
    have hForward := delivered_forwardText faults text { state with
        pendingCommand := lastPending (state.pendingCommand ++ text) }
    rw [lastPending_of_length_le (hFits hText)] at hForward ⊢
    exact hState.extend hRunning hText hForward.2 hForward.1
  | true =>
    by_cases hDenied : Denied env (state.pendingCommand ++ text)
    · rw [terminalInput_of_denied hText hDenied]
      have hEmpty := (hBreak hText).1 hDenied
      have hSame := @sameLine_denyCommand env faults
        (inspectCommands env (completedCommands (state.pendingCommand ++ text)))
        { state with pendingCommand := [] }
      apply hState.of_sameLine hRunning
      exact ⟨hSame.1, hSame.2.trans hEmpty.symm⟩
    · rw [terminalInput_of_not_denied hText hDenied]
      have hForward := @delivered_alertCommand env faults
        (inspectCommands env (completedCommands (state.pendingCommand ++ text)))
        text { state with pendingCommand := [] }
      exact hState.submit hPatterns hRunning hText hDenied
        ((hBreak hText).2 hDenied) hForward.2 hForward.1

theorem InStep.forwardMessage {turn : Turn}
    (hKeeps : KeepsTurn env state turn) : InStep env (forwardMessage env turn state) := by
  unfold Gateway.forwardMessage
  cases hRequest : messageRequest env turn.message with
  | stop => exact hState.of_sameLine hRunning ⟨rfl, rfl⟩
  | ignore => exact hState
  | fail => exact hState.of_sameLine hRunning ⟨rfl, rfl⟩
  | input text => exact hState.terminalInput hPatterns hRunning (hKeeps text hRequest) turn.faults
  | resize payload => exact hState.of_sameLine hRunning (sameLine_terminalResize _ _ _)

end

theorem inStep_initial : InStep env initial where
  enforced := by
    intro line hLine
    simp [submittedLines_eq, initial] at hLine
  pending := fun _ => rfl

/- In every run whose turns meet the condition, no submitted line matches a deny pattern. -/
theorem deny_rules_enforced (hPatterns : [] ∉ env.deny) {turns : List Turn} {state : InputState}
    (hRun : (inputSystem env).Guarded (KeepsTurn env) initial turns state) :
    Enforced env state := by
  have hInStep : InStep env state := by
    apply hRun.invariant _ inStep_initial
    rintro before turn after hBefore hKeeps ⟨hRunning, rfl⟩
    exact hBefore.forwardMessage hPatterns hRunning hKeeps
  exact hInStep.enforced

---- A Small Terminal

def inputPayload (data : Text) : Json := .obj [("type", .str "terminal.input"), ("data", .str data)]

/- Patterns match as substrings, and `rm` is denied. -/
def sampleInputEnv : InputEnv where
  search pattern command := some (command.tails.any (fun rest => pattern.isPrefixOf rest))
  loads text :=
    match [inputPayload "rm", inputPayload "ls\r",
      inputPayload [13]].find? (fun payload => decide (payload.dumps = text)) with
    | some payload => .value payload
    | none => .decodeError
  printable := fun _ => false
  floatToInt := fun _ => none
  textToInt := fun _ => none
  deny := ["rm"]
  alert := []
  hasSend := true
  hasCallback := true

def inputTurn (data : Text) : Turn where
  message := .receive (some (inputPayload data).dumps)
  faults := ⟨false, false, false, false, false⟩

theorem deny_rules_enforced_sample : [] ∉ sampleInputEnv.deny ∧
    (inputSystem sampleInputEnv).Guarded (KeepsTurn sampleInputEnv) initial [inputTurn "ls\r"]
      (forwardMessage sampleInputEnv (inputTurn "ls\r") initial) ∧
    Enforced sampleInputEnv (forwardMessage sampleInputEnv (inputTurn "ls\r") initial) := by
  have hPatterns : [] ∉ sampleInputEnv.deny := by decide
  have hKeeps : KeepsTurn sampleInputEnv initial (inputTurn "ls\r") := by
    intro text hRequest
    cases hRequest
    constructor
    · intro hNone
      exact absurd hNone (by decide)
    · intro _
      exact ⟨fun _ => rfl, fun _ => by decide⟩
  have hRun : (inputSystem sampleInputEnv).Guarded (KeepsTurn sampleInputEnv) initial
    [inputTurn "ls\r"]
    (forwardMessage sampleInputEnv (inputTurn "ls\r") initial) :=
    .cons hKeeps ⟨rfl, rfl⟩ (.nil _)
  exact ⟨hPatterns, hRun, deny_rules_enforced hPatterns hRun⟩

/- Typing `rm`, a return that is denied, and a second return submits `rm`. -/
theorem denied_line_submitted : ∃ turns state, [] ∉ sampleInputEnv.deny ∧
    (inputSystem sampleInputEnv).Run initial turns state ∧ ¬ Enforced sampleInputEnv state := by
  let typed := inputTurn "rm"
  let entered := inputTurn [13]
  refine ⟨[typed, entered, entered], _, by decide, .cons ⟨rfl, rfl⟩ (.cons ⟨rfl, rfl⟩
    (.cons ⟨rfl, rfl⟩ (.nil _))), ?_⟩
  intro hEnforced
  apply hEnforced "rm" _ "rm"
  · decide
  · decide
  · decide

---- What The Shell Receives

variable {turn : Turn}

/- What a message asks the gateway to type. -/
def typedText (env : InputEnv) (turn : Turn) : Text :=
  match messageRequest env turn.message with
  | .input text => text
  | _ => []

def AllowsTurn (env : InputEnv) (state : InputState) (turn : Turn) : Prop :=
  hasNewline (typedText env turn) = true → ¬ Denied env (state.pendingCommand ++ typedText env turn)

theorem delivered_terminalInput (faults : Faults)
    (hAllowed : hasNewline text = true → ¬ Denied env (before.pendingCommand ++ text)) :
    Delivered before.stdin text (terminalInput env faults text before) := by
  cases hText : hasNewline text with
  | false =>
    rw [terminalInput_of_not_hasNewline hText]
    exact (delivered_forwardText faults text { before with
        pendingCommand := lastPending (before.pendingCommand ++ text) }).1
  | true =>
    rw [terminalInput_of_not_denied hText (hAllowed hText)]
    exact (delivered_alertCommand faults
      (inspectCommands env (completedCommands (before.pendingCommand ++ text)))
      text { before with pendingCommand := [] }).1

theorem delivered_forwardMessage (hAllowed : AllowsTurn env before turn) :
    Delivered before.stdin (typedText env turn) (forwardMessage env turn before) := by
  unfold AllowsTurn typedText at hAllowed
  unfold forwardMessage typedText
  cases hRequest : messageRequest env turn.message with
  | input text =>
    rw [hRequest] at hAllowed
    exact delivered_terminalInput turn.faults hAllowed
  | resize payload =>
    left
    simp [(sameLine_terminalResize turn.faults payload before).1]
  | _ => exact Or.inl (by simp [raise])

/-
  While the session runs and no line is denied, the shell receives what was typed: nothing is
  lost, added or reordered, whatever the pending command.
-/
theorem stdin_eq_typed {turns : List Turn}
    (hRun : (inputSystem env).Guarded (AllowsTurn env) before turns after)
    (hRunning : after.signal = .running) :
    after.stdin = before.stdin ++ turns.flatMap (typedText env) := by
  induction hRun with
  | nil state => simp
  | @cons before middle after turn turns hAllowed hStep hRest ih =>
    have hMiddle : middle.signal = .running := by
      cases hRest with
      | nil => exact hRunning
      | cons _ hNext _ => exact hNext.1
    rw [ih hRunning, List.flatMap_cons, ← List.append_assoc]
    congr 1
    rcases hStep with ⟨_, rfl⟩
    rcases delivered_forwardMessage hAllowed with hStdin | ⟨_, hStopped⟩
    · exact hStdin
    · exact absurd hMiddle hStopped

theorem stdin_eq_typed_sample :
    (forwardMessage sampleInputEnv (inputTurn "ls\r") initial).stdin = "ls\r" := by
  have hRun : (inputSystem sampleInputEnv).Guarded (AllowsTurn sampleInputEnv) initial
    [inputTurn "ls\r"] (forwardMessage sampleInputEnv (inputTurn "ls\r") initial) :=
    .cons (fun _ hDenied => absurd ((denyMatch_ne_nil_iff _).mpr hDenied) (by decide))
      ⟨rfl, rfl⟩ (.nil _)
  exact stdin_eq_typed hRun rfl

end PamOlive.Gateway
