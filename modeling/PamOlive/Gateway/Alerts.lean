import PamOlive.Gateway.CommandControl

/-
  Completeness of command alerts.

  `_forward_input` keeps one alert match for each message, so a message that completes several
  watched lines reports the first only. Otherwise, while the line is kept, every such line is
  reported.
-/

---- Effects Of A Turn That Does Not Raise

namespace PamOlive.Gateway

open Foundations CodePoint InputState List

variable {env : InputEnv} {faults : Faults} {found : Inspection} {turn : Turn} {text : Text}
variable {before state : InputState}

/- What an operation that does not raise adds to the input of the shell and to the events. -/
def Adds (before : InputState) (text : Text) (events : List CommandEvent)
    (after : InputState) : Prop :=
  after.signal = .running → after.stdin = before.stdin ++ text ∧
    after.events = before.events ++ events ∧ after.pendingCommand = before.pendingCommand

theorem adds_forwardText (faults : Faults) (text : Text) (state : InputState) :
    Adds state text [] (forwardText faults text state) := by
  unfold Adds forwardText InputState.andThen record writeStdin raise
  grind

/- The event `alertCommand` reports. -/
def alertEvents (found : Inspection) : List CommandEvent :=
  if found.alertMatch ≠ [] then [⟨found.inspectedCommand, .alerted, found.alertMatch⟩] else []

theorem adds_alertCommand (hCallback : env.hasCallback = true) : Adds state text (alertEvents found)
    ((alertCommand env faults found state).andThen (forwardText faults text)) := by
  have hForward := adds_forwardText faults text (alertCommand env faults found state)
  unfold Adds InputState.andThen at *
  unfold alertCommand alertEvents notify raise at *
  grind

theorem adds_denyCommand (hCallback : env.hasCallback = true) :
    Adds state [] [⟨found.inspectedCommand, .denied, found.denyMatch⟩]
      (denyCommand env faults found state) := by
  unfold Adds denyCommand InputState.andThen record sendDenied notify raise
  grind

/- What a turn that does not raise forwards, reports and leaves pending. -/
inductive Outcome (env : InputEnv) (state : InputState) (turn : Turn) :
    Text → List CommandEvent → Text → Prop where
  | quiet (hQuiet : ∀ text, messageRequest env turn.message ≠ .input text) :
      Outcome env state turn [] [] state.pendingCommand
  | typed {text : Text} (hInput : messageRequest env turn.message = .input text)
      (hText : hasNewline text = false) :
      Outcome env state turn text [] (lastPending (state.pendingCommand ++ text))
  | denied {text : Text} (hInput : messageRequest env turn.message = .input text)
      (hText : hasNewline text = true) (hDenied : Denied env (state.pendingCommand ++ text))
      (event : CommandEvent) (hEvent : event.disposition = .denied) :
      Outcome env state turn [] [event] []
  | allowed {text : Text} (hInput : messageRequest env turn.message = .input text)
      (hText : hasNewline text = true) (hAllowed : ¬ Denied env (state.pendingCommand ++ text)) :
      Outcome env state turn text
        (alertEvents (inspectCommands env (completedCommands (state.pendingCommand ++ text)))) []

theorem outcome_of_running (hCallback : env.hasCallback = true)
    (hRunning : (forwardMessage env turn state).signal = .running) :
    ∃ text events pending, Outcome env state turn text events pending ∧
      (forwardMessage env turn state).stdin = state.stdin ++ text ∧
      (forwardMessage env turn state).events = state.events ++ events ∧
      (forwardMessage env turn state).pendingCommand = pending := by
  unfold forwardMessage at hRunning ⊢
  cases hRequest : messageRequest env turn.message with
  | stop => simp [hRequest] at hRunning
  | ignore => exact ⟨_, _, _, .quiet (by simp [hRequest]), by simp⟩
  | fail => simp [hRequest, raise] at hRunning
  | resize payload =>
    refine ⟨_, _, _, .quiet (by simp [hRequest]), ?_⟩
    unfold terminalResize raise
    grind
  | input text =>
    simp only [hRequest] at hRunning ⊢
    cases hText : hasNewline text with
    | false =>
      rw [terminalInput_of_not_hasNewline hText] at hRunning ⊢
      have hAdds := adds_forwardText turn.faults text _ hRunning
      dsimp only at hAdds
      exact ⟨_, _, _, .typed hRequest hText, hAdds⟩
    | true =>
      by_cases hDenied : Denied env (state.pendingCommand ++ text)
      · rw [terminalInput_of_denied hText hDenied] at hRunning ⊢
        exact ⟨_, _, _, .denied hRequest hText hDenied _ rfl, adds_denyCommand hCallback hRunning⟩
      · rw [terminalInput_of_not_denied hText hDenied] at hRunning ⊢
        exact ⟨_, _, _, .allowed hRequest hText hDenied, adds_alertCommand hCallback hRunning⟩

---- The Alert Of A Message

/- Some alert pattern matches the line. -/
def matchesAlert (env : InputEnv) (line : Text) : Bool :=
  env.alert.any (fun pattern => decide (env.search pattern line = some true))

variable {commands : List Text}

theorem firstMatchingPattern_eq_nil_iff {command : Text} {patterns : List Text}
    (hPatterns : [] ∉ patterns) : firstMatchingPattern env command patterns = [] ↔
      patterns.any (fun pattern => decide (env.search pattern command = some true)) = false := by
  constructor
  · intro hNone
    simpa using search_ne_of_firstMatchingPattern_eq_nil hPatterns hNone
  intro hNone
  induction patterns with
  | nil => rfl
  | cons first rest ih =>
    simp only [mem_cons, not_or] at hPatterns
    simp only [any_cons, Bool.or_eq_false_iff, decide_eq_false_iff_not] at hNone
    unfold firstMatchingPattern
    rw [if_neg hNone.1]
    exact ih hPatterns.2 hNone.2

theorem alertEvents_of_alerted (hFound : found.alertMatch ≠ [])
    (hAllowed : ∀ command ∈ commands, firstMatchingPattern env command env.deny = []) :
    alertEvents (inspectFrom env found commands) = alertEvents found := by
  induction commands generalizing found with
  | nil => rfl
  | cons command rest ih =>
    unfold inspectFrom
    simp only [forall_mem_cons] at hAllowed
    simp only [hAllowed.1, hFound, ne_eq, not_true_eq_false, not_false_eq_true, if_true, if_false]
    exact ih hFound hAllowed.2

theorem alertEvents_inspectFrom (hPatterns : [] ∉ env.alert) (hFound : found.alertMatch = [])
    (hAllowed : ∀ command ∈ commands, firstMatchingPattern env command env.deny = []) :
    (alertEvents (inspectFrom env found commands)).map CommandEvent.command =
      (commands.filter (matchesAlert env)).take 1 := by
  induction commands generalizing found with
  | nil => simp [inspectFrom, alertEvents, hFound]
  | cons command rest ih =>
    unfold inspectFrom
    simp only [forall_mem_cons] at hAllowed
    simp only [hAllowed.1, hFound, ne_eq, not_true_eq_false, if_false]
    have hMatches := @firstMatchingPattern_eq_nil_iff env command _ hPatterns
    cases hLine : matchesAlert env command with
    | false =>
      rw [filter_cons_of_neg (by simp [hLine])]
      exact ih (hMatches.mpr hLine) hAllowed.2
    | true =>
      have hAlert : firstMatchingPattern env command env.alert ≠ [] := by
        intro hNone
        exact absurd ((hMatches.mp hNone).symm.trans hLine) (by simp)
      rw [filter_cons_of_pos hLine, alertEvents_of_alerted hAlert hAllowed.2]
      simp [alertEvents, hAlert]

---- Runs

/- The commands reported with a disposition. -/
def reportedAs (disposition : Disposition) (events : List CommandEvent) : List Text :=
  (events.filter (fun event => decide (event.disposition = disposition))).map CommandEvent.command

theorem reportedAs_append {disposition : Disposition} {events events' : List CommandEvent} :
    reportedAs disposition (events ++ events') =
      reportedAs disposition events ++ reportedAs disposition events' := by
  simp [reportedAs]

theorem reportedAs_alertEvents : reportedAs .denied (alertEvents found) = [] ∧
    reportedAs .alerted (alertEvents found) = (alertEvents found).map CommandEvent.command := by
  unfold alertEvents
  split <;> simp [reportedAs]

section

variable (env : InputEnv) (state : InputState)

def DeniedTurn (turn : Turn) : Prop :=
  ∃ text, messageRequest env turn.message = .input text ∧ hasNewline text = true ∧
    Denied env (state.pendingCommand ++ text)

/- A message that is not denied completes at most one line with an alert, and keeps the line. -/
def KeepsAlerts (turn : Turn) : Prop :=
  KeepsTurn env state turn ∧ ∀ text, messageRequest env turn.message = .input text →
      ¬ Denied env (state.pendingCommand ++ text) →
      ((submittedLines (state.pendingCommand ++ text)).filter (matchesAlert env)).length ≤ 1

/- While the coroutine runs, the lines with an alert are those that were reported. -/
def Reported : Prop :=
  state.signal = .running → state.pendingCommand = openLine state.stdin ∧
    reportedAs .alerted state.events = (submittedLines state.stdin).filter (matchesAlert env)

end

theorem completedCommands_of_openLine_eq_nil {candidate : Text} (hOpen : openLine candidate = []) :
    completedCommands candidate = submittedLines candidate := by
  rw [submittedLines_eq]
  unfold completedCommands
  unfold openLine at hOpen
  rw [Lines.filter_splitRuns isNewline (by simp), hOpen]
  simp [Text.strip]

theorem Reported.forwardMessage (hCallback : env.hasCallback = true) (hPatterns : [] ∉ env.alert)
    (hBefore : Reported env state) (hRunning : state.signal = .running)
    (hKeeps : KeepsAlerts env state turn) : Reported env (forwardMessage env turn state) := by
  intro hAfter
  rcases hBefore hRunning with ⟨hPending, hReported⟩
  rcases outcome_of_running hCallback hAfter with
    ⟨text, events, pending, hOutcome, hStdin, hEvents, hLeft⟩
  rw [hStdin, hEvents, hLeft, reportedAs_append, hReported]
  cases hOutcome with
  | quiet hQuiet => simpa [reportedAs] using hPending
  | typed hInput hText =>
    rw [lastPending_of_length_le ((hKeeps.1 text hInput).1 hText),
      submittedLines_of_not_hasNewline hText, openLine_of_not_hasNewline hText, hPending]
    simp [reportedAs]
  | denied hInput hText hDenied event hEvent =>
    rw [append_nil, ← hPending, ((hKeeps.1 _ hInput).2 hText).1 hDenied]
    simp [reportedAs, hEvent]
  | allowed hInput hText hAllowed =>
    have hOpen := ((hKeeps.1 text hInput).2 hText).2 hAllowed
    have hLines := completedCommands_of_openLine_eq_nil
      ((openLine_of_hasNewline hText state.pendingCommand).trans hOpen)
    refine ⟨by rw [openLine_of_hasNewline hText, hOpen], ?_⟩
    rw [submittedLines_append, ← hPending, filter_append, reportedAs_alertEvents.2, hLines]
    have hNone : ∀ command ∈ submittedLines (state.pendingCommand ++ text),
      firstMatchingPattern env command env.deny = [] := by
      intro command hCommand
      by_contra hMatch
      exact hAllowed ⟨command, hLines ▸ hCommand, hMatch⟩
    unfold inspectCommands
    rw [alertEvents_inspectFrom hPatterns rfl hNone,
      take_of_length_le (hKeeps.2 text hInput hAllowed)]

/-
  In every run whose turns meet the condition the lines with an alert that the shell was given are
  reported one by one, in order. From any state, a turn that does not raise reports a denial once
  if its message is denied, and not otherwise.
-/
theorem alerts_complete (hCallback : env.hasCallback = true) (hPatterns : [] ∉ env.alert) :
    (∀ turns state, (inputSystem env).Guarded (KeepsAlerts env) initial turns state →
      state.signal = .running →
      reportedAs .alerted state.events = (submittedLines state.stdin).filter (matchesAlert env)) ∧
    ∀ turn state, (forwardMessage env turn state).signal = .running →
      ∃ reported, reportedAs .denied (forwardMessage env turn state).events =
        reportedAs .denied state.events ++ reported ∧
        (DeniedTurn env state turn ∧ reported.length = 1 ∨
          ¬ DeniedTurn env state turn ∧ reported = []) := by
  constructor
  · intro turns state hRun hRunning
    have hReported : Reported env state := by
      apply hRun.invariant
      · rintro before turn after hBefore hKeeps ⟨hSignal, rfl⟩
        exact hBefore.forwardMessage hCallback hPatterns hSignal hKeeps
      · exact fun _ => ⟨rfl, rfl⟩
    exact (hReported hRunning).2
  · intro turn state hRunning
    rcases outcome_of_running hCallback hRunning with
      ⟨text, events, pending, hOutcome, _, hEvents, _⟩
    rw [hEvents, reportedAs_append]
    refine ⟨_, rfl, ?_⟩
    have hOnly : ∀ {text}, messageRequest env turn.message = .input text →
      (¬ hasNewline text = true ∨ ¬ Denied env (state.pendingCommand ++ text)) →
      ¬ DeniedTurn env state turn := by
      rintro text hInput hNot ⟨other, hOther, hText, hDenied⟩
      cases hInput.symm.trans hOther
      exact hNot.elim (· hText) (· hDenied)
    cases hOutcome with
    | quiet hQuiet => exact .inr ⟨fun ⟨text, hInput, _⟩ => hQuiet text hInput, rfl⟩
    | typed hInput hText => exact .inr ⟨hOnly hInput (.inl (by simp [hText])), rfl⟩
    | denied hInput hText hDenied event hEvent =>
      exact .inl ⟨⟨_, hInput, hText, hDenied⟩, by simp [reportedAs, hEvent]⟩
    | allowed hInput hText hAllowed =>
      exact .inr ⟨hOnly hInput (.inr hAllowed), reportedAs_alertEvents.1⟩

/- `rm` is watched, nothing is denied, and the messages carry one line or two. -/
def alertInputEnv : InputEnv :=
  { sampleInputEnv with
    loads := fun text =>
      match [inputPayload "rm a\r", inputPayload "rm a\rrm b\r"].find?
        (fun payload => decide (payload.dumps = text)) with
      | some payload => .value payload
      | none => .decodeError
    deny := []
    alert := ["rm"] }

theorem alerts_complete_sample : alertInputEnv.hasCallback = true ∧ [] ∉ alertInputEnv.alert ∧
    reportedAs .alerted (forwardMessage alertInputEnv (inputTurn "rm a\r") initial).events =
      [Text.ofString "rm a"] := by
  have hKeeps : KeepsAlerts alertInputEnv initial (inputTurn "rm a\r") := by
    have hRequest :
      messageRequest alertInputEnv (inputTurn "rm a\r").message = .input "rm a\r" := rfl
    refine ⟨fun text hInput => ?_, fun text hInput _ => ?_⟩
    · cases hRequest.symm.trans hInput
      exact ⟨by decide, fun _ => ⟨fun _ => rfl, fun _ => by decide⟩⟩
    · cases hRequest.symm.trans hInput
      decide
  refine ⟨rfl, by decide, ?_⟩
  rw [(alerts_complete rfl (by decide)).1 [inputTurn "rm a\r"] _
    (.cons hKeeps ⟨rfl, rfl⟩ (.nil _)) rfl]
  decide +kernel

/- Two watched lines in one message are reported as one. -/
theorem second_alert_lost : ∃ state,
    (inputSystem alertInputEnv).Run initial [inputTurn "rm a\rrm b\r"] state ∧
      state.signal = .running ∧
      (submittedLines state.stdin).filter (matchesAlert alertInputEnv) =
        [Text.ofString "rm a", Text.ofString "rm b"] ∧
      reportedAs .alerted state.events = [Text.ofString "rm a"] :=
  ⟨_, .cons ⟨rfl, rfl⟩ (.nil _), rfl, by decide +kernel, by decide +kernel⟩

end PamOlive.Gateway
