import PamOlive.Foundations.Json
import PamOlive.Foundations.Lines
import PamOlive.Foundations.Transition

/-
  The input side of an SSH bridge.

  `forwardMessage` is one turn of the loop of `_forward_input`: it reads a websocket message, keeps
  the pending line, checks completed lines against the policy, and writes to the remote process.
  Which of the calls it makes raise is an input. Bytes are kept as the text they encode.
-/

---- Environment

namespace PamOlive.Gateway

open Foundations CodePoint

/-
  The fixed arguments of `_forward_input`, and the library functions it calls. `search` is
  `re.search`, with `none` for an invalid pattern.
-/
structure InputEnv where
  search : Text → Text → Option Bool
  loads : Text → Loaded
  printable : CodePoint → Bool
  floatToInt : PyFloat → Option Int
  textToInt : Text → Option Int
  deny : List Text
  alert : List Text
  hasSend : Bool
  hasCallback : Bool

inductive Message where
  | disconnect
  | receive (text : Option Text)
  | other

/- Which of the calls made in one turn raise. -/
structure Faults where
  recorder : Bool
  send : Bool
  callback : Bool
  stdin : Bool
  resize : Bool

structure Turn where
  message : Message
  faults : Faults

inductive Signal where
  | running | returned | raised
deriving DecidableEq

inductive Direction where
  | input | commandDenied
deriving DecidableEq

inductive Disposition where
  | denied | alerted
deriving DecidableEq

/- The arguments of one call of the event callback. -/
structure CommandEvent where
  command : Text
  disposition : Disposition
  pattern : Text
deriving DecidableEq

/- The variables of the coroutine and its effects so far. -/
structure InputState where
  signal : Signal
  pendingCommand : Text
  stdin : Text
  recording : List (Direction × Text)
  sent : List Text
  events : List CommandEvent
  sizes : List (Int × Int)

def InputState.initial : InputState where
  signal := .running
  pendingCommand := []
  stdin := []
  recording := []
  sent := []
  events := []
  sizes := []

/- `_first_matching_pattern`: the first pattern that matches, or the empty text. -/
def firstMatchingPattern (env : InputEnv) (command : Text) : List Text → Text
| [] => []
| pattern :: rest =>
  if env.search pattern command = some true then pattern
  else firstMatchingPattern env command rest

/- The stripped, nonempty parts between runs of CR and LF. -/
def completedCommands (candidate : Text) : List Text :=
  ((Lines.splitRuns isNewline candidate).filter
    (fun item => decide (Text.strip item ≠ []))).map Text.strip

/- `"\n" in text or "\r" in text`. -/
def hasNewline (text : Text) : Bool := text.any isNewline

structure Inspection where
  denyMatch : Text
  alertMatch : Text
  inspectedCommand : Text

def Inspection.initial : Inspection := ⟨[], [], []⟩

/- The loop over completed commands, from given variables. -/
def inspectFrom (env : InputEnv) : Inspection → List Text → Inspection
| found, [] => found
| found, command :: rest =>
  let denyMatch := firstMatchingPattern env command env.deny
  if denyMatch ≠ [] then
    { found with denyMatch := denyMatch, inspectedCommand := command }
  else if found.alertMatch ≠ [] then inspectFrom env { found with denyMatch := [] } rest
  else
    let alertMatch := firstMatchingPattern env command env.alert
    inspectFrom env
      { denyMatch := []
        alertMatch := alertMatch
        inspectedCommand :=
          if alertMatch ≠ [] then command
          else found.inspectedCommand }
      rest

def inspectCommands (env : InputEnv) (commands : List Text) : Inspection :=
  inspectFrom env Inspection.initial commands

namespace InputState

def raise (state : InputState) : InputState := { state with signal := .raised }

/- Go on with the turn unless something raised. -/
def andThen (state : InputState) (next : InputState → InputState) : InputState :=
  match state.signal with
  | .running => next state
  | _ => state

/- `recorder.write(direction, text.encode())`. -/
def record (faults : Faults) (direction : Direction) (text : Text)
    (state : InputState) : InputState :=
  match text.encode with
  | none => state.raise
  | some data =>
    if faults.recorder then state.raise
    else
      { state with recording := state.recording ++ [(direction, data)] }

def deniedMessage : Text := "Commande bloquée par la politique PAM-olive."

/- `_send_json` with `command.denied`, if there is a `send`. -/
def sendDenied (env : InputEnv) (faults : Faults) (state : InputState) : InputState :=
  if env.hasSend then
    if faults.send then state.raise
    else { state with sent := state.sent ++ [deniedMessage] }
  else state

/- `command_event_callback(...)`, if there is one. -/
def notify (env : InputEnv) (faults : Faults) (event : CommandEvent)
    (state : InputState) : InputState :=
  if env.hasCallback then
    if faults.callback then state.raise
    else { state with events := state.events ++ [event] }
  else state

/- `process.stdin.write(data)`. -/
def writeStdin (faults : Faults) (text : Text) (state : InputState) : InputState :=
  if faults.stdin then state.raise
  else { state with stdin := state.stdin ++ text }

end InputState

def forwardText (faults : Faults) (text : Text) (state : InputState) : InputState :=
  (state.record faults .input text).andThen (InputState.writeStdin faults text)

section

variable (env : InputEnv) (faults : Faults) (found : Inspection) (state : InputState)

def denyCommand : InputState :=
  ((state.record faults .commandDenied found.inspectedCommand).andThen
    (InputState.sendDenied env faults)).andThen
      (InputState.notify env faults ⟨found.inspectedCommand, .denied, found.denyMatch⟩)

def alertCommand : InputState :=
  if found.alertMatch ≠ [] then
    state.notify env faults ⟨found.inspectedCommand, .alerted, found.alertMatch⟩
  else state

end

/- `candidate[-4000:]`. -/
def lastPending (candidate : Text) : Text := candidate.drop (candidate.length - 4000)

def terminalInput
    (env : InputEnv) (faults : Faults) (text : Text) (state : InputState) : InputState :=
  let candidate := state.pendingCommand ++ text
  if hasNewline text then
    let state := { state with pendingCommand := [] }
    let found := inspectCommands env (completedCommands candidate)
    if found.denyMatch ≠ [] then denyCommand env faults found state
    else (alertCommand env faults found state).andThen (forwardText faults text)
  else
    forwardText faults text { state with pendingCommand := lastPending candidate }

---- Messages

/- `int(value)`, with `none` for an exception. -/
def toInt (env : InputEnv) : Json → Option Int
| .bool value => some (if value then 1 else 0)
| .int value => some value
| .float value => env.floatToInt value
| .str value => env.textToInt value
| _ => none

/- `min(max(value, low), high)`. -/
def clamp (low high value : Int) : Int := min (max value low) high

def terminalResize (env : InputEnv) (faults : Faults) (payload : Json)
    (state : InputState) : InputState :=
  match (payload.get "cols" (.int 80)).bind (toInt env),
    (payload.get "rows" (.int 24)).bind (toInt env) with
  | some cols, some rows =>
    if faults.resize then state.raise
    else
      { state with sizes := state.sizes ++ [(clamp 20 400 cols, clamp 5 200 rows)] }
  | _, _ => state.raise

/- What a message asks for, before anything is done. -/
inductive Request where
  | stop | ignore | fail
  | input (text : Text)
  | resize (payload : Json)

section

variable (env : InputEnv)

/- `str(payload.get("data", ""))[:65536]`. -/
def inputText (data : Json) : Text := (data.pyStr env.printable).take 65536

def payloadRequest (payload : Json) : Request :=
  match payload.get "type" .null, payload.get "data" (.str []) with
  | some kind, some data =>
    if kind.isStr "terminal.input" then .input (inputText env data)
    else if kind.isStr "terminal.resize" then .resize payload
    else .ignore
  | _, _ => .fail

def messageRequest : Message → Request
| .disconnect => .stop
| .other => .ignore
| .receive none => .ignore
| .receive (some text) =>
  if text = [] then .ignore
  else
    match env.loads text with
    | .value payload => payloadRequest env payload
    | .decodeError => .ignore
    | .raised => .fail

def forwardMessage (turn : Turn) (state : InputState) : InputState :=
  match messageRequest env turn.message with
  | .stop => { state with signal := .returned }
  | .ignore => state
  | .fail => state.raise
  | .input text => terminalInput env turn.faults text state
  | .resize payload => terminalResize env turn.faults payload state

/- The loop, fed with any sequence of turns. -/
def inputSystem : TransitionSystem InputState Turn where
  init state := state = InputState.initial
  step before turn after := before.signal = .running ∧ after = forwardMessage env turn before

end

end PamOlive.Gateway
