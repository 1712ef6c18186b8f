import PamOlive.Foundations.Json

/-
  The control endpoint of the gateway.

  `control` checks the signature of a request, guards against replays, and sets the cancellation
  event of a session. An event is named by the connection that created it. The keyed hash, the
  clock and the shared cache are inputs.
-/

---- Signatures

namespace PamOlive.Gateway

open Foundations

structure ControlEnv where
  sharedKey : Text
  acceptLegacySignatures : Bool
  hasReplayCache : Bool
  hmacHex : Text → Text → Text
  textToInt : Text → Option Int
  normalizeUuid : Text → Option Text
  loads : Text → Loaded
  printable : CodePoint → Bool

structure ControlCall where
  path : Text
  method : Text
  body : Text
  requestId : Text
  signatureVersion : Text
  timestamp : Text
  signature : Text
  now : Int
  cacheAnswer : Bool

def terminatePath : Text := "/internal/control/terminate/"

/- The text that is signed, with and without a request id. -/
def signedText (timestamp body method path requestId : Text) : Text :=
  if requestId ≠ [] then
    "v2" ++ 10 :: (timestamp ++ 10 :: (requestId ++ 10 :: (method ++ 10 :: (path ++ 10 :: body))))
  else timestamp ++ 46 :: body

/- `hmac.compare_digest`, which raises on text outside ASCII. -/
def compareDigest (expected signature : Text) : Option Bool :=
  if (expected ++ signature).all (fun point => decide (point.val < 128)) then
    some (decide (expected = signature))
  else none

theorem compareDigest_self {digest : Text} (hAscii : ∀ point ∈ digest, point.val < 128) :
    compareDigest digest digest = some true := by
  unfold compareDigest
  rw [if_pos (List.all_eq_true.mpr ?_), decide_eq_true rfl]
  intro point hMem
  exact decide_eq_true (hAscii point ((List.mem_append.mp hMem).elim id id))

/- `verify_request_signature`. Instants are in microseconds, timestamps in seconds. -/
def verifyRequestSignature (env : ControlEnv) (now : Int) (timestamp body signature : Text)
    (method path requestId : Text) : Option Bool :=
  match env.textToInt timestamp with
  | none => some false
  | some issuedAt =>
    if (now / 1000000 - issuedAt).natAbs > 30 then some false
    else if signature = [] then some false
    else
      compareDigest (env.hmacHex env.sharedKey (signedText timestamp body method path requestId))
        signature

/- The request ids that were seen, each with its instant. -/
abbrev SeenIds := List (Text × Int)

def claimControlRequestId (env : ControlEnv) (call : ControlCall) (requestId : Text)
    (seen : SeenIds) : Bool × SeenIds :=
  if env.hasReplayCache then (call.cacheAnswer, seen)
  else
    let recent := seen.filter (fun entry => decide (call.now - entry.2 ≤ 60 * 1000000))
    if recent.any (fun entry => decide (entry.1 = requestId))
    then (false, recent)
    else (true, recent ++ [(requestId, call.now)])

---- The Endpoint

/- The attributes of `GatewayApplication` the endpoint works on, and which events are set. -/
structure ControlState where
  cancellations : Text → Option Nat
  seenIds : SeenIds
  isSet : Nat → Bool

structure ControlAnswer where
  status : Option Nat
  state : ControlState

section

variable (env : ControlEnv)

/- `str(json.loads(body).get("session_id", ""))`. -/
def bodySessionId (body : Text) : Option Text :=
  match env.loads body with
  | .decodeError => some []
  | .raised => none
  | .value payload =>
    (payload.get "session_id" (.str [])).map (Json.pyStr env.printable)

section

variable (call : ControlCall)

/- Versions `""` and `"1"`, where they are still accepted. -/
def legacyAccepted : Bool :=
  (call.signatureVersion == [] || call.signatureVersion == "1") && env.acceptLegacySignatures

/- The request id in normal form, empty if it is no UUID. -/
def normalRequestId : Text :=
  (env.normalizeUuid call.requestId).getD []

def signatureVerified : Option Bool :=
  if legacyAccepted env call then
    verifyRequestSignature env call.now call.timestamp call.body call.signature [] [] []
  else
    verifyRequestSignature env call.now call.timestamp call.body call.signature "POST"
      terminatePath (normalRequestId env call)

/- The value of `valid`, and the seen ids after it. -/
def requestValid (verified : Bool) (seen : SeenIds) : Bool × SeenIds :=
  if !legacyAccepted env call &&
    (call.signatureVersion != "2" || normalRequestId env call == []) then
    (false, seen)
  else if verified && !legacyAccepted env call then
    claimControlRequestId env call (normalRequestId env call) seen
  else (verified, seen)

end

end

def signalSession (valid : Bool) (sessionId : Text) (state : ControlState) : ControlAnswer :=
  match
    if valid then state.cancellations sessionId
    else none with
  | some event =>
    ⟨some 202, { state with isSet := Function.update state.isSet event true }⟩
  | none => ⟨some (if valid then 404 else 403), state⟩

def control (env : ControlEnv) (call : ControlCall) (state : ControlState) : ControlAnswer :=
  if call.path = "/health/live/" ∧ call.method = "GET" then
    ⟨some 200, state⟩
  else if call.path ≠ terminatePath ∨ call.method ≠ "POST" then ⟨some 404, state⟩
  else
    match signatureVerified env call with
    | none => ⟨none, state⟩
    | some verified =>
      let checked := requestValid env call verified state.seenIds
      let state := { state with seenIds := checked.2 }
      match bodySessionId env call.body with
      | none => ⟨none, state⟩
      | some sessionId => signalSession checked.1 sessionId state

/- A correctly signed request with a new id, to terminate the given session. -/
structure Terminates (env : ControlEnv) (call : ControlCall) (seen : SeenIds)
    (sessionId : Text) : Prop where
  path : call.path = terminatePath
  method : call.method = "POST"
  verified : signatureVerified env call = some true
  valid : (requestValid env call true seen).1 = true
  session : bodySessionId env call.body = some sessionId

theorem control_of_terminates {env : ControlEnv} {call : ControlCall}
    {state : ControlState} {sessionId : Text} {event : Nat}
    (hCall : Terminates env call state.seenIds sessionId)
    (hEvent : state.cancellations sessionId = some event) :
    (control env call state).status = some 202 ∧
      (control env call state).state.isSet event = true := by
  have hHealth : ¬ (call.path = "/health/live/" ∧ call.method = "GET") := by
    rintro ⟨hPath, _⟩
    rw [hCall.path] at hPath
    exact absurd hPath (by decide)
  have hOther : ¬ (call.path ≠ terminatePath ∨ call.method ≠ "POST") := by
    simp [hCall.path, hCall.method]
  unfold control
  rw [if_neg hHealth, if_neg hOther, hCall.verified]
  simp only [hCall.session, hCall.valid, signalSession, if_true, hEvent]
  simp

theorem signalSession_cancellations (valid : Bool) (sessionId : Text) (state : ControlState) :
    (signalSession valid sessionId state).state.cancellations = state.cancellations := by
  unfold signalSession
  cases (if valid then state.cancellations sessionId else none) with
  | none => rfl
  | some event => rfl

theorem control_cancellations (env : ControlEnv) (call : ControlCall) (state : ControlState) :
    (control env call state).state.cancellations = state.cancellations := by
  unfold control
  split
  · rfl
  · split
    · rfl
    · split
      · rfl
      · split
        · rfl
        · rw [signalSession_cancellations]

end PamOlive.Gateway
