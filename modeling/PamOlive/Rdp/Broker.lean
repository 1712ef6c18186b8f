import PamOlive.Api.Gateway

/-
  The RDP broker.

  A launch posts its session id and ticket; the broker has them authorized, hands the connection
  over to Guacamole and answers with a page that opens it. Only a launch that fails after it was
  authorized reports the end. Encrypted user data is kept with its key.
-/

---- User Data

namespace PamOlive.Rdp

open Foundations Api

structure RDPBrokerConfig where
  sharedKey : Text
  guacamoleJsonKey : Text
  launchLifetimeSeconds : Int

/- What `_launch` catches: a protocol error with its message, or one of a key, value or encoding. -/
inductive LaunchError where
  | protocolError (message : Text)
  | valueError
deriving DecidableEq

structure RdpFields where
  domain : Text
  security : Text
  certificateFingerprints : Text
  serverLayout : Text
  resizeMethod : Text
  allowClipboardCopy : Bool
  allowClipboardPaste : Bool

/- Other envelopes do not have them. -/
def rdpFields : EnvelopeDetails → RdpFields
| .rdp domain security fingerprints layout resize copy paste =>
    ⟨domain, security, fingerprints, layout, resize, copy, paste⟩
| .ssh _ _ _ _ => ⟨[], [], [], [], [], false, false⟩

/- `value or fallback`. -/
def orElse (value fallback : Text) : Text :=
  if value = [] then fallback else value

def parameter (name : String) (value : Text) : Text × Json := (Text.ofString name, .str value)

def optionalParameter (name : String) (value : Text) : List (Text × Json) :=
  if value = [] then [] else [parameter name value]

/- The value of a switch that turns something off. -/
def disabling (allowed : Bool) : Text :=
  if allowed then "false"
  else "true"

section

variable (envelope : Envelope)

def connectionParameters : List (Text × Json) :=
  let fields := rdpFields envelope.details
  [parameter "hostname" envelope.host, parameter "port" (Text.decimal envelope.port),
    parameter "username" envelope.username, parameter "password" envelope.secret,
    parameter "security" (orElse fields.security "nla"),
    parameter "server-layout" (orElse fields.serverLayout "fr-be-azerty"),
    parameter "resize-method" (orElse fields.resizeMethod "display-update"),
    parameter "disable-copy" (disabling fields.allowClipboardCopy),
    parameter "disable-paste" (disabling fields.allowClipboardPaste),
    parameter "enable-drive" "false", parameter "enable-printing" "false",
    parameter "enable-audio-input" "false"] ++ optionalParameter "domain" fields.domain ++
    optionalParameter "cert-fingerprints" fields.certificateFingerprints

def rdpConnectionId : Text := "pam-olive-" ++ envelope.sessionId

def rdpUserData (lifetimeSeconds : Int) (nowMs : Int) : Json :=
  .obj [("username", .str ("pam-olive:" ++ envelope.pamUserId)),
    ("expires", .int (nowMs + lifetimeSeconds * 1000)), ("singleUse", .bool true),
    ("connections", .obj [(rdpConnectionId envelope, .obj [("id", .str envelope.sessionId),
      ("protocol", .str "rdp"), ("singleUse", .bool true),
      ("parameters", .obj (connectionParameters envelope))])])]

/- `build_rdp_user_data`: the connection and its data. -/
def buildRdpUserData (lifetimeSeconds : Int) (nowMs : Int) : Except LaunchError (Text × Json) := do
  require (envelope.protocol = "rdp") (.protocolError "L'enveloppe ne décrit pas une session RDP.")
  require (envelope.credentialKind = "password")
    (.protocolError "RDP requiert un identifiant de type mot de passe.")
  require (envelope.sessionId ≠ [] ∧ envelope.host ≠ [] ∧
    envelope.port ≠ 0 ∧ envelope.username ≠ [] ∧ envelope.secret ≠ [])
    (.protocolError "L'enveloppe RDP est incomplète.")
  require (5 ≤ lifetimeSeconds ∧ lifetimeSeconds ≤ 30)
    (.protocolError "La durée du jeton JSON RDP est invalide.")
  return (rdpConnectionId envelope, rdpUserData envelope lifetimeSeconds nowMs)

end

---- Guacamole

/- User data encrypted under the key of Guacamole. -/
structure EncryptedUserData where
  key : Text
  plaintext : Text
deriving DecidableEq

/- `[0-9a-fA-F]{32}`, on the whole text. -/
def isJsonKey (key : Text) : Bool :=
  decide (key.length = 32) && key.all (fun point => (Uuid.hexDigitValue point).isSome)

/- `encrypt_json_auth`; encoding fails on a surrogate. -/
def encryptJsonAuth (payload : Json) (key : Text) : Except LaunchError EncryptedUserData := do
  require (isJsonKey key = true) (.protocolError "La clé JSON Guacamole est invalide.")
  let plaintext ← found (Text.encode (Json.canonical payload)) .valueError
  return ⟨key, plaintext⟩

/- `[0-9A-Za-z_-]`. -/
def isTokenPoint (point : CodePoint) : Bool :=
  decide (48 ≤ point.val ∧ point.val ≤ 57 ∨ 65 ≤ point.val ∧ point.val ≤ 90 ∨
    97 ≤ point.val ∧ point.val ≤ 122 ∨ point.val = 95 ∨ point.val = 45)

/- `[0-9A-Za-z_-]{20,256}`, on the whole text. -/
def isAuthToken (token : Text) : Bool :=
  decide (20 ≤ token.length ∧ token.length ≤ 256) && token.all isTokenPoint

/- `result.get("authToken")` if it is a valid token. -/
def authTokenOf (result : Json) : Option Text :=
  match result.get "authToken" .null with
  | some (.str token) => if isAuthToken token then some token else none
  | _ => none

/- `GuacamoleTokenClient.authenticate` on the answer of Guacamole, if there is one. -/
def authenticate (answer : Option Json) : Except LaunchError Text := do
  let result ← found answer (.protocolError "Apache Guacamole est indisponible.")
  let token ← found (authTokenOf result)
    (.protocolError "Apache Guacamole n'a pas renvoyé de jeton valide.")
  require ((result.get "dataSource" .null).any (fun source => source.isStr "json") = true)
    (.protocolError "Le jeton n'a pas été émis par la source JSON attendue.")
  return token

structure HandoffPage where
  authToken : Text
  connectionId : Text
  nonce : Text
deriving DecidableEq

def buildHandoffPage (authToken connectionId nonce : Text) : Except LaunchError HandoffPage := do
  require (isAuthToken authToken = true) (.protocolError "Le jeton de transition est invalide.")
  return ⟨authToken, connectionId, nonce⟩

---- Launching

structure LaunchForm where
  sessionId : Text
  ticket : Text

/- The session id and the ticket a launch asks with. -/
def launchRequest (form : Option LaunchForm) : Except LaunchError (Text × Text) := do
  let form ← found form .valueError
  let sessionId ← found (Uuid.parse form.sessionId) .valueError
  require (32 ≤ form.ticket.length ∧ form.ticket.length ≤ 256)
    (.protocolError "Le ticket RDP est invalide.")
  return (Uuid.str sessionId, form.ticket)

/- What a launch depends on once it is authorized. -/
structure LaunchEnv where
  config : RDPBrokerConfig
  nowMs : Int
  guacamole : EncryptedUserData → Option Json
  nonce : Text

/- The part of `_launch` after the authorization. -/
def handOff (env : LaunchEnv) (envelope : Envelope) : Except LaunchError HandoffPage := do
  let (connectionId, userData) ←
    buildRdpUserData envelope env.config.launchLifetimeSeconds env.nowMs
  let encrypted ← encryptJsonAuth userData env.config.guacamoleJsonKey
  let authToken ← authenticate (env.guacamole encrypted)
  buildHandoffPage authToken connectionId env.nonce

def launchReport (sessionId : Text) : CloseReport where
  sessionId := sessionId
  outcome := "failed"
  reason := "rdp_launch_failed"
  recordingReference := []
  recordingSha256 := []
  bytesIn := 0
  bytesOut := 0

theorem handOff_of_unavailable {env : LaunchEnv}
    (hAnswer : ∀ encrypted, env.guacamole encrypted = none)
    (envelope : Envelope) : ∃ failure, handOff env envelope = .error failure := by
  cases hResult : handOff env envelope with
  | error failure => exact ⟨failure, rfl⟩
  | ok page =>
    rcases bind_eq_ok_iff.mp hResult with ⟨data, _, hResult⟩
    rcases bind_eq_ok_iff.mp hResult with ⟨encrypted, _, hResult⟩
    rcases bind_eq_ok_iff.mp hResult with ⟨token, hToken, _⟩
    rw [hAnswer] at hToken
    rcases found_bind_eq_ok_iff.mp hToken with ⟨result, hNone, _⟩
    exact absurd hNone (by simp)

end PamOlive.Rdp
