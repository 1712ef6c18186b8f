import PamOlive.Gateway.Bridge
import PamOlive.Targets.FirstUse

/-
  When the SSH bridge presents a credential.

  `asyncssh.connect` checks the server against the known hosts and authenticates; without known
  hosts it checks nothing. `bridge_ssh` asks its callback about the key only after that.
-/

---- Connecting

namespace PamOlive.Gateway

open Foundations Api Targets Sessions List

/- What the bridge does to a server, in order. -/
inductive SshAction where
  | presented (hostKey : Text)
  | asked (hostKey : Text) (answer : Bool)
deriving DecidableEq

/- `asyncssh`: entries of known hosts, and private keys. -/
structure SshLibrary where
  matchesEntry : Text → Text → Nat → Text → Bool
  importsKey : Text → Bool

/- A server, and how far a connection to it gets. -/
structure SshServer where
  hostKey : Text
  reachable : Bool
  acceptsLogin : Bool

inductive BridgeError where
  | protocol (message : Text)
  | privateKey | connection
deriving DecidableEq

/- The options of a connection that decide on the check. -/
structure ConnectOptions where
  host : Text
  port : Nat
  knownHosts : Option Text

/- The result, and what was done on the way. -/
abbrev Attempt := Except BridgeError Unit × List SshAction

def connect (library : SshLibrary) (options : ConnectOptions) (server : SshServer) : Attempt :=
  let isKnown := options.knownHosts.all
    (fun hosts => library.matchesEntry hosts options.host options.port server.hostKey)
  if server.reachable = true ∧ isKnown = true then
    (require (server.acceptsLogin = true) .connection, [.presented server.hostKey])
  else (.error .connection, [])

def connectOptions (envelope : Envelope) : ConnectOptions where
  host := envelope.host
  port := envelope.port
  knownHosts :=
    if knownHostsOf envelope.details ≠ [] then some (knownHostsOf envelope.details)
    else none

/- The host key part of `bridge_ssh`, once connected. -/
def checkObserved (callback : Option (Text → Bool))
    (envelope : Envelope) (hostKey : Text) : Attempt :=
  if knownHostsOf envelope.details ≠ [] then (.ok (), [])
  else if hostKeyPolicyOf envelope.details ≠ "tofu" then
    (.error (.protocol "SSH host-key trust is not configured."), [])
  else
    match callback with
    | none => (.error (.protocol "SSH host-key trust is not configured."), [])
    | some ask =>
      (require (ask hostKey = true) (.protocol "The observed SSH host key could not be recorded."),
        [.asked hostKey (ask hostKey)])

/- The secret is a password, or a key that is imported. -/
def credentialLoads (library : SshLibrary) (envelope : Envelope) : Bool :=
  if envelope.credentialKind = "ssh_key" then library.importsKey envelope.secret
  else true

/- `bridge_ssh`, until it creates the process. -/
def openConnection (library : SshLibrary) (server : SshServer) (callback : Option (Text → Bool))
    (envelope : Envelope) : Attempt :=
  if envelope.protocol ≠ "ssh" then
    (.error (.protocol "Le broker SSH refuse ce protocole."), [])
  else if credentialLoads library envelope = false then (.error .privateKey, [])
  else
    match connect library (connectOptions envelope) server with
    | (.error failure, actions) => (.error failure, actions)
    | (.ok _, actions) =>
      let checked := checkObserved callback envelope server.hostKey
      (checked.1, actions ++ checked.2)

---- The Callback

/- The call of `gateway_trust_host_key` for a key. -/
def trustRequest (keyId : Uuid) (envelope : Envelope) (hostKey : Text) : TrustRequest where
  payload := .ok
    { sessionId := some envelope.sessionId, publicKey := hostKey }
  keyId := keyId

/- `trust_host_key` of the client: status 200. -/
def isSuccess {α : Type} : Response α → Bool
| .success _ => true
| _ => false

/- The callback that `GatewayApplication` gives the bridge. -/
def gatewayCallback
    (site : Site) (moment : Moment) (keys : KeyLibrary) (keyId : Uuid) (db : Database)
    (envelope : Envelope) : Option (Text → Bool) :=
  if hostKeyPolicyOf envelope.details = "tofu" ∧ knownHostsOf envelope.details = [] then
    some (fun hostKey =>
      isSuccess (gatewayTrustHostKey site moment keys (trustRequest keyId envelope hostKey) db).1)
  else none

variable {library : SshLibrary} {server : SshServer} {envelope : Envelope} {site : Site}
variable {moment : Moment} {keys : KeyLibrary} {keyId : Uuid} {db : Database}

/- The key matches an entry of the known hosts. -/
def IsKnownHost (library : SshLibrary) (envelope : Envelope) (hostKey : Text) : Prop :=
  knownHostsOf envelope.details ≠ [] ∧
    library.matchesEntry (knownHostsOf envelope.details) envelope.host envelope.port hostKey = true

/- The callback exists and accepts the key. -/
def CallbackAccepts (callback : Option (Text → Bool)) (hostKey : Text) : Prop :=
  ∃ ask, callback = some ask ∧ ask hostKey = true

/- The registry of host keys accepts the key. -/
def RegistryAccepts (site : Site) (moment : Moment) (keys : KeyLibrary) (request : TrustRequest)
    (db : Database) : Prop :=
  ∃ answer after, gatewayTrustHostKey site moment keys request db = (.success answer, after)

theorem isSuccess_iff {request : TrustRequest} :
    isSuccess (gatewayTrustHostKey site moment keys request db).1 = true ↔
      RegistryAccepts site moment keys request db := by
  unfold RegistryAccepts
  rcases gatewayTrustHostKey site moment keys request db with ⟨answer | _ | failure, after⟩
  · simp [isSuccess]
  · simp [isSuccess]
  · simp [isSuccess]

variable {hostKey : Text}

theorem callbackAccepts_iff :
    CallbackAccepts (gatewayCallback site moment keys keyId db envelope) hostKey ↔
      (hostKeyPolicyOf envelope.details = "tofu" ∧ knownHostsOf envelope.details = []) ∧
        RegistryAccepts site moment keys (trustRequest keyId envelope hostKey) db := by
  unfold CallbackAccepts gatewayCallback
  rw [← isSuccess_iff]
  split
  · rename_i hOffered
    simp [hOffered]
  · rename_i hNot
    simp [hNot]

---- When The Credential Is Presented

/- The bridge gets as far as the host key of the server. -/
structure ReachesKey (library : SshLibrary) (server : SshServer) (envelope : Envelope) : Prop where
  protocol : envelope.protocol = "ssh"
  credential : credentialLoads library envelope = true
  reachable : server.reachable = true

variable {callback : Option (Text → Bool)} {key : Text}

theorem not_presented_checkObserved :
    .presented key ∉ (checkObserved callback envelope hostKey).2 := by
  unfold checkObserved
  split
  · exact not_mem_nil
  · split
    · exact not_mem_nil
    · split
      · exact not_mem_nil
      · simp

theorem isKnown_connectOptions_iff : (connectOptions envelope).knownHosts.all (fun hosts =>
      library.matchesEntry hosts envelope.host envelope.port server.hostKey) = true ↔
    knownHostsOf envelope.details = [] ∨ IsKnownHost library envelope server.hostKey := by
  unfold connectOptions IsKnownHost
  by_cases hNone : knownHostsOf envelope.details = [] <;> simp [hNone]

theorem presented_connect_iff :
    .presented key ∈ (connect library (connectOptions envelope) server).2 ↔
      server.reachable = true ∧ key = server.hostKey ∧
        (knownHostsOf envelope.details = [] ∨ IsKnownHost library envelope server.hostKey) := by
  rw [← isKnown_connectOptions_iff]
  unfold connect
  dsimp only
  split
  · rename_i hBoth
    have hKnown := hBoth.2
    simp only [mem_singleton, SshAction.presented.injEq]
    constructor
    · exact fun hKey => ⟨hBoth.1, hKey, hKnown⟩
    · exact fun hAll => hAll.2.1
  · rename_i hNot
    constructor
    · exact fun hMem => absurd hMem not_mem_nil
    · exact fun hAll => absurd ⟨hAll.1, hAll.2.2⟩ hNot

theorem presented_iff : .presented key ∈ (openConnection library server callback envelope).2 ↔
    ReachesKey library server envelope ∧ key = server.hostKey ∧
      (knownHostsOf envelope.details = [] ∨ IsKnownHost library envelope server.hostKey) := by
  unfold openConnection
  split
  · rename_i hProtocol
    constructor
    · exact fun hMem => absurd hMem not_mem_nil
    · exact fun hAll => absurd hAll.1.protocol hProtocol
  rename_i hProtocol
  rw [not_not] at hProtocol
  split
  · rename_i hCredential
    constructor
    · exact fun hMem => absurd hMem not_mem_nil
    · intro hAll
      rw [hAll.1.credential] at hCredential
      cases hCredential
  · rename_i hCredential
    rw [Bool.not_eq_false] at hCredential
    have hConnect := @presented_connect_iff library server envelope key
    have hReaches : ReachesKey library server envelope ↔ server.reachable = true :=
      ⟨fun hAll => hAll.reachable, fun hAll => ⟨hProtocol, hCredential, hAll⟩⟩
    rw [hReaches, ← hConnect]
    split
    · rename_i hFailed
      rw [hFailed]
    rename_i hOk
    rw [hOk]
    rw [mem_append]
    constructor
    · rintro (hMem | hMem)
      · exact hMem
      · exact absurd hMem not_presented_checkObserved
    · exact Or.inl

/-
  Only a server whose key is known or accepted gets the credential exactly if the bridge does not
  reach the server, the envelope has known hosts, or the registry would accept the key.
-/
theorem credential_presented_iff
    (library : SshLibrary) (server : SshServer) (envelope : Envelope) (site : Site)
    (moment : Moment) (keys : KeyLibrary) (keyId : Uuid) (db : Database) :
    (∀ key, .presented key ∈ (openConnection library server
      (gatewayCallback site moment keys keyId db envelope) envelope).2 →
      IsKnownHost library envelope key ∨
        CallbackAccepts (gatewayCallback site moment keys keyId db envelope) key) ↔
      ¬ ReachesKey library server envelope ∨ knownHostsOf envelope.details ≠ [] ∨
        (hostKeyPolicyOf envelope.details = "tofu" ∧
          RegistryAccepts site moment keys (trustRequest keyId envelope server.hostKey) db) := by
  constructor
  · intro hChecked
    by_contra hNot
    rw [not_or, not_or, not_not, not_not] at hNot
    rcases hNot with ⟨hReaches, hNone, hRefused⟩
    rcases hChecked server.hostKey (presented_iff.mpr ⟨hReaches, rfl, .inl hNone⟩) with
      hKnown | hAccepts
    · exact hKnown.1 hNone
    · rw [callbackAccepts_iff] at hAccepts
      exact hRefused ⟨hAccepts.1.1, hAccepts.2⟩
  · intro hSafe key hPresented
    rcases presented_iff.mp hPresented with ⟨hReaches, rfl, hNone | hKnown⟩
    · rcases hSafe with hNot | hSome | hAccepts
      · exact absurd hReaches hNot
      · exact absurd hNone hSome
      · exact .inr (callbackAccepts_iff.mpr ⟨⟨hAccepts.1, hNone⟩, hAccepts.2⟩)
    · exact .inl hKnown

---- A Revoked Key

def sampleSsh : SshLibrary where
  matchesEntry := fun hosts host _ hostKey =>
    decide (hosts = host ++ 32 :: (hostKey ++ [10]))
  importsKey := fun _ => true

def sampleServer : SshServer where
  hostKey := sampleKey
  reachable := true
  acceptsLogin := true

/- The key of the target was recorded, and is revoked now. -/
def revokedHosts : Database := (revoking (trusting 5 sampleHosts).2).2

/- Another key became active after the envelope was made. -/
def otherHosts : Database :=
  { sampleHosts with
    hostKeys :=
      [{ targetId := 1
         publicKey := "ssh-ed25519 BBBB"
         revokedAt := none
         id := 9
         fingerprintSha256 := "SHA256:other" }] }

/- The envelope of the session, as the API fills it. -/
def sampleTofu (db : Database) : Except Failure Envelope := do
  let details ← sshDetails Targets.sampleSession sampleTarget db
  return { sampleEnvelope with sessionId := Uuid.str 4, details := details }

def sampleAttempt (registry : Database) (envelope : Envelope) : Attempt :=
  openConnection sampleSsh sampleServer (gatewayCallback sampleSite
    sampleMoment sampleLibrary 6 registry envelope) envelope

/- In both cases the credential is presented to the server, and only then is its key refused. -/
theorem refused_server_gets_credential :
    ((sampleTofu revokedHosts).map (sampleAttempt revokedHosts)).map Prod.snd =
        .ok [.presented sampleKey, .asked sampleKey false] ∧
      IsRevoked 1 samplePrint revokedHosts.hostKeys ∧
      ((sampleTofu sampleHosts).map (sampleAttempt otherHosts)).map Prod.snd =
        .ok [.presented sampleKey, .asked sampleKey false] := by
  refine ⟨rfl, ?_, rfl⟩
  exact ⟨_, mem_cons_self, rfl, rfl, Option.some_ne_none _⟩

end PamOlive.Gateway
