import PamOlive.Policies.Services

/-
  Outgoing connections.

  `validate_outbound_host` resolves a name once and checks the addresses. The libraries that then
  connect resolve it again, and `requests` follows redirects. What an `Internet` answers may change
  from call to call; a host that is an address is its own answer.
-/

---- The Internet

namespace PamOlive.Outbound

open Foundations List

/- What `urlparse` gives; an invalid port raises. -/
structure ParsedUrl where
  scheme : Text
  hostname : Text
  username : Text
  password : Text
  port : Option (Option Nat)

structure Url where
  scheme : Text
  host : Text
  port : Nat

/- What the code uses of the libraries of Python. -/
structure OutboundLibrary where
  urlparse : Text → ParsedUrl
  requestUrl : Text → Option Url
  parseNetwork : Text → Option IpNetwork
  isGlobal : IpAddress → Bool
  literal : Text → Option IpAddress
  hostname : Text
  literal_hostname : literal hostname = none

structure OutboundSettings where
  allowedCidrs : List Text
  allowUnresolvedHosts : Bool
  keyringUrl : Option Url

inductive OutboundError where
  | validation (message : Text)
  | valueError | unresolved | notConnected | invalidUrl | tooManyRedirects | requestFailed
  | vault (message : Text)
deriving DecidableEq

/- Success, with or without the field that the keyring client reads, a redirect, or failure. -/
inductive Response where
  | success (hasPlaintext : Bool)
  | redirect (target : Url)
  | failed

/- Answers by the number of the call. -/
structure Internet (library : OutboundLibrary) where
  lookup : Nat → Text → Nat → Option (IpAddress × List IpAddress)
  lookup_literal : ∀ index host port address,
    library.literal host = some address → lookup index host port = some (address, [])
  connects : Nat → IpAddress → Bool
  respond : Nat → Response
  localDecrypts : Bool

/- How many calls were made, and what connections opened. -/
structure Net where
  lookups : Nat := 0
  attempts : Nat := 0
  requests : Nat := 0
  opened : List IpAddress := []

variable {library : OutboundLibrary}

def getaddrinfo (internet : Internet library) (host : Text) (port : Nat) (net : Net) :
    Except OutboundError (List IpAddress) × Net :=
  let after := { net with lookups := net.lookups + 1 }
  match internet.lookup net.lookups host port with
  | none => (.error .unresolved, after)
  | some (first, others) => (.ok (first :: others), after)

---- Validation

def unresolvedMessage : Text := "La destination sortante ne peut pas être résolue."

def specialMessage : Text :=
  "La destination sortante utilise une adresse spéciale ou privée non autorisée."

def urlMessage : Text := "L’URL sortante est invalide ou utilise un protocole non autorisé."

def cidrMessage (value : Text) : Text := "CIDR sortant invalide : " ++ value ++ "."

section

variable (library : OutboundLibrary)

def allowedNetworks (settings : OutboundSettings) : Except OutboundError (List IpNetwork) :=
  settings.allowedCidrs.mapM
    (fun value => found (library.parseNetwork value) (.validation (cidrMessage value)))

def permitted (networks : List IpNetwork) (address : IpAddress) : Bool :=
  networks.any (fun network => Policies.IpNetwork.contains network address) ||
    library.isGlobal address

/- The loop of `validate_outbound_host`. -/
def checkAddresses (settings : OutboundSettings) (addresses : List IpAddress) :
    Except OutboundError Unit := do
  let networks ← allowedNetworks library settings
  require (addresses.all (permitted library networks) = true) (.validation specialMessage)

end

def validateOutboundHost
    (settings : OutboundSettings) (internet : Internet library) (host : Text) (port : Nat)
    (net : Net) : Except OutboundError Unit × Net :=
  match getaddrinfo internet host port net with
  | (.error _, after) =>
    (if settings.allowUnresolvedHosts then .ok ()
      else .error (.validation unresolvedMessage), after)
  | (.ok addresses, after) => (checkAddresses library settings addresses, after)

/- `parsed.port or default_port`. -/
def portOr (default : Nat) : Option Nat → Nat
| some port => if port = 0 then default else port
| none => default

def ParsedUrl.refused (parsed : ParsedUrl) : Bool :=
  decide (parsed.scheme ≠ "https" ∨ parsed.hostname = [] ∨ parsed.username ≠ [] ∨
    parsed.password ≠ [])

/- `validate_outbound_url`, with the scheme `https` only. -/
def validateOutboundUrl (settings : OutboundSettings) (internet : Internet library) (value : Text)
    (net : Net) : Except OutboundError Unit × Net :=
  let parsed := library.urlparse value
  if parsed.refused then (.error (.validation urlMessage), net)
  else
    match parsed.port with
    | none => (.error .valueError, net)
    | some port => validateOutboundHost settings internet parsed.hostname (portOr 443 port) net

def tryAddresses (internet : Internet library) :
    List IpAddress → Net → Except OutboundError Unit × Net
| [], net => (.error .notConnected, net)
| address :: others, net =>
  let after := { net with attempts := net.attempts + 1 }
  if internet.connects net.attempts address then
    (.ok (), { after with opened := after.opened ++ [address] })
  else tryAddresses internet others after

/- `create_connection`, of `socket` and of `urllib3`. -/
def createConnection (internet : Internet library) (host : Text) (port : Nat) :
    Net → Except OutboundError Unit × Net :=
  andThen (getaddrinfo internet host port) (tryAddresses internet)

def Url.isWeb (url : Url) : Bool :=
  decide (url.scheme = "https" ∨ url.scheme = "http")

/- A request, and the redirects of at most some answers. -/
def follow (internet : Internet library) : Nat → Url → Net → Except OutboundError Bool × Net
| 0, _, net => (.error .tooManyRedirects, net)
| count + 1, url, net =>
  if url.isWeb then
    andThen (createConnection internet url.host url.port) (fun _ net =>
        let after := { net with requests := net.requests + 1 }
        match internet.respond net.requests with
        | .success hasPlaintext => (.ok hasPlaintext, after)
        | .redirect target => follow internet count target after
        | .failed => (.error .requestFailed, after))
      net
  else (.error .invalidUrl, net)

def maxRedirects : Nat := 30

/- `requests.post` and `raise_for_status`. -/
def requestsPost
    (internet : Internet library) (url : Url) : Net → Except OutboundError Bool × Net :=
  follow internet (maxRedirects + 1) url

---- What Every Call Keeps

/- Lookups are counted, and opened connections recorded. -/
structure Later (before after : Net) : Prop where
  lookups : before.lookups ≤ after.lookups
  opened : before.opened ⊆ after.opened

theorem later_refl (net : Net) : Later net net := ⟨Nat.le_refl _, Subset.refl _⟩

theorem later_trans (first second third : Net) (hFirst : Later first second)
    (hSecond : Later second third) : Later first third :=
  ⟨Nat.le_trans hFirst.lookups hSecond.lookups, Subset.trans hFirst.opened hSecond.opened⟩

variable (internet : Internet library)

theorem snd_getaddrinfo (host : Text) (port : Nat) (net : Net) :
    (getaddrinfo internet host port net).2 = { net with lookups := net.lookups + 1 } := by
  unfold getaddrinfo
  split <;> rfl

theorem later_getaddrinfo (host : Text) (port : Nat) (net : Net) :
    Later net (getaddrinfo internet host port net).2 := by
  rw [snd_getaddrinfo]
  exact ⟨Nat.le_succ _, Subset.refl _⟩

theorem later_tryAddresses (addresses : List IpAddress) (net : Net) :
    Later net (tryAddresses internet addresses net).2 := by
  induction addresses generalizing net with
  | nil => exact later_refl net
  | cons address others ih =>
    unfold tryAddresses
    split
    · exact ⟨Nat.le_refl _, subset_append_left _ _⟩
    · have hRest := ih { net with attempts := net.attempts + 1 }
      exact ⟨hRest.lookups, hRest.opened⟩

theorem later_createConnection (host : Text) (port : Nat) (net : Net) :
    Later net (createConnection internet host port net).2 :=
  andThen_relates later_trans (later_getaddrinfo internet host port)
    (later_tryAddresses internet) net

theorem later_follow (count : Nat) (url : Url) (net : Net) :
    Later net (follow internet count url net).2 := by
  induction count generalizing url net with
  | zero => exact later_refl net
  | succ count ih =>
    unfold follow
    split
    · refine andThen_relates later_trans (later_createConnection internet url.host url.port) ?_ net
      intro _ state
      have hCounted : Later state { state with requests := state.requests + 1 } :=
        ⟨Nat.le_refl _, Subset.refl _⟩
      split
      · exact hCounted
      · exact later_trans _ _ _ hCounted (ih _ _)
      · exact hCounted
    · exact later_refl net

theorem opened_tryAddresses (addresses : List IpAddress) (net : Net) :
    ∀ address ∈ (tryAddresses internet addresses net).2.opened,
      address ∈ net.opened ∨ address ∈ addresses := by
  induction addresses generalizing net with
  | nil => exact fun _ hMem => .inl hMem
  | cons first others ih =>
    unfold tryAddresses
    split
    · intro address hMem
      rcases mem_append.mp hMem with hOld | hNew
      · exact .inl hOld
      · rw [mem_singleton.mp hNew]
        exact .inr mem_cons_self
    · intro address hMem
      rcases ih _ address hMem with hOld | hNew
      · exact .inl hOld
      · exact .inr (mem_cons_of_mem first hNew)

theorem snd_validateOutboundHost
    (settings : OutboundSettings) (host : Text) (port : Nat) (net : Net) :
    (validateOutboundHost settings internet host port
      net).2 = { net with lookups := net.lookups + 1 } := by
  have hAfter := snd_getaddrinfo internet host port net
  unfold validateOutboundHost
  split
  all_goals
    rename_i hLookup
    rw [hLookup] at hAfter
    exact hAfter

theorem opened_validateOutboundUrl (settings : OutboundSettings) (value : Text) (net : Net) :
    (validateOutboundUrl settings internet value net).2.opened = net.opened := by
  unfold validateOutboundUrl
  dsimp only
  split
  · rfl
  · split
    · rfl
    · rw [snd_validateOutboundHost]

variable {settings : OutboundSettings} {host : Text} {port : Nat} {net : Net}

theorem checkAddresses_eq_ok_iff {addresses : List IpAddress} :
    checkAddresses library settings addresses = .ok () ↔
      ∃ networks, allowedNetworks library settings = .ok networks ∧
        ∀ address ∈ addresses, permitted library networks address = true := by
  unfold checkAddresses
  rw [bind_eq_ok_iff]
  simp [require]

theorem addresses_of_validated (hResolved : settings.allowUnresolvedHosts = false)
    (hValid : (validateOutboundHost settings internet host port net).1 = .ok ()) :
    ∃ networks first others, allowedNetworks library settings = .ok networks ∧
      internet.lookup net.lookups host port = some (first, others) ∧
      ∀ address ∈ first :: others, permitted library networks address = true := by
  unfold validateOutboundHost getaddrinfo at hValid
  split at hValid
  · rw [hResolved] at hValid
    cases hValid
  rename_i hLookup
  split at hLookup
  · cases hLookup
  · rename_i first others hAnswer
    rw [Prod.mk.injEq, Except.ok.injEq] at hLookup
    rw [← hLookup.1, checkAddresses_eq_ok_iff] at hValid
    rcases hValid with ⟨networks, hNetworks, hAll⟩
    exact ⟨networks, first, others, hNetworks, hAnswer, hAll⟩

---- A Hostile Internet

def elsewhere (library : OutboundLibrary) : Url := ⟨"https", library.hostname, 443⟩

theorem isWeb_elsewhere : (elsewhere library).isWeb = true := decide_eq_true (.inl rfl)

variable (library) in
/- Names resolve to one address first and to another later, and every server redirects. -/
def attack (shown hidden : IpAddress) : Internet library where
  lookup := fun index host _ =>
    match library.literal host with
    | some address => some (address, [])
    | none => some (if index = 0 then shown else hidden, [])
  lookup_literal := by
    intro index host port address hLiteral
    rw [hLiteral]
  connects := fun _ _ => true
  respond := fun _ => .redirect (elsewhere library)
  localDecrypts := true

variable {shown hidden : IpAddress}

theorem createConnection_attack (hLater : 1 ≤ net.lookups) :
    createConnection (attack library shown hidden) host port net = (.ok (), { net with
        lookups := net.lookups + 1
        attempts := net.attempts + 1
        opened := net.opened ++ [(library.literal host).getD hidden] }) := by
  have hIndex : net.lookups ≠ 0 := Nat.one_le_iff_ne_zero.mp hLater
  unfold createConnection andThen getaddrinfo
  cases hLiteral : library.literal host with
  | none => simp [attack, hLiteral, hIndex, tryAddresses]
  | some address => simp [attack, hLiteral, tryAddresses]

theorem follow_attack {count : Nat} {url : Url} (hLater : 1 ≤ net.lookups)
    (hWeb : url.isWeb = true) :
    follow (attack library shown hidden) (count + 1) url net =
      follow (attack library shown hidden) count (elsewhere library)
        { lookups := net.lookups + 1
          attempts := net.attempts + 1
          requests := net.requests + 1
          opened := net.opened ++ [(library.literal url.host).getD hidden] } := by
  conv_lhs => unfold follow
  rw [if_pos hWeb]
  unfold andThen
  rw [createConnection_attack hLater]
  rfl

theorem hidden_mem_follow {count : Nat} {url : Url} {net : Net} (hLater : 1 ≤ net.lookups)
    (hWeb : url.isWeb = true) :
    hidden ∈ (follow (attack library shown hidden) (count + 2) url net).2.opened := by
  rw [follow_attack hLater hWeb, follow_attack (Nat.le_succ_of_le hLater) isWeb_elsewhere]
  refine (later_follow _ count _ _).opened ?_
  have hName : library.literal (elsewhere library).host = none := library.literal_hostname
  rw [hName]
  exact mem_append_right _ mem_cons_self

theorem validateOutboundHost_attack {networks : List IpNetwork}
    (hNetworks : allowedNetworks library settings = .ok networks)
    (hShown : permitted library networks shown = true)
    (hHost :
      ∀ address, library.literal host = some address → permitted library networks address = true) :
    validateOutboundHost settings (attack library shown hidden) host port {} =
      (.ok (), { lookups := 1 }) := by
  have hAnswer : ∃ address, (attack library shown hidden).lookup 0 host port = some (address, []) ∧
    permitted library networks address = true := by
    cases hLiteral : library.literal host with
    | none =>
      refine ⟨shown, ?_, hShown⟩
      simp [attack, hLiteral]
    | some address =>
      refine ⟨address, ?_, hHost address hLiteral⟩
      simp [attack, hLiteral]
  rcases hAnswer with ⟨address, hAnswer, hPermitted⟩
  have hCheck : checkAddresses library settings [address] = .ok () := by
    rw [checkAddresses_eq_ok_iff]
    refine ⟨networks, hNetworks, ?_⟩
    intro other hOther
    rw [mem_singleton.mp hOther]
    exact hPermitted
  unfold validateOutboundHost getaddrinfo
  rw [hAnswer]
  simp [hCheck]

end PamOlive.Outbound
