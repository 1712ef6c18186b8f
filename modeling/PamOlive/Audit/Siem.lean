import PamOlive.Common.Network
import PamOlive.Common.Outbound

/-
  Delivery of events to a SIEM.

  `deliver_event` validates a destination and sends to a webhook or a syslog server. The result
  says for which integrations every connection goes to a permitted address, whatever the resolver
  and the servers answer. The rows that record a delivery are left out.
-/

---- Delivery

namespace PamOlive.Siem

open Foundations Outbound Vault List

inductive SIEMKind where
  | httpsWebhook | syslogTls
deriving DecidableEq

structure SIEMIntegration where
  kind : SIEMKind
  endpoint : Text
  host : Text
  port : Nat
  encryptedAuthToken : Bytes
  authTokenEncryptionKeyId : Text

variable {library : OutboundLibrary}

def legacyKeyMessage (keyId : Text) : Text :=
  "Secret uses legacy key '" ++ keyId ++ "'; run migrate_secrets_to_keyring"

def decryptMessage : Text := "Credential could not be decrypted"

section

variable (settings : OutboundSettings) (internet : Internet library)

/- `KeyringClient.decrypt`, or that of the test backend. -/
def keyringDecrypt (net : Net) : Except OutboundError Unit × Net :=
  match settings.keyringUrl with
  | none => (require (internet.localDecrypts = true) (.vault decryptMessage), net)
  | some url =>
    match requestsPost internet url net with
    | (.ok true, after) => (.ok (), after)
    | (_, after) => (.error (.vault decryptMessage), after)

/- `_auth_token`, with `VaultCipher.decrypt`. -/
def authToken (integration : SIEMIntegration) (net : Net) : Except OutboundError Unit × Net :=
  let keyId := integration.authTokenEncryptionKeyId
  if integration.encryptedAuthToken = [] then (.ok (), net)
  else if keyId ≠ [] ∧ keyId ≠ activeKeyId then (.error (.vault (legacyKeyMessage keyId)), net)
  else
    match decodeUtf8 integration.encryptedAuthToken with
    | none => (.error (.vault decryptMessage), net)
    | some _ => keyringDecrypt settings internet net

end

def postEndpoint (internet : Internet library) (endpoint : Text)
    (net : Net) : Except OutboundError Unit × Net :=
  match library.requestUrl endpoint with
  | none => (.error .invalidUrl, net)
  | some url =>
    match requestsPost internet url net with
    | (.ok _, after) => (.ok (), after)
    | (.error failure, after) => (.error failure, after)

section

variable (settings : OutboundSettings) (internet : Internet library) (integration : SIEMIntegration)

def sendHttps : Net → Except OutboundError Unit × Net :=
  andThen (validateOutboundUrl settings internet integration.endpoint) fun _ =>
  andThen (authToken settings internet integration) fun _ =>
  postEndpoint internet integration.endpoint

def sendSyslogTls : Net → Except OutboundError Unit × Net :=
  andThen (validateOutboundHost settings internet integration.host integration.port) fun _ =>
  createConnection internet integration.host integration.port

def deliverEvent : Net → Except OutboundError Unit × Net :=
  match integration.kind with
  | .httpsWebhook => sendHttps settings internet integration
  | .syslogTls => sendSyslogTls settings internet integration

end

---- Which Integrations Are Exposed

section

variable (library : OutboundLibrary) (settings : OutboundSettings)

/- Globally routable, or inside one of the networks. -/
def Permitted (address : IpAddress) : Prop :=
  library.isGlobal address = true ∨
    ∃ value ∈ settings.allowedCidrs, ∃ network, library.parseNetwork value = some network ∧
      Policies.IpNetwork.contains network address = true

/- Every connection goes to a permitted address. -/
def Safe (integration : SIEMIntegration) : Prop :=
  ∀ internet : Internet library, ∀ address ∈
    (deliverEvent settings internet integration {}).2.opened, Permitted library settings address

end

/- The token is not set, or handed to the keyring. -/
def TokenReadable (integration : SIEMIntegration) : Prop :=
  integration.encryptedAuthToken = [] ∨ ((integration.authTokenEncryptionKeyId = [] ∨
    integration.authTokenEncryptionKeyId = activeKeyId) ∧
    (decodeUtf8 integration.encryptedAuthToken).isSome)

section

variable (library : OutboundLibrary) (settings : OutboundSettings)

/- The first request: to the keyring, or to the endpoint. -/
def firstUrl (integration : SIEMIntegration) : Option Url :=
  if integration.encryptedAuthToken = [] then library.requestUrl integration.endpoint
  else settings.keyringUrl.or (library.requestUrl integration.endpoint)

section

variable (networks : List IpNetwork) (integration : SIEMIntegration)

/- A webhook that passes validation and sends a request. -/
structure SendsRequest : Prop where
  parts : (library.urlparse integration.endpoint).refused = false
  port : (library.urlparse integration.endpoint).port.isSome
  host : ∀ address, library.literal (library.urlparse integration.endpoint).hostname =
    some address →
    permitted library networks address = true
  token : TokenReadable integration
  url : ∃ url, firstUrl library settings integration = some url ∧ url.isWeb = true

/- The destination is looked up again after validation. -/
def LooksUpAgain : Prop :=
  match integration.kind with
  | .syslogTls => library.literal integration.host = none
  | .httpsWebhook => SendsRequest library settings networks integration

end

/- Some address passes validation and some other does not. -/
def Exposed (integration : SIEMIntegration) : Prop :=
  ∃ networks, allowedNetworks library settings = .ok networks ∧
    (∃ address, permitted library networks address = true) ∧
    (∃ address, permitted library networks address = false) ∧
    LooksUpAgain library settings networks integration

end

variable {settings : OutboundSettings} {networks : List IpNetwork} {integration : SIEMIntegration}

theorem mem_networks_iff {values : List Text} {failure : Text → OutboundError}
    (hNetworks : values.mapM (fun value => found (library.parseNetwork value) (failure value)) =
      .ok networks)
    (network : IpNetwork) :
    network ∈ networks ↔ ∃ value ∈ values, library.parseNetwork value = some network := by
  induction values generalizing networks with
  | nil =>
    rw [mapM_nil, pure_eq_ok_iff] at hNetworks
    rw [← hNetworks]
    simp
  | cons value rest ih =>
    rw [mapM_cons] at hNetworks
    rcases found_bind_eq_ok_iff.mp hNetworks with ⟨first, hFirst, hNetworks⟩
    rcases bind_eq_ok_iff.mp hNetworks with ⟨others, hOthers, hNetworks⟩
    rw [pure_eq_ok_iff] at hNetworks
    rw [← hNetworks, mem_cons, ih hOthers, exists_mem_cons_iff, hFirst, Option.some.injEq, eq_comm]

theorem permitted_iff (hNetworks : allowedNetworks library settings = .ok networks)
    (address : IpAddress) :
    permitted library networks address = true ↔ Permitted library settings address := by
  unfold permitted Permitted
  rw [Bool.or_eq_true, any_eq_true, or_comm]
  refine or_congr Iff.rfl ?_
  constructor
  · rintro ⟨network, hMem, hContains⟩
    rcases (mem_networks_iff hNetworks network).mp hMem with ⟨value, hValue, hParsed⟩
    exact ⟨value, hValue, network, hParsed, hContains⟩
  · rintro ⟨value, hValue, network, hParsed, hContains⟩
    exact ⟨network, (mem_networks_iff hNetworks network).mpr ⟨value, hValue, hParsed⟩, hContains⟩

variable (internet : Internet library) {net : Net}

theorem literal_of_validated {host : Text} {port : Nat}
    (hResolved : settings.allowUnresolvedHosts = false)
    (hValid : (validateOutboundHost settings internet host port net).1 = .ok ()) :
    ∃ networks, allowedNetworks library settings = .ok networks ∧
      (∃ address, permitted library networks address = true) ∧
      ∀ address, library.literal host = some address →
        permitted library networks address = true := by
  rcases addresses_of_validated internet hResolved hValid with
    ⟨networks, first, others, hNetworks, hLookup, hAll⟩
  refine ⟨networks, hNetworks, ⟨first, hAll first mem_cons_self⟩, ?_⟩
  intro address hLiteral
  rw [internet.lookup_literal _ _ _ address hLiteral, Option.some.injEq, Prod.mk.injEq] at hLookup
  rw [hLookup.1]
  exact hAll first mem_cons_self

theorem url_of_validated {value : Text} (hResolved : settings.allowUnresolvedHosts = false)
    (hValid : (validateOutboundUrl settings internet value net).1 = .ok ()) :
    (library.urlparse value).refused = false ∧ (library.urlparse value).port.isSome ∧
      ∃ networks, allowedNetworks library settings = .ok networks ∧
        (∃ address, permitted library networks address = true) ∧
        ∀ address, library.literal (library.urlparse value).hostname = some address →
          permitted library networks address = true := by
  unfold validateOutboundUrl at hValid
  dsimp only at hValid
  split at hValid
  · cases hValid
  · rename_i hParts
    split at hValid
    · cases hValid
    · rename_i port hPort
      exact ⟨Bool.eq_false_iff.mpr hParts, by rw [hPort]; rfl,
        literal_of_validated internet hResolved hValid⟩

---- Requests That Are Not Sent

variable {url : Url}

theorem requestsPost_of_not_web (hNotWeb : url.isWeb = false) :
    requestsPost internet url net = (.error .invalidUrl, net) := by
  unfold requestsPost follow
  rw [hNotWeb]
  rfl

variable {endpoint : Text}

theorem snd_postEndpoint_of_not_web
    (hNotWeb : ∀ url, library.requestUrl endpoint = some url → url.isWeb = false) :
    (postEndpoint internet endpoint net).2 = net := by
  unfold postEndpoint
  cases hUrl : library.requestUrl endpoint with
  | none => rfl
  | some url =>
    dsimp only
    rw [requestsPost_of_not_web internet (hNotWeb url hUrl)]

theorem authToken_of_not_readable {net : Net} (hNot : ¬ TokenReadable integration) :
    ∃ failure, authToken settings internet integration net = (.error failure, net) := by
  unfold authToken
  dsimp only
  split
  · rename_i hEmpty
    exact absurd (.inl hEmpty) hNot
  split
  · exact ⟨_, rfl⟩
  rename_i hKey
  split
  · exact ⟨_, rfl⟩
  · rename_i text hText
    refine absurd (.inr ⟨?_, by rw [hText]; rfl⟩) hNot
    by_contra hOther
    rw [not_or] at hOther
    exact hKey hOther

theorem authToken_of_readable (hToken : integration.encryptedAuthToken ≠ [])
    (hReadable : TokenReadable integration) :
    authToken settings internet integration net = keyringDecrypt settings internet net := by
  rcases hReadable with hEmpty | ⟨hKey, hText⟩
  · exact absurd hEmpty hToken
  · rcases Option.isSome_iff_exists.mp hText with ⟨text, hText⟩
    unfold authToken
    rw [if_neg hToken, if_neg, hText]
    rintro ⟨hSet, hOther⟩
    rcases hKey with hNone | hActive
    · exact hSet hNone
    · exact hOther hActive

theorem opened_of_no_first_request (hReadable : TokenReadable integration)
    (hNotWeb : ∀ url, firstUrl library settings integration = some url → url.isWeb = false) :
    (andThen (authToken settings internet integration)
      (fun _ => postEndpoint internet integration.endpoint) net).2.opened = net.opened := by
  unfold firstUrl at hNotWeb
  by_cases hToken : integration.encryptedAuthToken = []
  · rw [if_pos hToken] at hNotWeb
    unfold andThen authToken
    rw [if_pos hToken]
    rw [snd_postEndpoint_of_not_web internet hNotWeb]
  rw [if_neg hToken] at hNotWeb
  unfold andThen
  rw [authToken_of_readable internet hToken hReadable]
  unfold keyringDecrypt
  cases hKeyring : settings.keyringUrl with
  | none =>
    rw [hKeyring, Option.none_or] at hNotWeb
    cases internet.localDecrypts with
    | true => exact congrArg Net.opened (snd_postEndpoint_of_not_web internet hNotWeb)
    | false => rfl
  | some url =>
    rw [hKeyring, Option.some_or] at hNotWeb
    dsimp only
    rw [requestsPost_of_not_web internet (hNotWeb url rfl)]

theorem opened_sendHttps (hResolved : settings.allowUnresolvedHosts = false)
    (hNot : ¬ ∃ networks, allowedNetworks library settings = .ok networks ∧
          (∃ address, permitted library networks address = true) ∧
          SendsRequest library settings networks integration) :
    (sendHttps settings internet integration {}).2.opened = [] := by
  have hOpened := opened_validateOutboundUrl internet settings integration.endpoint {}
  refine @andThen_snd_of _ _ _ _ _ _ _ (fun after : Net => after.opened = []) ?_ ?_
  · intro failure after hFailed
    rw [hFailed] at hOpened
    exact hOpened
  intro value after hValid
  rw [hValid] at hOpened
  have hUrl := url_of_validated internet hResolved (congrArg Prod.fst hValid)
  rcases hUrl with ⟨hParts, hPort, networks, hNetworks, hSome, hHost⟩
  refine Eq.trans ?_ hOpened
  by_cases hReadable : TokenReadable integration
  · refine opened_of_no_first_request internet hReadable ?_
    intro url hFirst
    by_contra hWeb
    rw [Bool.not_eq_false] at hWeb
    exact hNot ⟨networks, hNetworks, hSome, hParts, hPort, hHost, hReadable, url, hFirst, hWeb⟩
  · rcases @authToken_of_not_readable library settings integration internet after hReadable with
      ⟨failure, hFailed⟩
    unfold andThen
    rw [hFailed]

theorem opened_sendSyslogTls (hResolved : settings.allowUnresolvedHosts = false)
    (hNot : ¬ ∃ networks, allowedNetworks library settings = .ok networks ∧
      (∃ address, permitted library networks address = true) ∧
      library.literal integration.host = none) :
    ∀ other ∈ (sendSyslogTls settings internet integration {}).2.opened,
      Permitted library settings other := by
  have hAfter := snd_validateOutboundHost internet settings integration.host integration.port {}
  refine @andThen_snd_of _ _ _ _ _ _ _
    (fun after : Net => ∀ other ∈ after.opened, Permitted library settings other) ?_ ?_
  · intro failure after hFailed
    rw [hFailed] at hAfter
    dsimp only at hAfter
    rw [hAfter]
    exact fun _ hMem => absurd hMem not_mem_nil
  · intro value after hValid
    rw [hValid] at hAfter
    rcases literal_of_validated internet hResolved (congrArg Prod.fst hValid) with
      ⟨networks, hNetworks, hSome, hHost⟩
    have hLiteral : ∃ address, library.literal integration.host = some address := by
      rw [← Option.ne_none_iff_exists']
      exact fun hName =>
        hNot ⟨networks, hNetworks, hSome, hName⟩
    rcases hLiteral with ⟨address, hLiteral⟩
    have hPermitted := (permitted_iff hNetworks address).mp (hHost address hLiteral)
    unfold createConnection andThen getaddrinfo
    rw [internet.lookup_literal _ _ _ address hLiteral]
    intro other hMem
    rcases opened_tryAddresses internet _ _ other hMem with hOld | hNew
    · dsimp only at hAfter
      rw [hAfter] at hOld
      exact absurd hOld not_mem_nil
    · rw [mem_singleton.mp hNew]
      exact hPermitted

---- Requests To A Hidden Address

variable {shown hidden : IpAddress}

theorem later_postEndpoint (endpoint : Text) (net : Net) :
    Later net (postEndpoint internet endpoint net).2 := by
  unfold postEndpoint
  split
  · exact later_refl net
  rename_i url hUrl
  have hLater := later_follow internet (maxRedirects + 1) url net
  unfold requestsPost
  split
  all_goals
    rename_i hPost
    rw [hPost] at hLater
    exact hLater

theorem hidden_mem_postEndpoint (hLater : 1 ≤ net.lookups)
    (hUrl : library.requestUrl endpoint = some url) (hWeb : url.isWeb = true) :
    hidden ∈ (postEndpoint (attack library shown hidden) endpoint net).2.opened := by
  have hMem := @hidden_mem_follow library shown hidden 29 url net hLater hWeb
  unfold postEndpoint
  rw [hUrl]
  dsimp only
  unfold requestsPost maxRedirects
  split
  all_goals
    rename_i hPost
    rw [hPost] at hMem
    exact hMem

theorem hidden_mem_keyringDecrypt {url : Url} {net : Net} (hLater : 1 ≤ net.lookups)
    (hKeyring : settings.keyringUrl = some url) (hWeb : url.isWeb = true) :
    hidden ∈ (keyringDecrypt settings (attack library shown hidden) net).2.opened := by
  have hMem := @hidden_mem_follow library shown hidden 29 url net hLater hWeb
  unfold keyringDecrypt
  rw [hKeyring]
  dsimp only
  unfold requestsPost maxRedirects
  split
  all_goals
    rename_i hPost
    rw [hPost] at hMem
    exact hMem

theorem hidden_mem_first_request (hLater : 1 ≤ net.lookups) (hReadable : TokenReadable integration)
    (hFirst : firstUrl library settings integration = some url) (hWeb : url.isWeb = true) :
    hidden ∈ (andThen (authToken settings (attack library shown hidden) integration) (fun _ =>
        postEndpoint (attack library shown hidden) integration.endpoint) net).2.opened := by
  unfold firstUrl at hFirst
  by_cases hToken : integration.encryptedAuthToken = []
  · rw [if_pos hToken] at hFirst
    unfold andThen authToken
    rw [if_pos hToken]
    exact hidden_mem_postEndpoint hLater hFirst hWeb
  rw [if_neg hToken] at hFirst
  cases hKeyring : settings.keyringUrl with
  | none =>
    rw [hKeyring, Option.none_or] at hFirst
    unfold andThen
    rw [authToken_of_readable _ hToken hReadable]
    unfold keyringDecrypt
    rw [hKeyring]
    exact hidden_mem_postEndpoint hLater hFirst hWeb
  | some keyring =>
    rw [hKeyring, Option.some_or, Option.some.injEq] at hFirst
    rw [← hFirst] at hWeb
    have hMem :=
      @hidden_mem_keyringDecrypt library settings shown hidden keyring net hLater hKeyring hWeb
    rw [← authToken_of_readable _ hToken hReadable] at hMem
    refine @andThen_snd_of _ _ _ _ _ _ _ (fun after : Net => hidden ∈ after.opened) ?_ ?_
    · intro failure after hFailed
      rw [hFailed] at hMem
      exact hMem
    · intro value after hValue
      rw [hValue] at hMem
      exact (later_postEndpoint _ _ after).opened hMem

section

variable (hNetworks : allowedNetworks library settings = .ok networks)
  (hShown : permitted library networks shown = true)

include hNetworks hShown

theorem hidden_mem_sendHttps (hSends : SendsRequest library settings networks integration) :
    hidden ∈ (sendHttps settings (attack library shown hidden) integration {}).2.opened := by
  rcases Option.isSome_iff_exists.mp hSends.port with ⟨port, hPort⟩
  rcases hSends.url with ⟨url, hFirst, hWeb⟩
  have hValid : validateOutboundUrl settings (attack library shown hidden) integration.endpoint {} =
    (.ok (), { lookups := 1 }) := by
    unfold validateOutboundUrl
    dsimp only
    rw [hSends.parts, hPort]
    exact validateOutboundHost_attack hNetworks hShown hSends.host
  unfold sendHttps
  rw [andThen, hValid]
  exact hidden_mem_first_request (Nat.le_refl 1) hSends.token hFirst hWeb

theorem hidden_mem_sendSyslogTls (hName : library.literal integration.host = none) :
    hidden ∈ (sendSyslogTls settings (attack library shown hidden) integration {}).2.opened := by
  have hHost : ∀ address, library.literal integration.host = some address →
    permitted library networks address = true := by
    intro address hLiteral
    rw [hName] at hLiteral
    cases hLiteral
  unfold sendSyslogTls
  rw [andThen, validateOutboundHost_attack hNetworks hShown hHost]
  dsimp only
  rw [createConnection_attack (Nat.le_refl 1), hName]
  exact mem_append_right _ mem_cons_self

end

/-
  All connections of a delivery go to permitted addresses, whatever is answered, exactly if not
  both kinds of addresses exist, validation always fails, nothing is sent, or the destination is a
  syslog server given by its address.
-/
theorem deliver_event_safe_iff (hResolved : settings.allowUnresolvedHosts = false) :
    Safe library settings integration ↔ ¬ Exposed library settings integration := by
  constructor
  · rintro hSafe ⟨networks, hNetworks, ⟨shown, hShown⟩, ⟨hidden, hHidden⟩, hAgain⟩
    have hMem :
      hidden ∈ (deliverEvent settings (attack library shown hidden) integration {}).2.opened := by
      unfold LooksUpAgain at hAgain
      unfold deliverEvent
      cases hKind : integration.kind with
      | httpsWebhook =>
        rw [hKind] at hAgain
        exact hidden_mem_sendHttps hNetworks hShown hAgain
      | syslogTls =>
        rw [hKind] at hAgain
        exact hidden_mem_sendSyslogTls hNetworks hShown hAgain
    have hPermitted := (permitted_iff hNetworks hidden).mpr (hSafe _ hidden hMem)
    rw [hHidden] at hPermitted
    cases hPermitted
  · intro hNot internet address hMem
    by_contra hForbidden
    -- There is then a forbidden address.
    have hHidden : ∀ networks, allowedNetworks library settings = .ok networks →
      ∃ address, permitted library networks address = false := by
      intro networks hNetworks
      refine ⟨address, ?_⟩
      rw [← Bool.not_eq_true, permitted_iff hNetworks]
      exact hForbidden
    unfold Exposed LooksUpAgain at hNot
    unfold deliverEvent at hMem
    cases hKind : integration.kind with
    | httpsWebhook =>
      rw [hKind] at hMem hNot
      rw [opened_sendHttps internet hResolved] at hMem
      · exact not_mem_nil hMem
      · rintro ⟨networks, hNetworks, hSome, hSends⟩
        exact hNot ⟨networks, hNetworks, hSome, hHidden networks hNetworks, hSends⟩
    | syslogTls =>
      rw [hKind] at hMem hNot
      refine hForbidden (opened_sendSyslogTls internet hResolved ?_ address hMem)
      rintro ⟨networks, hNetworks, hSome, hName⟩
      exact hNot ⟨networks, hNetworks, hSome, hHidden networks hNetworks, hName⟩

---- Rebinding And Redirects

def siemHost : Text := "siem.example"

def siemEndpoint : Text := "https://siem.example/hook"

def ipv4 (first second third fourth : Nat) : IpAddress :=
  ⟨4, ((first * 256 + second) * 256 + third) * 256 + fourth⟩

def specialNetworks : List IpNetwork :=
  [⟨4, 10 * 2 ^ 24, 24⟩, ⟨4, 127 * 2 ^ 24, 24⟩, ⟨4, (172 * 256 + 16) * 2 ^ 16, 20⟩,
    ⟨4, (192 * 256 + 168) * 2 ^ 16, 16⟩, ⟨4, (169 * 256 + 254) * 2 ^ 16, 16⟩]

def sampleOutbound : OutboundLibrary where
  urlparse := fun value =>
    if value = siemEndpoint then ⟨"https", siemHost, [], [], some none⟩
    else ⟨[], [], [], [], some none⟩
  requestUrl := fun value =>
    if value = siemEndpoint then some ⟨"https", siemHost, 443⟩
    else none
  parseNetwork := fun _ => none
  isGlobal := fun address =>
    !specialNetworks.any (fun network => Policies.IpNetwork.contains network address)
  literal := fun host =>
    (Network.readIpv4 host).map (fun value => ⟨4, value⟩)
  hostname := siemHost
  literal_hostname := by decide +kernel

def sampleSettings : OutboundSettings where
  allowedCidrs := []
  allowUnresolvedHosts := false
  keyringUrl := none

/- What names resolve to and what servers answer, by turn. -/
def sampleInternet (resolve : Nat → IpAddress) (respond : Nat → Response) :
    Internet sampleOutbound where
  lookup := fun index host _ =>
    some ((sampleOutbound.literal host).getD (resolve index), [])
  lookup_literal := by
    intro index host port address hLiteral
    rw [hLiteral]
    rfl
  connects := fun _ _ => true
  respond := respond
  localDecrypts := true

def webhook : SIEMIntegration where
  kind := .httpsWebhook
  endpoint := siemEndpoint
  host := []
  port := 6514
  encryptedAuthToken := []
  authTokenEncryptionKeyId := []

def syslogServer (host : Text) : SIEMIntegration :=
  { webhook with kind := .syslogTls, host := host }

def rebinding : Internet sampleOutbound :=
  sampleInternet (fun index => if index = 0 then ipv4 8 8 8 8 else ipv4 10 0 0 5)
    (fun _ => .success false)

def redirecting : Internet sampleOutbound :=
  sampleInternet (fun _ => ipv4 8 8 8 8) (fun index =>
      if index = 0 then .redirect ⟨"http", "169.254.169.254", 80⟩ else .success false)

theorem not_permitted_special {address : IpAddress}
    (hSpecial : sampleOutbound.isGlobal address = false) :
    ¬ Permitted sampleOutbound sampleSettings address := by
  rintro (hGlobal | ⟨_, hMem, _⟩)
  · rw [hSpecial] at hGlobal
    cases hGlobal
  · exact not_mem_nil hMem

theorem rebound_destination :
    (deliverEvent sampleSettings rebinding webhook {}).2.opened = [ipv4 10 0 0 5] ∧
      (deliverEvent sampleSettings rebinding (syslogServer siemHost) {}).2.opened =
        [ipv4 10 0 0 5] ∧
      (deliverEvent sampleSettings redirecting webhook {}).2.opened =
        [ipv4 8 8 8 8, ipv4 169 254 169 254] ∧
      ¬ Permitted sampleOutbound sampleSettings (ipv4 10 0 0 5) ∧
      ¬ Permitted sampleOutbound sampleSettings (ipv4 169 254 169 254) := by
  refine ⟨by decide +kernel, by decide +kernel, by decide +kernel, not_permitted_special ?_,
    not_permitted_special ?_⟩
  · decide +kernel
  · decide +kernel

theorem deliver_event_safe_sample : Safe sampleOutbound sampleSettings (syslogServer "8.8.8.8") ∧
    ¬ Safe sampleOutbound sampleSettings (syslogServer siemHost) := by
  refine ⟨(deliver_event_safe_iff rfl).mpr ?_, ?_⟩
  · rintro ⟨networks, _, _, _, hName⟩
    have hLiteral : (sampleOutbound.literal "8.8.8.8").isSome = true := by
      decide +kernel
    have hNone : sampleOutbound.literal "8.8.8.8" =
      none := hName
    rw [hNone] at hLiteral
    cases hLiteral
  · intro hSafe
    refine (deliver_event_safe_iff rfl).mp hSafe
      ⟨[], rfl, ⟨ipv4 8 8 8 8, ?_⟩, ⟨ipv4 10 0 0 5, ?_⟩, sampleOutbound.literal_hostname⟩
    · decide +kernel
    · decide +kernel

end PamOlive.Siem
