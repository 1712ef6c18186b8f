import PamOlive.Foundations.Integer
import PamOlive.Foundations.Utf8
import PamOlive.Sessions.Quota

/-
  The source address of a request.

  `request_client_ip` and `_source_ip` take the first entry of `X-Forwarded-For`. A proxy that
  appends the address of its peer leaves the entries of the client before it, so the client
  chooses.
-/

---- Reading Addresses

namespace PamOlive.Network

open Foundations Policies Sessions List

/- `str(ipaddress.ip_address(text))`, if that is an address. -/
structure AddressReader where
  ipAddress : Text → Option IpText
  ipAddress_nil : ipAddress [] = none

abbrev Headers := List (Bytes × Bytes)

/- What the web application reads of `request.META`. -/
structure Request where
  forwardedFor : Option Text
  remoteAddr : Text

/- What the gateways read of an ASGI scope. -/
structure Scope where
  headers : Headers
  client : Option Text

/- `text.split(",", 1)[0].strip()`. -/
def firstEntry (text : Text) : Text := Text.strip (text.takeWhile (fun point => point != 44))

def requestClientIp (reader : AddressReader) (trustProxyHeaders : Bool)
    (request : Request) : Option IpText :=
  let forwarded := request.forwardedFor.getD []
  if trustProxyHeaders ∧ forwarded ≠ [] then
    match reader.ipAddress (firstEntry forwarded) with
    | some candidate => some candidate
    | none => reader.ipAddress request.remoteAddr
  else reader.ipAddress request.remoteAddr

def lower (name : Bytes) : Bytes :=
  name.map (fun value =>
      if 65 ≤ value.val ∧ value.val ≤ 90 then byte (value.val + 32) else value)

def forwardedName : Bytes := encodePoints "x-forwarded-for"

/- The values under a name; in a dictionary the last counts. -/
def headerValues (name : Bytes) (headers : Headers) : List Bytes :=
  (headers.filter (fun header => decide (lower header.1 = name))).map Prod.snd

/- `_source_ip` of both gateways, `none` for an exception. -/
def sourceIp (reader : AddressReader) (scope : Scope) : Option (Option IpText) := do
  let value := (headerValues forwardedName scope.headers).getLast?.getD []
  let text ← decodeUtf8 value
  let forwarded := firstEntry text
  let candidate :=
    if forwarded ≠ [] then forwarded
    else scope.client.getD []
  return reader.ipAddress candidate

---- The Proxy

/- The values of the client, and the peer at the end. -/
def appended : List Bytes → Bytes → Bytes
| [], peer => peer
| value :: rest, peer => value ++ byte 44 :: byte 32 :: appended rest peer

/- What the proxy passes on of the headers of a client. -/
def throughProxy (peer : Bytes) (headers : Headers) : Headers :=
  headers.filter (fun header => decide (lower header.1 ≠ forwardedName)) ++
    [(forwardedName, appended (headerValues forwardedName headers) peer)]

/- How the web server presents headers as `request.META`. -/
def asRequest (headers : Headers) (client : Text) : Request where
  forwardedFor :=
    match headerValues forwardedName headers with
    | [] => none
    | values => some (latin1 (intercalate [byte 44] values))
  remoteAddr := client

/- The address of a peer, as the proxy writes it: ASCII, one entry, without spaces around it. -/
structure Peer (reader : AddressReader) where
  bytes : Bytes
  address : IpText
  ascii : ∀ value ∈ bytes, value.val < 0x80
  entry : firstEntry (latin1 bytes) = latin1 bytes
  valid : reader.ipAddress (latin1 bytes) = some address

variable {reader : AddressReader}

theorem headerValues_throughProxy (peer : Bytes) (headers : Headers) :
    headerValues forwardedName (throughProxy peer headers) =
      [appended (headerValues forwardedName headers) peer] := by
  have hOthers : (headers.filter (fun header =>
      decide (lower header.1 ≠ forwardedName))).filter
      (fun header =>
        decide (lower header.1 = forwardedName)) = [] := by
    rw [filter_filter, filter_eq_nil_iff]
    intro header _
    simp
  have hName : lower forwardedName = forwardedName := by decide
  unfold throughProxy
  rw [headerValues, filter_append, hOthers]
  simp [hName]

theorem firstEntry_append (text rest : Text) :
    firstEntry (text ++ 44 :: rest) = firstEntry text := by
  unfold firstEntry
  rw [takeWhile_append]
  split
  · rename_i hAll
    have hFront : text.takeWhile (fun point => point != 44) <+: text := takeWhile_prefix _
    rw [takeWhile_cons_of_neg (by decide), append_nil, hFront.eq_of_length hAll]
  · rfl

---- What The Header Decides

section

variable (reader : AddressReader) (proxy entry : Text)

def webAddress : Option IpText :=
  (reader.ipAddress entry).or (reader.ipAddress proxy)

def gatewayAddress : Option IpText :=
  if entry ≠ [] then reader.ipAddress entry
  else reader.ipAddress proxy

end

theorem Peer.latin1_ne_nil (peer : Peer reader) : latin1 peer.bytes ≠ [] := by
  intro hNil
  have hValid := peer.valid
  rw [hNil, reader.ipAddress_nil] at hValid
  cases hValid

theorem requestClientIp_eq (forwarded proxy : Text) (hForwarded : forwarded ≠ []) :
    requestClientIp reader true ⟨some forwarded, proxy⟩ =
      webAddress reader proxy (firstEntry forwarded) := by
  unfold requestClientIp webAddress
  rw [Option.getD_some, if_pos ⟨rfl, hForwarded⟩]
  cases reader.ipAddress (firstEntry forwarded) with
  | none => rfl
  | some candidate => rfl

theorem asRequest_throughProxy (peer : Bytes) (proxy : Text) (headers : Headers) :
    asRequest (throughProxy peer headers) proxy =
      ⟨some (latin1 (appended (headerValues forwardedName headers) peer)), proxy⟩ := by
  unfold asRequest
  rw [headerValues_throughProxy]
  simp [intercalate]

theorem sourceIp_throughProxy (peer : Bytes) (proxy : Text) (headers : Headers) :
    sourceIp reader ⟨throughProxy peer headers, some proxy⟩ =
      (decodeUtf8 (appended (headerValues forwardedName headers) peer)).map (fun text =>
          gatewayAddress reader proxy (firstEntry text)) := by
  unfold sourceIp gatewayAddress
  dsimp only
  rw [headerValues_throughProxy, getLast?_singleton, Option.getD_some, Option.map_eq_bind]
  refine congrArg _ (funext fun text => ?_)
  rw [Option.getD_some, Function.comp_apply, apply_ite reader.ipAddress]
  rfl

variable {headers : Headers}

theorem addresses_of_no_value (peer : Peer reader) (proxy : Text)
    (hNone : headerValues forwardedName headers = []) :
    requestClientIp reader true (asRequest (throughProxy peer.bytes headers) proxy) =
      some peer.address ∧
      sourceIp reader ⟨throughProxy peer.bytes headers, some proxy⟩ = some (some peer.address) := by
  constructor
  · rw [asRequest_throughProxy, hNone, appended,
    requestClientIp_eq _ _ peer.latin1_ne_nil, peer.entry, webAddress, peer.valid]
    rfl
  · rw [sourceIp_throughProxy, hNone, appended, decodeUtf8_ascii peer.ascii, Option.map_some,
    peer.entry, gatewayAddress, if_pos peer.latin1_ne_nil, peer.valid]

variable {value : Bytes} {rest : List Bytes}

theorem requestClientIp_of_value (peer : Bytes) (proxy : Text)
    (hValues : headerValues forwardedName headers = value :: rest) :
    requestClientIp reader true (asRequest (throughProxy peer headers) proxy) =
      webAddress reader proxy (firstEntry (latin1 value)) := by
  have hSplit : latin1 (appended (value :: rest) peer) =
    latin1 value ++ 44 :: latin1 (byte 32 :: appended rest peer) := by
    unfold latin1
    rw [appended, map_append]
    rfl
  rw [asRequest_throughProxy, hValues, hSplit, requestClientIp_eq _ _ (by simp), firstEntry_append]

theorem isSome_decode_appended (peer : Peer reader) (values : List Bytes) :
    (decodeUtf8 (appended values peer.bytes)).isSome ↔
      ∀ value ∈ values, (decodeUtf8 value).isSome := by
  induction values with
  | nil =>
    rw [appended, decodeUtf8_ascii peer.ascii]
    simp
  | cons value rest ih =>
    rw [appended, decodeUtf8_append_ascii _ _ (by decide), decodeUtf8_cons_ascii _ (by decide),
      forall_mem_cons, ← ih]
    cases decodeUtf8 value with
    | none => simp
    | some text =>
      cases decodeUtf8 (appended rest peer.bytes) with
      | none => simp
      | some later => simp

theorem sourceIp_of_value {address : Option IpText} (peer : Peer reader)
    (proxy : Text) (hValues : headerValues forwardedName headers = value :: rest) :
    sourceIp reader ⟨throughProxy peer.bytes headers, some proxy⟩ = some address ↔
      (∀ later ∈ rest, (decodeUtf8 later).isSome) ∧ ∃ text, decodeUtf8 value = some text ∧
        gatewayAddress reader proxy (firstEntry text) = address := by
  rw [sourceIp_throughProxy, hValues, appended, decodeUtf8_append_ascii _ _ (by decide),
    decodeUtf8_cons_ascii _ (by decide), ← isSome_decode_appended peer rest]
  have hComma : latin1Point (byte 44) = 44 := rfl
  cases decodeUtf8 value with
  | none => simp
  | some text =>
    cases decodeUtf8 (appended rest peer.bytes) with
    | none => simp
    | some later => simp [hComma, firstEntry_append]

/-
  Both sides take the address of the peer exactly if the client sent no such header, or its first
  entries give that address.
-/
theorem source_is_peer_iff
    (reader : AddressReader) (peer : Peer reader) (proxy : Text) (headers : Headers) :
    (requestClientIp reader true (asRequest (throughProxy peer.bytes headers) proxy) =
      some peer.address ∧
      sourceIp reader ⟨throughProxy peer.bytes headers, some proxy⟩ = some (some peer.address)) ↔
      ∀ value rest, headerValues forwardedName headers = value :: rest →
        webAddress reader proxy (firstEntry (latin1 value)) = some peer.address ∧
          (∀ later ∈ rest, (decodeUtf8 later).isSome) ∧ ∃ text, decodeUtf8 value = some text ∧
            gatewayAddress reader proxy (firstEntry text) = some peer.address := by
  cases hValues : headerValues forwardedName headers with
  | nil =>
    refine iff_of_true (addresses_of_no_value peer proxy hValues) ?_
    exact fun _ _ hCons =>
      absurd hCons.symm (cons_ne_nil _ _)
  | cons value rest =>
    rw [requestClientIp_of_value peer.bytes proxy hValues, sourceIp_of_value peer proxy hValues]
    constructor
    · intro hBoth value' rest' hSame
      injection hSame with hValue hRest
      rw [← hValue, ← hRest]
      exact hBoth
    · exact fun hBoth => hBoth value rest rfl

---- A Forged Entry

/- One of the four numbers of an IPv4 address. -/
def readOctet (part : Text) : Option Nat :=
  if part.all isAsciiDigit ∧ part.length ≤ 3 ∧ (part.length = 1 ∨ part.head? ≠ some 48) then
    (readDigits 0 part).filter (fun value => value ≤ 255)
  else none

def isDot (point : CodePoint) : Bool := point == 46

def readIpv4 (text : Text) : Option Nat :=
  match Lines.closedFrom isDot [] text with
  | [first, second, third] => do
    let first ← readOctet first
    let second ← readOctet second
    let third ← readOctet third
    let fourth ← readOctet (Lines.openFrom isDot [] text)
    return ((first * 256 + second) * 256 + third) * 256 + fourth
  | _ => none

/- Addresses of version 4, which have one spelling each. -/
def ipv4Reader : AddressReader where
  ipAddress := fun text =>
    if hText : text ≠ [] ∧ (readIpv4 text).isSome then some ⟨text, hText.1⟩
    else none
  ipAddress_nil := rfl

def samplePeer : Peer ipv4Reader where
  bytes := encodePoints "203.0.113.9"
  address := ⟨"203.0.113.9", by decide⟩
  ascii := by decide +kernel
  entry := by decide +kernel
  valid := by decide +kernel

def ipv4Site : Site :=
  { sampleSite with
    parseAddress := fun text =>
      (readIpv4 text).map (fun value => ⟨4, value⟩)
    parseNetwork := fun text =>
      if text = "10.0.0.0/8" then some ⟨4, 10 * 2 ^ 24, 24⟩
      else none }

def innerPolicy : AccessPolicy :=
  { samplePolicy with sourceCidrs := ["10.0.0.0/8"] }

def forgedHeaders : Headers := [(encodePoints "X-Forwarded-For", encodePoints "10.0.0.5")]

def webSource (headers : Headers) : Option IpText :=
  requestClientIp ipv4Reader true (asRequest (throughProxy samplePeer.bytes headers) "172.18.0.4")

def gatewaySource (headers : Headers) : Option IpText :=
  (sourceIp ipv4Reader ⟨throughProxy samplePeer.bytes headers, some "172.18.0.4"⟩).getD none

/- For the same peer the policy refuses without the header and is current with it. -/
theorem forwarded_entry_decides :
    webSource [] = some samplePeer.address ∧ gatewaySource [] = some samplePeer.address ∧
      policyIsCurrent ipv4Site innerPolicy 0 (webSource []) = false ∧
      (webSource forgedHeaders).map Subtype.val = some (Text.ofString "10.0.0.5") ∧
      (gatewaySource forgedHeaders).map Subtype.val = some (Text.ofString "10.0.0.5") ∧
      policyIsCurrent ipv4Site innerPolicy 0 (webSource forgedHeaders) = true ∧
      policyIsCurrent ipv4Site innerPolicy 0 (gatewaySource forgedHeaders) = true := by
  decide +kernel

end PamOlive.Network
