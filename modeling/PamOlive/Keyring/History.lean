import PamOlive.Foundations.Transition
import PamOlive.Foundations.Utf8
import PamOlive.Gateway.Control
import PamOlive.Keyring.Backends

/-
  A keyring that moves from the local backend to Vault.

  The local key stays and is the legacy one in Vault mode. Ciphertexts are routed by how they start
  and signatures by trial; what was made in either mode is read and accepted in the second. Of the
  cryptography and of Vault is assumed what `LocalKeys` and `VaultServer` say.

  Main declarations:
    * `HistoryStep`, `Readable.step`
    * `LocalKeys.backend`, `VaultServer.backend`, `distinct_backends`
    * `old_data_readable`
-/

---- Histories

namespace PamOlive.KeyringService

open Foundations RoutedBackend List

variable {State : Type}

def vaultBackend (vault : Backend State) : Backend State :=
  { vault with
    verify := fun payload signature =>
      if isVaultText signature then vault.verify payload signature
      else reading (fun _ => .ok false) }

/- What was encrypted and signed so far, each with its result. -/
structure History (State : Type) where
  inVault : Bool
  state : State
  ciphertexts : List (Text × Text)
  signatures : List (Text × Text)

inductive KeyringCall where
  | encrypt (plaintext : Text)
  | sign (payload : Text)
  | migrate
  | other

/- The service with the data directory of one installation. -/
def routedIn (localBackend vault : Backend State) (inVault : Bool) : RoutedBackend State :=
  if inVault then .vaultTransit (vaultBackend vault) (some localBackend)
  else .localMode localBackend

/- The other calls, failed ones included, and what Vault does by itself move the state only. -/
inductive HistoryStep (localBackend vault : Backend State) (history : History State) :
    KeyringCall → History State → Prop
  | encrypted {plaintext ciphertext : Text} {after : State}
    (hEncrypt : (routedIn localBackend vault history.inVault).encrypt plaintext history.state =
      (.ok ciphertext, after)) :
    HistoryStep localBackend vault history (.encrypt plaintext) { history with
      state := after
      ciphertexts := (plaintext, ciphertext) :: history.ciphertexts }
  | signed {payload signature : Text} {after : State}
    (hSign : (routedIn localBackend vault history.inVault).sign payload history.state =
      (.ok signature, after)) :
    HistoryStep localBackend vault history (.sign payload) { history with
      state := after
      signatures := (payload, signature) :: history.signatures }
  | migrated : HistoryStep localBackend vault history .migrate { history with inVault := true }
  | moved (after : State) :
    HistoryStep localBackend vault history .other { history with state := after }

def historySystem (localBackend vault : Backend State) :
    TransitionSystem (History State) KeyringCall where
  init := fun history => history.inVault = false ∧ history.ciphertexts = [] ∧
    history.signatures = []
  step := HistoryStep localBackend vault

---- Old Data

/- Both backends read their own, and only Vault's texts start with its name. -/
structure Distinct (localBackend vault : Backend State) : Prop where
  localFaithful : localBackend.Faithful
  vaultFaithful : vault.Faithful
  plain : ∀ text made state after, localBackend.encrypt text state = (.ok made, after) ∨
    localBackend.sign text state = (.ok made, after) → isVaultText made = false
  marked : ∀ text made state after, vault.encrypt text state = (.ok made, after) ∨
    vault.sign text state = (.ok made, after) → isVaultText made = true

---- The Two Backends

/-
  Fernet and HMAC under the derived keys: a token is opened again and is no text of Vault, and a
  digest has 32 bytes.
-/
structure LocalKeys (State : Type) where
  fernetEncrypt : Bytes → State → Text × State
  fernetDecrypt : Bytes → Option Bytes
  hmacHex : Bytes → Text
  opens : ∀ bytes state, (fernetEncrypt bytes state).1.toUtf8.bind fernetDecrypt = some bytes
  unmarked : ∀ bytes state, isVaultText (fernetEncrypt bytes state).1 = false
  isHex : ∀ bytes, (hmacHex bytes).length = 64 ∧ (hmacHex bytes).all Text.isLowerHex = true

/-
  Base64 and `_request`, with the field of each answer that is read: Vault decrypts what it
  encrypted, accepts what it signed, and marks both.
-/
structure VaultServer (State : Type) where
  encrypt : Text → State → Except BackendError Text × State
  decrypt : Text → State → Except BackendError Text × State
  hmac : Text → State → Except BackendError Text × State
  verify : Text → Text → State → Except BackendError Bool × State
  b64encode : Bytes → Text
  b64decode : Text → Option Bytes
  decodes : ∀ bytes, b64decode (b64encode bytes) = some bytes
  decrypts : ∀ input made state after, encrypt input state = (.ok made, after) →
    isVaultText made = true ∧ ∀ later, (decrypt made later).1 = .ok input
  verifies : ∀ input made state after, hmac input state = (.ok made, after) →
    isVaultHmac made = true ∧ 53 ≤ made.length ∧ ∀ later, (verify input made later).1 = .ok true

section

variable {α : Type}

/- `text.encode()`, which raises on a lone surrogate. -/
def encoding (text : Text) (next : Bytes → State → Except BackendError α × State) :
    State → Except BackendError α × State :=
  andThen (reading fun _ => found text.toUtf8 .unhandled) next

variable {text : Text} {state after : State} {next : Bytes → State → Except BackendError α × State}

theorem encoding_of_toUtf8 {bytes : Bytes} (hBytes : text.toUtf8 = some bytes) :
    encoding text next state = next bytes state := by
  unfold encoding andThen reading
  rw [hBytes]
  rfl

theorem encoding_eq_ok_iff {value : α} : encoding text next state = (.ok value, after) ↔
    ∃ bytes, text.toUtf8 = some bytes ∧ next bytes state = (.ok value, after) := by
  unfold encoding
  simp only [andThen_eq_ok_iff, reading_eq_ok_iff, found_eq_ok_iff]
  constructor
  · rintro ⟨bytes, _, ⟨hBytes, rfl⟩, hNext⟩
    exact ⟨bytes, hBytes, hNext⟩
  · rintro ⟨bytes, hBytes, hNext⟩
    exact ⟨bytes, state, ⟨hBytes, rfl⟩, hNext⟩

end

section

variable (keys : LocalKeys State)

/- `LocalBackend`. -/
def LocalKeys.backend : Backend State where
  encrypt plaintext :=
    encoding plaintext fun bytes state => (keys.fernetEncrypt bytes state).map .ok id
  decrypt ciphertext :=
    encoding ciphertext fun token =>
    reading fun _ => found ((keys.fernetDecrypt token).bind decodeUtf8) .invalidCiphertext
  sign payload := encoding payload fun bytes => reading fun _ => .ok (keys.hmacHex bytes)
  verify payload signature :=
    encoding payload fun bytes =>
    reading fun _ => found (Gateway.compareDigest (keys.hmacHex bytes) signature) .unhandled

theorem LocalKeys.accepted (bytes : Bytes) : acceptedSignature (keys.hmacHex bytes) = true := by
  rcases keys.isHex bytes with ⟨hLength, hHex⟩
  simp [acceptedSignature, hLength, hHex]

theorem LocalKeys.not_isVaultText (bytes : Bytes) : isVaultText (keys.hmacHex bytes) = false := by
  rw [Bool.eq_false_iff, isVaultText, ne_eq, isPrefixOf_iff_prefix]
  intro hStart
  have hFirst : 118 ∈ Text.ofString "vault:" := by decide
  have hMem := hStart.subset hFirst
  exact absurd (all_eq_true.mp (keys.isHex bytes).2 _ hMem) (by decide)

theorem LocalKeys.faithful : keys.backend.Faithful where
  decrypts := by
    intro plaintext ciphertext state after hEncrypt later
    rcases encoding_eq_ok_iff.mp hEncrypt with ⟨bytes, hBytes, ⟨⟩⟩
    rcases Option.bind_eq_some_iff.mp (keys.opens bytes state) with ⟨token, hToken, hOpen⟩
    refine (congrArg Prod.fst (encoding_of_toUtf8 hToken)).trans ?_
    rw [hOpen, Option.bind_some, decodeUtf8_toUtf8 hBytes]
    rfl
  verifies := by
    intro payload signature state after hSign later
    rcases encoding_eq_ok_iff.mp hSign with ⟨bytes, hBytes, ⟨⟩⟩
    have hAscii := ascii_of_acceptedSignature (keys.accepted bytes)
    refine (congrArg Prod.fst (encoding_of_toUtf8 hBytes)).trans ?_
    rw [Gateway.compareDigest_self hAscii]
    rfl
  form := by
    intro payload signature state after hSign
    rcases encoding_eq_ok_iff.mp hSign with ⟨bytes, _, ⟨⟩⟩
    exact keys.accepted bytes

/- The third part of `text.split(":", 2)`. -/
def thirdPart (text : Text) : Option Text :=
  match ((text.dropWhile (· ≠ 58)).drop 1).dropWhile (· ≠ 58) with
  | [] => none
  | _ :: part => some part

variable (server : VaultServer State)

/- `VaultTransitBackend`, to whose `verify` `vaultBackend` adds the check of how a text starts. -/
def VaultServer.backend : Backend State where
  encrypt plaintext := encoding plaintext fun bytes => server.encrypt (server.b64encode bytes)
  decrypt ciphertext :=
    andThen (server.decrypt ciphertext) fun input =>
    reading fun _ => found ((server.b64decode input).bind decodeUtf8) .unavailable
  sign payload :=
    encoding payload fun bytes =>
    andThen (server.hmac (server.b64encode bytes)) fun made =>
    reading fun _ => do
      let digest ← found ((thirdPart made).bind server.b64decode) .unavailable
      require (digest.length = 32) .unavailable
      require (made.length ≤ 64) .unavailable
      return made
  verify payload signature :=
    encoding payload fun bytes => server.verify (server.b64encode bytes) signature

theorem VaultServer.signed {payload signature : Text} {state after : State}
    (hSign : server.backend.sign payload state = (.ok signature, after)) :
    signature.length ≤ 64 ∧ ∃ bytes middle, payload.toUtf8 = some bytes ∧
      server.hmac (server.b64encode bytes) state = (.ok signature, middle) := by
  rcases encoding_eq_ok_iff.mp hSign with ⟨bytes, hBytes, hSign⟩
  rcases andThen_eq_ok_iff.mp hSign with ⟨made, middle, hMade, hChecks⟩
  rcases found_bind_eq_ok_iff.mp (reading_eq_ok_iff.mp hChecks).1 with ⟨_, _, hChecks⟩
  rcases require_bind_eq_ok_iff.mp hChecks with ⟨_, hChecks⟩
  rcases require_bind_eq_ok_iff.mp hChecks with ⟨hLength, ⟨⟩⟩
  exact ⟨hLength, bytes, middle, hBytes, hMade⟩

theorem VaultServer.faithful : server.backend.Faithful where
  decrypts := by
    intro plaintext ciphertext state after hEncrypt later
    rcases encoding_eq_ok_iff.mp hEncrypt with ⟨bytes, hBytes, hMade⟩
    refine (andThen_fst _ _ later).trans ?_
    rw [(server.decrypts _ _ _ _ hMade).2 later]
    simp [bind, Except.bind, reading, found, server.decodes, decodeUtf8_toUtf8 hBytes]
  verifies := by
    intro payload signature state after hSign later
    rcases server.signed hSign with ⟨_, bytes, _, hBytes, hMade⟩
    refine (congrArg Prod.fst (encoding_of_toUtf8 hBytes)).trans ?_
    exact (server.verifies _ _ _ _ hMade).2.2 later
  form := by
    intro payload signature state after hSign
    rcases server.signed hSign with ⟨hLength, _, _, _, hMade⟩
    rcases server.verifies _ _ _ _ hMade with ⟨hHmac, hLong, _⟩
    simp [acceptedSignature, hLength, hHmac, hLong]

theorem isVaultText_of_isVaultHmac {made : Text} (hHmac : isVaultHmac made = true) :
    isVaultText made = true := by
  unfold isVaultHmac at hHmac
  simp only [Bool.and_eq_true, isPrefixOf_iff_prefix] at hHmac
  have hStart : Text.ofString "vault:" <+: Text.ofString "vault:v" := by decide
  exact isPrefixOf_iff_prefix.mpr (hStart.trans hHmac.1.1.1.1.1)

theorem distinct_backends : Distinct keys.backend server.backend where
  localFaithful := keys.faithful
  vaultFaithful := server.faithful
  plain := by
    rintro text made state after (hEncrypt | hSign)
    · rcases encoding_eq_ok_iff.mp hEncrypt with ⟨bytes, _, ⟨⟩⟩
      exact keys.unmarked bytes state
    · rcases encoding_eq_ok_iff.mp hSign with ⟨bytes, _, ⟨⟩⟩
      exact keys.not_isVaultText bytes
  marked := by
    rintro text made state after (hEncrypt | hSign)
    · rcases encoding_eq_ok_iff.mp hEncrypt with ⟨bytes, _, hMade⟩
      exact (server.decrypts _ _ _ _ hMade).1
    · rcases server.signed hSign with ⟨_, _, _, _, hMade⟩
      exact isVaultText_of_isVaultHmac (server.verifies _ _ _ _ hMade).1

end

---- Reading Old Data

variable {localBackend vault : Backend State} {payload signature : Text} {later : State}

/- A signature is accepted by Vault if it looks like one of its own, else by the local key. -/
theorem verify_fst : ((routedIn localBackend vault true).verify payload signature later).1 =
    if isVaultText signature then
      (vault.verify payload signature later).1 >>= fun accepted =>
        if accepted then .ok true
        else (localBackend.verify payload signature (vault.verify payload signature later).2).1
    else (localBackend.verify payload signature later).1 := by
  unfold verify routedIn
  rw [if_pos rfl, andThen_fst]
  unfold active legacyLocal vaultBackend
  dsimp only
  split
  · congr 1
    funext accepted
    cases accepted with
    | true => rfl
    | false => rfl
  · rfl

/- In Vault mode all that was made so far is read and accepted. -/
structure Readable (localBackend vault : Backend State) (history : History State) : Prop where
  decrypts : ∀ pair ∈ history.ciphertexts, ∀ later,
    ((routedIn localBackend vault true).decrypt pair.2 later).1 = .ok pair.1
  verifies : ∀ pair ∈ history.signatures, ∀ later,
    ((routedIn localBackend vault true).verify pair.1 pair.2 later).1 = .ok true

theorem Readable.step {before after : History State} {label : KeyringCall}
    (hDistinct : Distinct localBackend vault) (hBefore : Readable localBackend vault before)
    (hStep : HistoryStep localBackend vault before label after) :
    Readable localBackend vault after := by
  cases hStep with
  | migrated => exact ⟨hBefore.decrypts, hBefore.verifies⟩
  | moved state => exact ⟨hBefore.decrypts, hBefore.verifies⟩
  | @encrypted plaintext ciphertext state hEncrypt =>
    refine ⟨forall_mem_cons.mpr ⟨?_, hBefore.decrypts⟩, hBefore.verifies⟩
    intro later
    unfold decrypt routedIn
    cases hMode : before.inVault with
    | false =>
      rw [hMode] at hEncrypt
      rw [hDistinct.plain _ _ _ _ (.inl hEncrypt)]
      exact hDistinct.localFaithful.decrypts _ _ _ _ hEncrypt later
    | true =>
      rw [hMode] at hEncrypt
      rw [hDistinct.marked _ _ _ _ (.inl hEncrypt)]
      exact hDistinct.vaultFaithful.decrypts _ _ _ _ hEncrypt later
  | @signed payload signature state hSign =>
    refine ⟨hBefore.decrypts, forall_mem_cons.mpr ⟨?_, hBefore.verifies⟩⟩
    intro later
    rw [verify_fst]
    cases hMode : before.inVault with
    | false =>
      rw [hMode] at hSign
      rw [hDistinct.plain _ _ _ _ (.inr hSign)]
      exact hDistinct.localFaithful.verifies _ _ _ _ hSign later
    | true =>
      rw [hMode] at hSign
      rw [hDistinct.marked _ _ _ _ (.inr hSign), if_pos rfl,
        hDistinct.vaultFaithful.verifies _ _ _ _ hSign later]
      rfl

/- `hUnforged` is what is assumed of the keys: no signature passes that neither has made. -/
theorem old_data_readable {history : History State} (hDistinct : Distinct localBackend vault)
    (hReachable : (historySystem localBackend vault).Reachable history) :
    Readable localBackend vault history ∧
      ∀ payload signature, (∀ backend ∈ [localBackend, vault], ∀ later,
          (backend.verify payload signature later).1 = .ok true →
          (payload, signature) ∈ history.signatures) →
        ∀ later, ((routedIn localBackend vault true).verify payload signature later).1 = .ok true →
          (payload, signature) ∈ history.signatures := by
  constructor
  · refine hReachable.invariant ?_ ?_
    · rintro start ⟨_, hNone, hNone'⟩
      constructor
      · simp [hNone]
      · simp [hNone']
    · exact fun before label after hBefore hStep => hBefore.step hDistinct hStep
  · intro payload signature hUnforged later hVerify
    have hLocal := hUnforged localBackend (by simp)
    rw [verify_fst] at hVerify
    split at hVerify
    · rcases bind_eq_ok_iff.mp hVerify with ⟨accepted, hVault, hNext⟩
      cases accepted with
      | true => exact hUnforged vault (by simp) later hVault
      | false => exact hLocal _ hNext
    · exact hLocal later hVerify

def pointBytes (text : Text) : Bytes := text.map fun point => byte point.val

theorem pointBytes_latin1 (bytes : Bytes) : pointBytes (latin1 bytes) = bytes := by
  refine map_map.trans ((map_congr_left fun value _ => ?_).trans (map_id _))
  exact Fin.ext (Nat.mod_eq_of_lt value.isLt)

/- Tokens with the bytes in the open and one digest. -/
def sampleKeys : LocalKeys Unit where
  fernetEncrypt bytes state := ("gAAAA" ++ latin1 bytes, state)
  fernetDecrypt token := (decodeUtf8 token).map fun text => pointBytes (text.drop 5)
  hmacHex _ := plainSignature
  opens bytes _ := by
    have hPlain : ¬ ("gAAAA" ++ latin1 bytes : Text).any CodePoint.isSurrogate := by
      rw [any_append, Bool.or_eq_true, not_or, latin1, any_map]
      refine ⟨by decide, fun hAny => ?_⟩
      rcases any_eq_true.mp hAny with ⟨value, _, hSurrogate⟩
      have hFrom : 0xD800 ≤ value.val := (of_decide_eq_true hSurrogate).1
      omega
    have hToken : Text.toUtf8 ("gAAAA" ++ latin1 bytes) = some _ :=
      congrArg (Option.map encodePoints) (if_neg hPlain)
    rw [hToken, Option.bind_some, decodeUtf8_toUtf8 hToken]
    exact congrArg some (pointBytes_latin1 bytes)
  unmarked _ _ := rfl
  isHex _ := by decide +kernel

def sampleHmac : Text := "vault:v1:" ++ replicate 44 (CodePoint.ofChar 'A')

/- Base64 that adds twelve points to all texts, and one signature. -/
def sampleServer : VaultServer Unit where
  encrypt input state := (.ok ("vault:" ++ input), state)
  decrypt made := reading fun _ => .ok (made.drop 6)
  hmac _ := reading fun _ => .ok sampleHmac
  verify _ signature := reading fun _ => .ok (decide (signature = sampleHmac))
  b64encode bytes := latin1 bytes ++ replicate 12 61
  b64decode text := some (pointBytes (text.rdrop 12))
  decodes bytes := by
    have hText : (latin1 bytes ++ replicate 12 61).rdrop 12 = latin1 bytes := rdrop_append_length
    rw [hText, pointBytes_latin1]
  decrypts := by
    rintro input made state after ⟨⟩
    exact ⟨rfl, fun _ => rfl⟩
  verifies := by
    rintro input made state after ⟨⟩
    exact ⟨by decide +kernel, by decide, fun _ => by simp [reading]⟩

theorem old_data_readable_sample : ∃ history : History Unit,
    history.ciphertexts = [(Text.ofString "a", Text.ofString "gAAAAa")] ∧
    history.signatures.length = 1 ∧ Readable sampleKeys.backend sampleServer.backend history := by
  have hReachable : ∃ history,
    (historySystem sampleKeys.backend sampleServer.backend).Reachable history ∧
    history.ciphertexts = [(Text.ofString "a", Text.ofString "gAAAAa")] ∧
    history.signatures.length = 1 :=
    ⟨_, ⟨⟨false, (), [], []⟩, [.encrypt "a", .migrate, .sign "b"], ⟨rfl, rfl, rfl⟩,
      .cons (.encrypted rfl) (.cons .migrated (.cons (.signed rfl) (.nil _)))⟩, rfl, rfl⟩
  rcases hReachable with ⟨history, hReachable, hTexts, hSignatures⟩
  exact ⟨history, hTexts, hSignatures, (old_data_readable (distinct_backends _ _) hReachable).1⟩

end PamOlive.KeyringService
