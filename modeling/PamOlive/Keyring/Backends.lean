import PamOlive.Common.KeyringClient
import Mathlib.Data.List.TakeWhile

/-
  The keyring service: its backends and its requests.

  A backend is local or Vault Transit, and its operations may depend on a state: encryption can be
  random, Vault out of reach. In Vault mode a local backend may be kept for old data.
-/

---- Backends

namespace PamOlive.KeyringService

open Foundations List

/- `InvalidCiphertext`, `BackendUnavailable`, or an exception that is not handled. -/
inductive BackendError where
  | invalidCiphertext | unavailable | unhandled
deriving DecidableEq, Repr

structure Backend (State : Type) where
  encrypt : Text → State → Except BackendError Text × State
  decrypt : Text → State → Except BackendError Text × State
  sign : Text → State → Except BackendError Text × State
  verify : Text → Text → State → Except BackendError Bool × State

/- `RoutedBackend`: a local backend, or Vault with the local one if its key is still there. -/
inductive RoutedBackend (State : Type) where
  | localMode (active : Backend State)
  | vaultTransit (active : Backend State) (legacyLocal : Option (Backend State))

open RoutedBackend

variable {State : Type}

namespace RoutedBackend

def active : RoutedBackend State → Backend State
| .localMode active => active
| .vaultTransit active _ => active

def legacyLocal : RoutedBackend State → Option (Backend State)
| .localMode _ => none
| .vaultTransit _ legacyLocal => legacyLocal

/- `isinstance(self.active, VaultTransitBackend)`. -/
def isVault : RoutedBackend State → Bool
| .localMode _ => false
| .vaultTransit _ _ => true

/- `text.startswith("vault:")`. -/
def isVaultText (text : Text) : Bool := (Text.ofString "vault:").isPrefixOf text

section

variable (routed : RoutedBackend State)

def encrypt (plaintext : Text) : State → Except BackendError Text × State :=
  routed.active.encrypt plaintext

def decrypt (ciphertext : Text) : State → Except BackendError Text × State :=
  if isVaultText ciphertext then
    if routed.isVault then routed.active.decrypt ciphertext
    else reading (fun _ => .error .invalidCiphertext)
  else (routed.legacyLocal.getD routed.active).decrypt ciphertext

def sign (payload : Text) : State → Except BackendError Text × State :=
  routed.active.sign payload

def verify (payload signature : Text) : State → Except BackendError Bool × State :=
  andThen (routed.active.verify payload signature) fun accepted =>
  if accepted then reading (fun _ => .ok true)
  else
    match routed.legacyLocal with
    | some backend => backend.verify payload signature
    | none => reading (fun _ => .ok false)

end

end RoutedBackend

---- The Application

def maxValueLength : Nat := 1048576

/- A character of `[A-Za-z0-9+/]`. -/
def isBase64 (point : CodePoint) : Bool :=
  Text.isDigit point || decide (65 ≤ point.val ∧ point.val ≤ 90) ||
    decide (97 ≤ point.val ∧ point.val ≤ 122) || decide (point.val = 43 ∨ point.val = 47)

/- `vault:v[1-9][0-9]*:[A-Za-z0-9+/]+={0,2}`. -/
def isVaultHmac (signature : Text) : Bool :=
  let start := Text.ofString "vault:v"
  let rest := signature.drop start.length
  let version := rest.takeWhile Text.isDigit
  let tail := rest.dropWhile Text.isDigit
  let digest := tail.drop 1
  start.isPrefixOf signature && decide (version ≠ []) &&
    decide (version.head? ≠ (Text.ofString "0").head?) &&
    decide (tail.take 1 = Text.ofString ":") && decide (digest.takeWhile isBase64 ≠ []) &&
    decide (digest.dropWhile isBase64 ∈ [Text.ofString "", Text.ofString "=", Text.ofString "=="])

/- The signatures that `VerifyRequest` accepts. -/
def acceptedSignature (signature : Text) : Bool :=
  decide (53 ≤ signature.length) && decide (signature.length ≤ 64) &&
    ((decide (signature.length = 64) && signature.all Text.isLowerHex) || isVaultHmac signature)

/- A request whose body is valid, or one that is refused. -/
def request {α : Type} (valid : Bool) (operation : State → Except BackendError α × State) :
    State → Except KeyringError α × State :=
  if valid then raising (fun _ => .operationFailed) operation
  else reading (fun _ => .error .operationFailed)

/-
  `KeyringClient` with the service behind it: lengths are checked, then the backend is asked. All
  failures are the same `KeyringError`.
-/
def application (routed : RoutedBackend State) : KeyringClient State where
  encrypt plaintext :=
    request (decide (plaintext.length ≤ maxValueLength)) (routed.encrypt plaintext)
  decrypt ciphertext :=
    request (decide (ciphertext.length ≤ maxValueLength * 2)) (routed.decrypt ciphertext)
  sign payload := request (decide (payload.length ≤ maxValueLength)) (routed.sign payload)
  verify payload signature :=
    request (decide (payload.length ≤ maxValueLength) && acceptedSignature signature)
      (routed.verify payload signature)

variable {state : State} {valid : Bool} {after : State}

theorem request_eq_ok_iff {α : Type} {operation : State → Except BackendError α × State}
    {value : α} :
    request valid operation state = (.ok value, after) ↔
      valid = true ∧ operation state = (.ok value, after) := by
  unfold request
  cases valid with
  | true =>
    rw [if_pos rfl, raising_eq_ok_iff]
    exact ⟨fun hOk => ⟨rfl, hOk⟩, fun hOk => hOk.2⟩
  | false =>
    rw [if_neg Bool.false_ne_true]
    refine iff_of_false ?_ ?_
    · intro hRead
      cases (reading_eq_ok_iff.mp hRead).1
    · exact fun hValid => Bool.false_ne_true hValid.1

theorem request_fst_of_valid
    {α : Type} (operation : State → Except BackendError α × State) (state : State)
    (hValid : valid = true) :
    (request valid operation state).1 =
      (operation state).1.mapError (fun _ => .operationFailed) := by
  unfold request
  rw [if_pos hValid]
  rfl

---- What Is Assumed Of The Backends

namespace Backend

/- A backend decrypts what it encrypted and verifies what it signed, in the form of the service. -/
structure Faithful (backend : Backend State) : Prop where
  decrypts : ∀ plaintext ciphertext state after, backend.encrypt plaintext state =
    (.ok ciphertext, after) →
    ∀ later, (backend.decrypt ciphertext later).1 = .ok plaintext
  verifies : ∀ payload signature state after, backend.sign payload state = (.ok signature, after) →
    ∀ later, (backend.verify payload signature later).1 = .ok true
  form : ∀ payload signature state after,
    backend.sign payload state = (.ok signature, after) → acceptedSignature signature = true

/- What was answered once is answered again. -/
structure Steady (backend : Backend State) : Prop where
  decrypt : ∀ ciphertext plaintext state, (backend.decrypt ciphertext state).1 = .ok plaintext →
    ∀ later, (backend.decrypt ciphertext later).1 = .ok plaintext
  verify : ∀ payload signature accepted state, (backend.verify payload signature state).1 =
    .ok accepted →
    ∀ later, (backend.verify payload signature later).1 = .ok accepted

end Backend

/-
  The backends answer steadily, and the ciphertexts of the active one are routed back to it: only
  Vault marks its own.
-/
structure RoutedBackend.Sound (routed : RoutedBackend State) : Prop where
  faithful : routed.active.Faithful
  steady : routed.active.Steady
  legacySteady : ∀ backend ∈ routed.legacyLocal, backend.Steady
  routes : ∀ plaintext ciphertext state after, routed.active.encrypt plaintext state =
    (.ok ciphertext, after) →
    isVaultText ciphertext = routed.isVault

variable {signature : Text}

theorem ne_nil_of_acceptedSignature (hAccepted : acceptedSignature signature = true) :
    signature ≠ [] := by
  rintro rfl
  exact absurd hAccepted (by decide)

theorem val_lt_of_isBase64 {point : CodePoint} (hBase : isBase64 point = true) :
    point.val < 128 := by
  unfold isBase64 Text.isDigit at hBase
  simp only [Bool.or_eq_true, decide_eq_true_eq] at hBase
  omega

theorem ascii_of_isVaultHmac (hHmac : isVaultHmac signature = true) :
    ∀ point ∈ signature, point.val < 128 := by
  unfold isVaultHmac at hHmac
  simp only [Bool.and_eq_true, decide_eq_true_eq, isPrefixOf_iff_prefix] at hHmac
  rcases hHmac with ⟨⟨⟨⟨⟨hStart, _⟩, _⟩, hColon⟩, _⟩, hEnd⟩
  generalize hRest : signature.drop (Text.ofString "vault:v").length = rest at hColon hEnd
  generalize hTail : rest.dropWhile Text.isDigit = tail at hColon hEnd
  have hAscii : ∀ text : Text,
    text.all (fun point => decide (point.val < 128)) = true → ∀ point ∈ text, point.val < 128 :=
    fun text hAll point hMem =>
      of_decide_eq_true (all_eq_true.mp hAll point hMem)
  intro point hMem
  rw [← prefix_iff_eq_append.mp hStart, hRest, mem_append] at hMem
  rcases hMem with hMem | hMem
  · exact hAscii _ (by decide +kernel) point hMem
  rw [← @List.takeWhile_append_dropWhile _ Text.isDigit rest, hTail, mem_append] at hMem
  rcases hMem with hMem | hMem
  · have hDigit := mem_takeWhile_imp hMem
    unfold Text.isDigit at hDigit
    rw [decide_eq_true_eq] at hDigit
    omega
  rw [← take_append_drop 1 tail, hColon, mem_append] at hMem
  rcases hMem with hMem | hMem
  · exact hAscii _ (by decide +kernel) point hMem
  rw [← @List.takeWhile_append_dropWhile _ isBase64 (tail.drop 1), mem_append] at hMem
  rcases hMem with hMem | hMem
  · exact val_lt_of_isBase64 (mem_takeWhile_imp hMem)
  · generalize (tail.drop 1).dropWhile isBase64 = padding
    at hMem hEnd
    simp only [mem_cons, not_mem_nil, or_false] at hEnd
    rcases hEnd with rfl | rfl | rfl <;> exact hAscii _ (by decide +kernel) point hMem

theorem ascii_of_acceptedSignature (hAccepted : acceptedSignature signature = true) :
    ∀ point ∈ signature, point.val < 128 := by
  unfold acceptedSignature at hAccepted
  simp only [Bool.and_eq_true, Bool.or_eq_true, all_eq_true] at hAccepted
  rcases hAccepted with ⟨_, ⟨_, hHex⟩ | hVault⟩
  · intro point hMem
    have hPoint := hHex point hMem
    unfold Text.isLowerHex Text.isDigit at hPoint
    simp only [Bool.or_eq_true, decide_eq_true_eq] at hPoint
    omega
  · exact ascii_of_isVaultHmac hVault

variable {routed : RoutedBackend State}

/- What the service signed, it accepts, and so does every service with the same active backend. -/
theorem verifies_of_sign {routed' : RoutedBackend State} {payload : Text}
    (hFaithful : routed.active.Faithful) (hActive : routed'.active = routed.active)
    (hSign : (application routed).sign payload state = (.ok signature, after)) :
    signature ≠ [] ∧ (application routed').Verifies payload signature ∧
      ∀ later, (routed.active.verify payload signature later).1 = .ok true := by
  rcases request_eq_ok_iff.mp hSign with ⟨hLength, hSigned⟩
  have hForm := hFaithful.form payload signature state after hSigned
  have hVerify := hFaithful.verifies payload signature state after hSigned
  refine ⟨ne_nil_of_acceptedSignature hForm, ?_, hVerify⟩
  intro later
  have hValid :
    (decide (payload.length ≤ maxValueLength) && acceptedSignature signature) = true := by
    rw [hLength, hForm]
    rfl
  refine (request_fst_of_valid _ later hValid).trans ?_
  unfold verify
  rw [andThen_fst, hActive, hVerify later]
  rfl

---- Steady Answers

section Steady

theorem request_steady {α : Type} {operation : State → Except BackendError α × State} {value : α}
    (hSteady : (operation state).1 = .ok value → ∀ later, (operation later).1 = .ok value)
    (hAnswer : (request valid operation state).1 = .ok value)
    (later : State) : valid = true ∧ (request valid operation later).1 = .ok value := by
  cases valid with
  | false => cases hAnswer
  | true =>
    rw [request_fst_of_valid _ _ rfl, mapError_eq_ok_iff] at hAnswer
    rw [request_fst_of_valid _ _ rfl, mapError_eq_ok_iff]
    exact ⟨rfl, hSteady hAnswer later⟩

namespace RoutedBackend.Sound

variable {ciphertext plaintext : Text}

section

variable (hSound : routed.Sound)

include hSound

theorem decrypt_steady (hAnswer : (routed.decrypt ciphertext state).1 = .ok plaintext)
    (later : State) : (routed.decrypt ciphertext later).1 = .ok plaintext := by
  unfold decrypt at hAnswer ⊢
  split
  · rename_i hVault
    rw [if_pos hVault] at hAnswer
    split
    · rename_i hMode
      rw [if_pos hMode] at hAnswer
      exact hSound.steady.decrypt _ _ _ hAnswer later
    · rename_i hMode
      rw [if_neg hMode] at hAnswer
      cases hAnswer
  · rename_i hVault
    rw [if_neg hVault] at hAnswer
    cases hLegacy : routed.legacyLocal with
    | none =>
      rw [hLegacy] at hAnswer
      exact hSound.steady.decrypt _ _ _ hAnswer later
    | some backend =>
      rw [hLegacy] at hAnswer
      exact (hSound.legacySteady backend hLegacy).decrypt _ _ _ hAnswer later

variable {payload : Text}

theorem verify_steady (hAnswer : (routed.verify payload signature state).1 = .ok true)
    (later : State) : (routed.verify payload signature later).1 = .ok true := by
  unfold verify at hAnswer ⊢
  rw [andThen_fst] at hAnswer ⊢
  cases hActive : (routed.active.verify payload signature state).1 with
  | error failure =>
    rw [hActive] at hAnswer
    cases hAnswer
  | ok accepted =>
    rw [hSound.steady.verify _ _ _ _ hActive later]
    rw [hActive] at hAnswer
    cases accepted with
    | true => rfl
    | false =>
      cases hLegacy : routed.legacyLocal with
      | none =>
        rw [hLegacy] at hAnswer
        cases hAnswer
      | some backend =>
        rw [hLegacy] at hAnswer
        exact (hSound.legacySteady backend hLegacy).verify _ _ _ _ hAnswer _

theorem decrypts_of_answer
    (hAnswer : ((application routed).decrypt ciphertext state).1 = .ok plaintext) :
    ciphertext.length ≤ maxValueLength * 2 ∧ (application routed).Decrypts ciphertext
      plaintext := by
  have hRequest := request_steady (fun hOnce => hSound.decrypt_steady hOnce) hAnswer
  exact ⟨of_decide_eq_true (hRequest state).1, fun later => (hRequest later).2⟩

theorem verifies_of_answer
    (hAnswer : ((application routed).verify payload signature state).1 = .ok true) :
    acceptedSignature signature = true ∧ (application routed).Verifies payload signature := by
  have hRequest := request_steady (fun hOnce => hSound.verify_steady hOnce) hAnswer
  have hValid := (hRequest state).1
  rw [Bool.and_eq_true] at hValid
  exact ⟨hValid.2, fun later => (hRequest later).2⟩

theorem decrypts_of_encrypt_iff {after : State}
    (hEncrypt : (application routed).encrypt plaintext state = (.ok ciphertext, after)) :
    (application routed).Decrypts ciphertext plaintext ↔
      ciphertext.length ≤ maxValueLength * 2 := by
  have hActive := (request_eq_ok_iff.mp hEncrypt).2
  have hRouted : ∀ later, (routed.decrypt ciphertext later).1 = .ok plaintext := by
    intro later
    have hBack := hSound.faithful.decrypts _ _ _ _ hActive later
    have hRoute := hSound.routes _ _ _ _ hActive
    unfold decrypt
    cases routed with
    | localMode active =>
      rw [hRoute]
      exact hBack
    | vaultTransit active legacyLocal =>
      rw [hRoute]
      exact hBack
  constructor
  · intro hDecrypts
    exact (hSound.decrypts_of_answer (hDecrypts state)).1
  · intro hShort later
    refine (request_fst_of_valid _ later (decide_eq_true hShort)).trans ?_
    rw [hRouted later]
    rfl

end

end RoutedBackend.Sound

end Steady

def plainSignature : Text := replicate 64 (CodePoint.ofChar '0')

/- A backend that can be read off its results: a mark before the text, and one signature. -/
def plainBackend : Backend State where
  encrypt text := reading (fun _ => .ok ("vault:" ++ text))
  decrypt text := reading (fun _ => .ok (text.drop 6))
  sign _ := reading (fun _ => .ok plainSignature)
  verify _ signature := reading (fun _ => .ok (decide (signature = plainSignature)))

theorem plainBackend_faithful : (plainBackend : Backend State).Faithful where
  decrypts := by
    intro plaintext ciphertext state after hEncrypt later
    rw [← (reading_ok_iff.mp hEncrypt).1]
    rfl
  verifies := by
    intro payload signature state after hSign later
    rw [← (reading_ok_iff.mp hSign).1]
    exact congrArg Except.ok (decide_eq_true rfl)
  form := by
    intro payload signature state after hSign
    rw [← (reading_ok_iff.mp hSign).1]
    decide +kernel

end PamOlive.KeyringService
