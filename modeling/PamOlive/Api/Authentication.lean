import PamOlive.Database.Models
import PamOlive.Foundations.ExpiringClaims
import PamOlive.Foundations.Transition
import PamOlive.Gateway.Control
import Mathlib.Algebra.Order.Floor.Ring

/-
  Authentication of internal requests.

  The clock has instants in any ordered ring with floors, in seconds. It is read when the signature
  is verified, and again when the cache claims the request id.
-/

---- The Clock

namespace PamOlive.Api

open Foundations Gateway

variable {Time : Type} [Ring Time] [LinearOrder Time] [FloorRing Time]

/- `int(instant)`, which rounds towards zero. -/
def clockSeconds (instant : Time) : Int :=
  if 0 ≤ instant then ⌊instant⌋ else ⌈instant⌉

/- `verify_request_signature` at an instant, of which it uses the whole seconds. -/
def verifySignatureAt (env : ControlEnv) (instant : Time) (timestamp body signature : Text)
    (method path requestId : Text) : Option Bool :=
  verifyRequestSignature env (clockSeconds instant * 1000000)
    timestamp body signature method path requestId

def sixtySeconds : Time := 60

/- A key that expires is gone after 60 seconds. -/
def withinSixty (setAt now : Time) : Bool :=
  decide (now - setAt < sixtySeconds)

---- Authentication

/- The headers, the body and the target of a request. Django gives the method in upper case. -/
structure InternalRequest where
  timestamp : Text
  signature : Text
  signatureVersion : Text
  requestId : Text
  method : Text
  path : Text
  body : Text

structure Delivery (Time : Type) where
  request : InternalRequest
  verifiedAt : Time
  claimedAt : Time

def versionRefused : Failure := .permissionDenied "Version de signature interne refusée."

def authenticationRefused : Failure := .permissionDenied "Authentification interne refusée."

def requireVerified : Option Bool → Except Failure Unit
| some true => .ok ()
| some false => .error authenticationRefused
| none => .error .typeError

def requestKey (requestId : Text) : Text := "pamolive:gateway-request:" ++ requestId

/- `cache.add(key, True, timeout=60)`, or the refusal. -/
def claimRequest (now : Time) (requestId : Text) (cache : Seen Text Time) :
    Except Failure Unit × Seen Text Time :=
  let claimed := claim withinSixty now (requestKey requestId) cache
  (require (claimed.1 = true) (.permissionDenied "Rejeu de requête interne refusé."), claimed.2)

section

variable (env : ControlEnv)

section

variable (delivery : Delivery Time)

def authenticateVersionTwo : Seen Text Time → Except Failure Unit × Seen Text Time :=
  andThen (reading (fun _ =>
      found (env.normalizeUuid delivery.request.requestId)
        (.permissionDenied "Identifiant de requête interne invalide.")))
    fun requestId =>
  andThen (reading (fun _ =>
      requireVerified (verifySignatureAt env delivery.verifiedAt
        delivery.request.timestamp delivery.request.body delivery.request.signature
        delivery.request.method delivery.request.path requestId)))
    fun _ =>
  claimRequest delivery.claimedAt requestId

/- Versions `""` and `"1"`, which claim no request id. -/
def authenticateLegacy : Except Failure Unit := do
  require (env.acceptLegacySignatures = true) versionRefused
  requireVerified (verifySignatureAt env delivery.verifiedAt
    delivery.request.timestamp delivery.request.body delivery.request.signature [] [] [])

def authenticate (cache : Seen Text Time) : Except Failure Unit × Seen Text Time :=
  if delivery.request.signatureVersion = [] ∨ delivery.request.signatureVersion = "1" then
    (authenticateLegacy env delivery, cache)
  else if delivery.request.signatureVersion ≠ "2" then (.error versionRefused, cache)
  else authenticateVersionTwo env delivery cache

end

def loadPayload (body : Text) : Except Failure (List (Text × Json)) :=
  match env.loads body with
  | .value (.obj fields) => .ok fields
  | .raised => .error .valueError
  | _ => .error (.validationError "Corps JSON invalide.")

def authenticatedPayload (delivery : Delivery Time) :
    Seen Text Time → Except Failure (List (Text × Json)) × Seen Text Time :=
  andThen (authenticate env delivery) fun _ =>
  reading (fun _ => loadPayload env delivery.request.body)

---- What Is Accepted

/- A correctly signed request of version 2, with its id. -/
structure Presented (delivery : Delivery Time) (requestId : Text) : Prop where
  version : delivery.request.signatureVersion = "2"
  normal : env.normalizeUuid delivery.request.requestId = some requestId
  verified :
    verifySignatureAt env delivery.verifiedAt delivery.request.timestamp delivery.request.body
      delivery.request.signature delivery.request.method
      delivery.request.path requestId = some true

end

variable {env : ControlEnv} {delivery : Delivery Time} {cache : Seen Text Time} {requestId : Text}

theorem authenticate_of_presented (hPresented : Presented env delivery requestId) :
    authenticate env delivery cache = claimRequest delivery.claimedAt requestId cache := by
  have hNotLegacy : ¬ (delivery.request.signatureVersion = [] ∨
    delivery.request.signatureVersion = "1") := by
    rw [hPresented.version]
    decide
  unfold authenticate
  rw [if_neg hNotLegacy, if_neg (fun hNot => hNot hPresented.version)]
  unfold authenticateVersionTwo
  simp only [andThen, reading, hPresented.normal, found, hPresented.verified, requireVerified]

theorem authenticate_of_not_presented (hLegacy : env.acceptLegacySignatures = false)
    (hNot : ∀ id, ¬ Presented env delivery id) :
    ∃ failure, authenticate env delivery cache = (.error failure, cache) := by
  unfold authenticate
  split
  · refine ⟨versionRefused, ?_⟩
    unfold authenticateLegacy
    rw [hLegacy]
    rfl
  split
  · exact ⟨versionRefused, rfl⟩
  rename_i hVersion
  rw [not_not] at hVersion
  unfold authenticateVersionTwo
  simp only [andThen, reading]
  cases hNormal : env.normalizeUuid delivery.request.requestId with
  | none => exact ⟨_, rfl⟩
  | some id =>
    simp only [found]
    cases hVerified : verifySignatureAt env delivery.verifiedAt delivery.request.timestamp
      delivery.request.body
      delivery.request.signature
      delivery.request.method
      delivery.request.path id with
    | none => exact ⟨_, rfl⟩
    | some verified =>
      cases verified with
      | false => exact ⟨_, rfl⟩
      | true => exact absurd ⟨hVersion, hNormal, hVerified⟩ (hNot id)

/- The request ids that a delivery adds to the accepted. -/
def acceptedPayload
    (env : ControlEnv) (delivery : Delivery Time) (cache : Seen Text Time) : List Text :=
  match (authenticatedPayload env delivery cache).1 with
  | .ok _ => (env.normalizeUuid delivery.request.requestId).toList
  | .error _ => []

theorem acceptedPayload_of_presented (hPresented : Presented env delivery requestId) :
    acceptedPayload env delivery cache =
      if (claim withinSixty delivery.claimedAt (requestKey requestId) cache).1 = true ∧
        (loadPayload env delivery.request.body).isOk = true then [requestId]
      else [] := by
  unfold acceptedPayload authenticatedPayload andThen
  rw [authenticate_of_presented hPresented, hPresented.normal]
  unfold claimRequest require reading
  generalize claim withinSixty delivery.claimedAt (requestKey requestId) cache = claimed
  rcases claimed with ⟨claimed, after⟩
  cases claimed with
  | false => rfl
  | true =>
    cases loadPayload env delivery.request.body with
    | error failure => rfl
    | ok fields => rfl

theorem acceptedPayload_of_not_presented (hLegacy : env.acceptLegacySignatures = false)
    (hNot : ∀ id, ¬ Presented env delivery id) : acceptedPayload env delivery cache = [] := by
  rcases @authenticate_of_not_presented Time _ _ _ env delivery cache hLegacy hNot with
    ⟨failure, hRefused⟩
  unfold acceptedPayload authenticatedPayload andThen
  rw [hRefused]

---- Deliveries

/- The cache, the clock, and the ids accepted so far. -/
structure PayloadState (Time : Type) where
  cache : Seen Text Time
  clock : Time
  accepted : List Text

def deliverPayload (env : ControlEnv) (delivery : Delivery Time)
    (state : PayloadState Time) : PayloadState Time where
  cache := (authenticatedPayload env delivery state.cache).2
  clock := delivery.claimedAt
  accepted := state.accepted ++ acceptedPayload env delivery state.cache

/- Requests are delivered as they reach the cache, by a clock that does not go back. -/
inductive PayloadStep (env : ControlEnv) (state : PayloadState Time) :
    Delivery Time → PayloadState Time → Prop
  | deliver {delivery : Delivery Time} (hClock : state.clock ≤ delivery.claimedAt)
    (hVerified : delivery.verifiedAt ≤ delivery.claimedAt) :
    PayloadStep env state delivery (deliverPayload env delivery state)

def payloadSystem (env : ControlEnv) : TransitionSystem (PayloadState Time) (Delivery Time) where
  init := fun state => state.accepted = []
  step := PayloadStep env

/-
  A delivery that presents an accepted id, with a body that is loaded, comes less than 60 seconds
  after the key of the id was set.
-/
def PayloadRetained
    (env : ControlEnv) (state : PayloadState Time) (delivery : Delivery Time) : Prop :=
  ∀ requestId, Presented env delivery requestId →
    (loadPayload env delivery.request.body).isOk = true → requestId ∈ state.accepted →
      Remembers withinSixty delivery.claimedAt (requestKey requestId) state.cache

theorem nodup_accepted_payload_iff (hLegacy : env.acceptLegacySignatures = false)
    {before after : PayloadState Time} (hStep : PayloadStep env before delivery after) :
    after.accepted.Nodup ↔ before.accepted.Nodup ∧ PayloadRetained env before delivery := by
  cases hStep with
  | deliver _ _ =>
    dsimp only [deliverPayload]
    by_cases hPresented : ∃ id, Presented env delivery id
    · rcases hPresented with ⟨id, hPresented⟩
      rw [acceptedPayload_of_presented hPresented, nodup_append_ite_iff, claim_fst_eq_true_iff]
      constructor
      · rintro ⟨hNodup, hKept⟩
        refine ⟨hNodup, ?_⟩
        intro other hOther hLoads hMem
        have hSame := hPresented.normal.symm.trans hOther.normal
        injection hSame with hSame
        rw [← hSame] at hMem ⊢
        by_contra hForgotten
        exact hKept hMem ⟨hForgotten, hLoads⟩
      · rintro ⟨hNodup, hRetained⟩
        refine ⟨hNodup, ?_⟩
        rintro hMem ⟨hForgotten, hLoads⟩
        exact hForgotten (hRetained id hPresented hLoads hMem)
    · rw [not_exists] at hPresented
      rw [acceptedPayload_of_not_presented hLegacy hPresented, List.append_nil]
      constructor
      · intro hNodup
        exact ⟨hNodup, fun id hId => absurd hId (hPresented id)⟩
      · exact fun hBoth => hBoth.1

end PamOlive.Api
