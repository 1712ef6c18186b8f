import PamOlive.Api.Authentication
import Mathlib.Data.Rat.Floor

/-
  Single use of internal request ids.

  The control endpoint remembers ids in a table or in Redis. Like the cache of
  `_authenticated_payload`, both forget an id after 60 seconds, while a timestamp is accepted from
  30 seconds before it to 31 seconds after it: an id that is claimed early can be claimed again.

  Main declarations:
    * `controlSystem` and `ControlRetained`
    * `request_ids_single_use_iff`
    * `apart_of_forgotten`
-/

---- Claiming A Control Request

namespace PamOlive.Gateway

open Foundations Api List

variable {Time : Type} [Ring Time] [LinearOrder Time] [FloorRing Time]

/- Redis answers, or the client raises; the command may have been carried out nevertheless. -/
inductive RedisReply where
  | answered
  | failed (stored : Bool)
deriving DecidableEq

structure ControlDelivery (Time : Type) where
  call : ControlCall
  verifiedAt : Time
  claimedAt : Time
  redis : RedisReply

/- `control_request_ids`, and the keys in Redis. -/
structure ReplayStore (Time : Type) where
  memory : Seen Text Time
  redis : Seen Text Time

/- The table keeps an id up to 60 seconds, inclusively. -/
def upToSixty (setAt now : Time) : Bool :=
  decide (now - setAt ≤ sixtySeconds)

def controlKey (requestId : Text) : Text := "pamolive:gateway-control:" ++ requestId

/- `bool(set(key, "1", ex=60, nx=True))`. -/
def claimRedis (reply : RedisReply) (now : Time) (requestId : Text)
    (redis : Seen Text Time) : Bool × Seen Text Time :=
  let claimed := claim withinSixty now (controlKey requestId) redis
  match reply with
  | .answered => claimed
  | .failed true => (false, claimed.2)
  | .failed false => (false, redis)

def claimControlRequestIdAt (env : ControlEnv) (delivery : ControlDelivery Time) (requestId : Text)
    (store : ReplayStore Time) : Bool × ReplayStore Time :=
  if env.hasReplayCache then
    let claimed := claimRedis delivery.redis delivery.claimedAt requestId store.redis
    (claimed.1, { store with redis := claimed.2 })
  else
    let claimed := claim upToSixty delivery.claimedAt requestId store.memory
    (claimed.1, { store with memory := claimed.2 })

/- The value of `valid`, by a way to claim request ids. -/
def requestValidBy {Store : Type} (env : ControlEnv) (call : ControlCall) (verified : Bool)
    (claimId : Text → Store → Bool × Store) (store : Store) : Bool × Store :=
  if !legacyAccepted env call &&
    (call.signatureVersion != "2" || normalRequestId env call == []) then
    (false, store)
  else if verified && !legacyAccepted env call then claimId (normalRequestId env call) store
  else (verified, store)

theorem requestValid_eq (env : ControlEnv) (call : ControlCall) (verified : Bool) (seen : SeenIds) :
    requestValid env call verified seen =
      requestValidBy env call verified (claimControlRequestId env call) seen :=
  rfl

theorem claimControlRequestId_eq_claim {env : ControlEnv} (hMemory : env.hasReplayCache = false)
    (call : ControlCall) (requestId : Text) (seen : SeenIds) :
    claimControlRequestId env call requestId seen = claim
      (fun setAt now => decide (now - setAt ≤ 60 * 1000000))
      call.now requestId seen := by
  unfold claimControlRequestId
  rw [hMemory]
  rfl

---- The Endpoint

def signatureVerifiedAt (env : ControlEnv) (delivery : ControlDelivery Time) : Option Bool :=
  signatureVerified env { delivery.call with now := clockSeconds delivery.verifiedAt * 1000000 }

def IsTermination (call : ControlCall) : Prop := call.path = terminatePath ∧ call.method = "POST"

instance (call : ControlCall) : Decidable (IsTermination call) :=
  inferInstanceAs (Decidable (_ ∧ _))

section

variable (env : ControlEnv) (delivery : ControlDelivery Time)

/- Whether a request is valid; `none` after an exception. -/
def validAt (store : ReplayStore Time) : Option (Bool × ReplayStore Time) :=
  (signatureVerifiedAt env delivery).map (fun verified =>
      requestValidBy env delivery.call verified (claimControlRequestIdAt env delivery) store)

def controlAt (app : ControlState) (store : ReplayStore Time) : ControlAnswer × ReplayStore Time :=
  if delivery.call.path = "/health/live/" ∧ delivery.call.method = "GET" then
    (⟨some 200, app⟩, store)
  else if ¬ IsTermination delivery.call then (⟨some 404, app⟩, store)
  else
    match validAt env delivery store with
    | none => (⟨none, app⟩, store)
    | some (valid, store) =>
      match bodySessionId env delivery.call.body with
      | none => (⟨none, app⟩, store)
      | some sessionId => (signalSession valid sessionId app, store)

def acceptedControl (store : ReplayStore Time) : List Text :=
  if IsTermination delivery.call ∧ (validAt env delivery store).any Prod.fst = true then
    [normalRequestId env delivery.call]
  else []

end

/- The application, the clock, and the ids accepted so far. -/
structure GatewayState (Time : Type) where
  app : ControlState
  store : ReplayStore Time
  clock : Time
  accepted : List Text

def deliverControl (env : ControlEnv) (delivery : ControlDelivery Time)
    (state : GatewayState Time) : GatewayState Time :=
  let answer := controlAt env delivery state.app state.store
  { app := answer.1.state
    store := answer.2
    clock := delivery.claimedAt
    accepted := state.accepted ++ acceptedControl env delivery state.store }

/- Requests are handled one by one, in the order of time. -/
inductive ControlStep (env : ControlEnv) (state : GatewayState Time) :
    ControlDelivery Time → GatewayState Time → Prop
  | deliver {delivery : ControlDelivery Time} (hClock : state.clock ≤ delivery.claimedAt)
    (hVerified : delivery.verifiedAt ≤ delivery.claimedAt) :
    ControlStep env state delivery (deliverControl env delivery state)

def controlSystem (env : ControlEnv) :
    TransitionSystem (GatewayState Time) (ControlDelivery Time) where
  init := fun state => state.accepted = []
  step := ControlStep env

---- What Is Accepted

/- A correctly signed request of version 2 with an id. -/
structure ControlPresented (env : ControlEnv) (delivery : ControlDelivery Time) : Prop where
  termination : IsTermination delivery.call
  version : delivery.call.signatureVersion = "2"
  hasId : normalRequestId env delivery.call ≠ []
  verified : signatureVerifiedAt env delivery = some true

/- The id was set in the configured store less than 60 seconds ago, or in the table at most 60. -/
def StoreRemembers (env : ControlEnv) (delivery : ControlDelivery Time) (requestId : Text)
    (store : ReplayStore Time) : Prop :=
  if env.hasReplayCache then
    delivery.redis = .answered →
      Remembers withinSixty delivery.claimedAt (controlKey requestId) store.redis
  else Remembers upToSixty delivery.claimedAt requestId store.memory

/- If a delivery presents an id that was accepted before, then the store still remembers it. -/
def ControlRetained (env : ControlEnv) (state : GatewayState Time)
    (delivery : ControlDelivery Time) : Prop :=
  ControlPresented env delivery → normalRequestId env delivery.call ∈ state.accepted →
    StoreRemembers env delivery (normalRequestId env delivery.call) state.store

variable {env : ControlEnv} {delivery : ControlDelivery Time} {store : ReplayStore Time}

section

variable (hLegacy : env.acceptLegacySignatures = false)

include hLegacy

theorem legacyAccepted_eq_false (call : ControlCall) : legacyAccepted env call = false := by
  unfold legacyAccepted
  rw [hLegacy, Bool.and_false]

section

variable (hPresented : ControlPresented env delivery)

include hPresented

theorem validAt_of_presented : validAt env delivery store =
    some (claimControlRequestIdAt env delivery (normalRequestId env delivery.call) store) := by
  unfold validAt requestValidBy
  rw [hPresented.verified, hPresented.version, legacyAccepted_eq_false hLegacy]
  simp [hPresented.hasId]

theorem acceptedControl_of_presented : acceptedControl env delivery store =
    if (claimControlRequestIdAt env delivery
      (normalRequestId env delivery.call) store).1 = true then
      [normalRequestId env delivery.call]
    else [] := by
  unfold acceptedControl
  rw [validAt_of_presented hLegacy hPresented]
  simp only [hPresented.termination, true_and, Option.any_some]

end

theorem acceptedControl_of_not_presented
    (hNot : ¬ ControlPresented env delivery) : acceptedControl env delivery store = [] := by
  apply if_neg
  rintro ⟨hTermination, hAny⟩
  apply hNot
  unfold validAt requestValidBy at hAny
  rw [legacyAccepted_eq_false hLegacy] at hAny
  cases hVerified : signatureVerifiedAt env delivery with
  | none =>
    rw [hVerified] at hAny
    exact nomatch hAny
  | some verified =>
    rw [hVerified, Option.map_some, Option.any_some] at hAny
    split at hAny
    · exact nomatch hAny
    · rename_i hGuard
      simp only [Bool.not_false, Bool.true_and, Bool.or_eq_true, bne_iff_ne, beq_iff_eq, not_or,
        not_not] at hGuard
      cases verified with
      | false => exact nomatch hAny
      | true => exact ⟨hTermination, hGuard.1, hGuard.2, hVerified⟩

end

/- Whether a claim succeeds, in either store. -/
omit [FloorRing Time] in
theorem claimControlRequestIdAt_fst_iff {requestId : Text} :
    (claimControlRequestIdAt env delivery requestId store).1 = true ↔
      ¬ StoreRemembers env delivery requestId store := by
  unfold claimControlRequestIdAt StoreRemembers
  split
  · unfold claimRedis
    cases delivery.redis with
    | answered =>
      rw [claim_fst_eq_true_iff]
      simp
    | failed stored =>
      cases stored with
      | false => simp
      | true => simp
  · rw [claim_fst_eq_true_iff]

theorem nodup_accepted_control_iff (hLegacy : env.acceptLegacySignatures = false)
    {before after : GatewayState Time} (hStep : ControlStep env before delivery after) :
    after.accepted.Nodup ↔ before.accepted.Nodup ∧ ControlRetained env before delivery := by
  cases hStep with
  | deliver _ _ =>
    dsimp only [deliverControl]
    by_cases hPresented : ControlPresented env delivery
    · rw [acceptedControl_of_presented hLegacy hPresented, nodup_append_ite_iff,
      claimControlRequestIdAt_fst_iff, not_not]
      constructor
      · rintro ⟨hNodup, hKept⟩
        exact ⟨hNodup, fun _ => hKept⟩
      · rintro ⟨hNodup, hRetained⟩
        exact ⟨hNodup, hRetained hPresented⟩
    · rw [acceptedControl_of_not_presented hLegacy hPresented, append_nil]
      constructor
      · intro hNodup
        exact ⟨hNodup, fun hYes => absurd hYes hPresented⟩
      · exact fun hBoth => hBoth.1

/-
  With legacy signatures disabled, each request id is accepted at most once, by
  `_authenticated_payload` and by the control endpoint with either store, exactly if no accepted id
  is presented after it was forgotten.
-/
theorem request_ids_single_use_iff (hLegacy : env.acceptLegacySignatures = false) :
    (∀ (start finish : PayloadState Time) (deliveries : List (Delivery Time)),
      (payloadSystem env).init start → (payloadSystem env).Run start deliveries finish →
        (finish.accepted.Nodup ↔
          (payloadSystem env).Guarded (PayloadRetained env) start deliveries finish)) ∧
      ∀ (start finish : GatewayState Time) (deliveries : List (ControlDelivery Time)),
        (controlSystem env).init start → (controlSystem env).Run start deliveries finish →
          (finish.accepted.Nodup ↔
            (controlSystem env).Guarded (ControlRetained env) start deliveries finish) := by
  constructor
  · intro start finish deliveries hInit hRun
    refine @TransitionSystem.Run.iff_guarded _ _ (payloadSystem env) _ _ _ (PayloadRetained env)
      (fun state => state.accepted.Nodup) ?_ hRun ?_
    · intro before delivery after hStep
      exact nodup_accepted_payload_iff hLegacy hStep
    · rw [hInit]
      exact nodup_nil
  · intro start finish deliveries hInit hRun
    refine @TransitionSystem.Run.iff_guarded _ _ (controlSystem env) _ _ _ (ControlRetained env)
      (fun state => state.accepted.Nodup) ?_ hRun ?_
    · intro before delivery after hStep
      exact nodup_accepted_control_iff hLegacy hStep
    · rw [hInit]
      exact nodup_nil

---- Timestamps

theorem near_of_verified {instant : Time} {timestamp body signature method path requestId : Text}
    (hVerified : verifySignatureAt env instant timestamp body signature method path requestId =
      some true) :
    ∃ issuedAt, env.textToInt timestamp = some issuedAt ∧
      (clockSeconds instant - issuedAt).natAbs ≤ 30 := by
  unfold verifySignatureAt verifyRequestSignature at hVerified
  split at hVerified
  · exact nomatch hVerified
  · rename_i issuedAt hStamp
    split at hVerified
    · exact nomatch hVerified
    · rename_i hNear
      rw [Int.mul_ediv_cancel _ (by decide)] at hNear
      exact ⟨issuedAt, hStamp, Nat.le_of_not_lt hNear⟩

/-
  A timestamp is accepted for 61 seconds and an id is remembered for 60. A request that is claimed
  as soon as it is verified can thus be replayed in the last of these seconds, and in no other.
-/
theorem apart_of_forgotten [IsStrictOrderedRing Time] {first second : Delivery Time}
    {requestId : Text} (hFirst : Presented env first requestId)
    (hSecond : Presented env second requestId)
    (hStamp : second.request.timestamp = first.request.timestamp)
    (hAtOnce : first.claimedAt = first.verifiedAt ∧ second.claimedAt = second.verifiedAt)
    (hStart : 0 ≤ first.claimedAt) (hOrder : first.claimedAt ≤ second.claimedAt)
    (hForgotten : withinSixty first.claimedAt second.claimedAt = false) :
    60 ≤ second.claimedAt - first.claimedAt ∧ second.claimedAt - first.claimedAt < 61 := by
  rcases near_of_verified hFirst.verified with ⟨issuedAt, hIssued, hNear⟩
  rcases near_of_verified hSecond.verified with ⟨issuedAt', hIssued', hNear'⟩
  rw [hStamp] at hIssued'
  cases Option.mem_unique hIssued hIssued'
  rw [← hAtOnce.1, clockSeconds, if_pos hStart] at hNear
  rw [← hAtOnce.2, clockSeconds, if_pos (hStart.trans hOrder)] at hNear'
  have hFloor := Int.floor_le first.claimedAt
  have hFloor' := Int.lt_floor_add_one second.claimedAt
  have hSeconds : ⌊second.claimedAt⌋ + 1 ≤ 61 + ⌊first.claimedAt⌋ := by omega
  have hCast : (⌊second.claimedAt⌋ : Time) + 1 ≤ 61 + ⌊first.claimedAt⌋ := by
    exact_mod_cast hSeconds
  refine ⟨not_lt.mp (of_decide_eq_false hForgotten), ?_⟩
  rw [sub_lt_iff_lt_add]
  exact hFloor'.trans_le (hCast.trans (add_le_add_right hFloor 61))

---- Sample Deliveries

def sampleId : Text := Uuid.str 1

def samplePath : Text := "/api/internal/gateway/close/"

def emptyBody : Text := "\x7b\x7d"

/- What is signed on the way to a path. -/
def signedFor (path : Text) : Text := signedText "1000" emptyBody "POST" path sampleId

/- The signatures of the two sample requests under the key `shared`. -/
def sampleSignature (path : Text) : Text :=
  if path = terminatePath then "7d39161f86c98d48771b3bcd08d80d907aee8987713b8b61af8f4cc39af88548"
  else "71527aaad26e12594d0c17ded55f24da9b2af7b2c26378404ec61cdd369b6f8f"

def replayEnv (cached : Bool) : ControlEnv where
  sharedKey := "shared"
  acceptLegacySignatures := false
  hasReplayCache := cached
  hmacHex := fun _ message =>
    if message = signedFor terminatePath then sampleSignature terminatePath
    else if message = signedFor samplePath then sampleSignature samplePath
    else []
  textToInt := fun text => if text = "1000" then some 1000 else none
  normalizeUuid := fun text => (Uuid.parse text).map Uuid.str
  loads := fun body => if body = emptyBody then .value (.obj []) else .decodeError
  printable := fun _ => true

def payloadDelivery (instant : ℚ) : Delivery ℚ where
  request :=
    { timestamp := "1000"
      signature := sampleSignature samplePath
      signatureVersion := "2"
      requestId := sampleId
      method := "POST"
      path := samplePath
      body := emptyBody }
  verifiedAt := instant
  claimedAt := instant

def controlDelivery (instant : ℚ) : ControlDelivery ℚ where
  call :=
    { path := terminatePath
      method := "POST"
      body := emptyBody
      requestId := sampleId
      signatureVersion := "2"
      timestamp := "1000"
      signature := sampleSignature terminatePath
      now := 0
      cacheAnswer := false }
  verifiedAt := instant
  claimedAt := instant
  redis := .answered

def gatewayStart : GatewayState ℚ where
  app := ⟨fun _ => none, [], fun _ => false⟩
  store := ⟨[], []⟩
  clock := 0
  accepted := []

/- A request is delivered at 970 seconds and again later. -/
def payloadFinish (later : ℚ) : PayloadState ℚ :=
  deliverPayload (replayEnv false) (payloadDelivery later)
    (deliverPayload (replayEnv false) (payloadDelivery 970) ⟨[], 0, []⟩)

def controlFinish (cached : Bool) (later : ℚ) : GatewayState ℚ :=
  deliverControl (replayEnv cached) (controlDelivery later)
    (deliverControl (replayEnv cached) (controlDelivery 970) gatewayStart)

variable {later : ℚ}

theorem run_payloadFinish (hLater : 970 ≤ later) :
    (payloadSystem (replayEnv false)).Run ⟨[], 0, []⟩ [payloadDelivery 970, payloadDelivery later]
      (payloadFinish later) :=
  .cons (.deliver (by decide +kernel) le_rfl) (.cons (.deliver hLater le_rfl) (.nil _))

theorem run_controlFinish (cached : Bool) (hLater : 970 ≤ later) :
    (controlSystem (replayEnv cached)).Run gatewayStart
      [controlDelivery 970, controlDelivery later] (controlFinish cached later) :=
  .cons (.deliver (by decide +kernel) le_rfl) (.cons (.deliver hLater le_rfl) (.nil _))

theorem accepted_payloadFinish : (payloadFinish 1000).accepted = [sampleId] := by
  decide +kernel

theorem accepted_controlFinish : ∀ cached, (controlFinish cached 1000).accepted = [sampleId] := by
  decide +kernel

/- The second delivery, after 30 seconds, is refused. -/
theorem request_ids_single_use_sample :
    (payloadSystem (replayEnv false)).Guarded (PayloadRetained (replayEnv false)) ⟨[], 0, []⟩
      [payloadDelivery 970, payloadDelivery 1000] (payloadFinish 1000) ∧
      ∀ cached, (controlSystem (replayEnv cached)).Guarded (ControlRetained (replayEnv cached))
        gatewayStart [controlDelivery 970, controlDelivery 1000] (controlFinish cached 1000) := by
  have hLater : (970 : ℚ) ≤ 1000 := by norm_num
  have hIff := fun cached => @request_ids_single_use_iff ℚ _ _ _ (replayEnv cached) rfl
  constructor
  · refine ((hIff false).1 ⟨[], 0, []⟩ _ _ rfl (run_payloadFinish hLater)).mp ?_
    rw [accepted_payloadFinish]
    exact nodup_singleton _
  · intro cached
    refine ((hIff cached).2 gatewayStart _ _ rfl (run_controlFinish cached hLater)).mp ?_
    rw [accepted_controlFinish]
    exact nodup_singleton _

/- A request delivered at 970 and at 1030.5 seconds is accepted twice, by all three. -/
theorem request_id_accepted_twice : (∃ finish, (payloadSystem (replayEnv false)).Run ⟨[], 0, []⟩
    [payloadDelivery 970, payloadDelivery (2061 / 2)] finish ∧
    finish.accepted = [sampleId, sampleId]) ∧
    ∀ cached, ∃ finish, (controlSystem (replayEnv cached)).Run gatewayStart
      [controlDelivery 970, controlDelivery (2061 / 2)]
      finish ∧ finish.accepted = [sampleId, sampleId] := by
  have hLater : (970 : ℚ) ≤ 2061 / 2 := by norm_num
  have hTwice : ∀ cached, (controlFinish cached (2061 / 2)).accepted = [sampleId, sampleId] := by
    decide +kernel
  refine ⟨⟨_, run_payloadFinish hLater, by decide +kernel⟩, ?_⟩
  exact fun cached => ⟨_, run_controlFinish cached hLater, hTwice cached⟩

end PamOlive.Gateway
