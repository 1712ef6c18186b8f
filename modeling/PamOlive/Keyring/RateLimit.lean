import PamOlive.Common.KeyringClient
import PamOlive.Foundations.SlidingWindow
import Mathlib.Data.Nat.Cast.Order.Ring

/-
  The rate limits of the keyring service.

  There is one sliding window per operation. A refused request gets status 429, and the client
  raises without waiting. A clock gives the instants of the requests, at any speed.
-/

---- The Limiter

namespace PamOlive.KeyringService

open Foundations List Function SlidingWindow

inductive Operation where
  | encrypt | decrypt | sign | verify
deriving DecidableEq

structure Limits where
  perMinute : Nat := 1200
  decryptPerMinute : Nat := 300

/- `limits.get(operation, limits["default"])`. -/
def Limits.of (limits : Limits) : Operation → Nat
| .decrypt => limits.decryptPerMinute
| _ => limits.perMinute

/- The requests so far, and the windows of the operations. -/
structure Limiter (Time : Type) where
  calls : Nat
  events : Operation → List Time

def Limiter.fresh {Time : Type} : Limiter Time where
  calls := 0
  events := fun _ => []

variable {Time : Type} [Ring Time] [LinearOrder Time]

def windowSeconds : Time := Nat.cast 60

def acquire (limits : Limits) (clock : Nat → Time) (operation : Operation)
    (limiter : Limiter Time) : Bool × Limiter Time :=
  let answer := SlidingWindow.acquire (limits.of operation) windowSeconds (clock limiter.calls)
    (limiter.events operation)
  (answer.1,
    { calls := limiter.calls + 1, events := update limiter.events operation answer.2 })

def post {Failure α : Type} (limits : Limits) (clock : Nat → Time) (operation : Operation)
    (refused : Failure) (answer : Except Failure α) (limiter : Limiter Time) :
    Except Failure α × Limiter Time :=
  let allowed := acquire limits clock operation limiter
  (if allowed.1 then answer else .error refused, allowed.2)

/- `KeyringClient` with a service that has rate limits. -/
def limitedClient (limits : Limits) (clock : Nat → Time)
    (keyring : Keyring) : KeyringClient (Limiter Time) where
  encrypt text := post limits clock .encrypt .operationFailed (keyring.encrypt text)
  decrypt text := post limits clock .decrypt .operationFailed (keyring.decrypt text)
  sign text := post limits clock .sign .operationFailed (keyring.sign text)
  verify text signature :=
    post limits clock .verify .operationFailed (keyring.verify text signature)

variable {Failure α β : Type} {limits : Limits} {clock : Nat → Time} {operation : Operation}
variable {refused : Failure}
variable {limiter : Limiter Time}

theorem post_of_allowed (answer : Except Failure α)
    (hAllowed : (acquire limits clock operation limiter).1 = true) :
    post limits clock operation refused answer limiter =
      (answer, (acquire limits clock operation limiter).2) := by
  unfold post
  dsimp only
  rw [if_pos hAllowed]

theorem post_of_refused (answer : Except Failure α)
    (hRefused : (acquire limits clock operation limiter).1 = false) :
    post limits clock operation refused answer limiter =
      (.error refused, (acquire limits clock operation limiter).2) := by
  unfold post
  dsimp only
  rw [hRefused]
  rfl

theorem andThen_post (value : α) (next : α → Except Failure β) :
    andThen (post limits clock operation refused (.ok value))
      (fun value => reading (fun _ => next value)) =
      post limits clock operation refused (next value) := by
  funext limiter
  unfold andThen
  cases hAllowed : (acquire limits clock operation limiter).1 with
  | true =>
    rw [post_of_allowed _ hAllowed, post_of_allowed _ hAllowed]
    rfl
  | false => rw [post_of_refused _ hAllowed, post_of_refused _ hAllowed]

theorem raising_post {Other : Type} (rename : Failure → Other) (answer : Except Failure α) :
    raising rename (post limits clock operation refused answer) =
      post limits clock operation (rename refused) (answer.mapError rename) := by
  funext limiter
  unfold raising
  cases hAllowed : (acquire limits clock operation limiter).1 with
  | true => rw [post_of_allowed _ hAllowed, post_of_allowed _ hAllowed]
  | false =>
    rw [post_of_refused _ hAllowed, post_of_refused _ hAllowed]
    rfl

---- Loops

def requestTimes (clock : Nat → Time) (first count : Nat) : List Time :=
  (range' first count).map clock

omit [Ring Time] [LinearOrder Time] in
theorem length_requestTimes (clock : Nat → Time) (first count : Nat) :
    (requestTimes clock first count).length = count := by
  unfold requestTimes
  rw [length_map, length_range']

/- The windows that are left, if all requests pass. -/
def acquireAll (limits : Limits) (clock : Nat → Time) (operation : Operation) (count : Nat)
    (limiter : Limiter Time) : Option (List Time) :=
  SlidingWindow.acquireAll (limits.of operation)
    windowSeconds (requestTimes clock limiter.calls count)
    (limiter.events operation)

theorem acquireAll_succ (count : Nat) (limiter : Limiter Time) :
    acquireAll limits clock operation (count + 1) limiter =
      if (acquire limits clock operation limiter).1 then
        acquireAll limits clock operation count (acquire limits clock operation limiter).2
      else none := by
  unfold acquireAll requestTimes acquire
  rw [range'_succ, map_cons]
  conv_lhs => unfold SlidingWindow.acquireAll
  rcases SlidingWindow.acquire (limits.of operation) windowSeconds (clock limiter.calls)
    (limiter.events operation) with ⟨_ | _, kept⟩
  · rfl
  · dsimp only
    rw [if_pos rfl, update_self]

/- A loop that makes a request for some of its items. -/
structure Requesting
    (limits : Limits) (clock : Nat → Time) (operation : Operation) (refused : Failure)
    (asks : α → Bool) (next : β → α → β)
    (body : α → β → Limiter Time → Except Failure β × Limiter Time) (items : List α) : Prop where
  asked : ∀ item ∈ items, asks item = true → ∀ running,
    body item running = post limits clock operation refused (.ok (next running item))
  skipped : ∀ item ∈ items, asks item = false → ∀ running,
    body item running = reading (fun _ => .ok (next running item))

variable {asks : α → Bool} {next : β → α → β} {body :
  α → β → Limiter Time → Except Failure β × Limiter Time}
variable {items : List α}

/-
  Such a loop ends exactly if all of its requests pass, with the result it has without limits. By
  induction on the items, since each request moves the window.
-/
theorem forEach_post (hLoop : Requesting limits clock operation refused asks next body items)
    (running : β) (limiter : Limiter Time) :
    (∀ kept, acquireAll limits clock operation (items.countP asks) limiter = some kept →
      forEach body items running limiter = (.ok (items.foldl next running),
        { calls := limiter.calls + items.countP asks
          events := update limiter.events operation kept })) ∧
      (acquireAll limits clock operation (items.countP asks) limiter = none →
        (forEach body items running limiter).1 = .error refused) := by
  induction items generalizing running limiter with
  | nil =>
    constructor
    · intro kept hKept
      have hSame : limiter.events operation = kept := Option.some.inj hKept
      rw [← hSame, update_eq_self]
      rfl
    · intro hNone
      cases hNone
  | cons item rest ih =>
    have hRest : Requesting limits clock operation refused asks next body rest :=
      ⟨fun other hMem =>
        hLoop.asked other (mem_cons_of_mem _ hMem),
        fun other hMem =>
          hLoop.skipped other (mem_cons_of_mem _ hMem)⟩
    have hMem : item ∈ item :: rest := mem_cons_self
    unfold forEach andThen
    cases hAsks : asks item with
    | false =>
      rw [hLoop.skipped item hMem hAsks, countP_cons_of_neg (by rw [hAsks]; simp)]
      exact ih hRest (next running item) limiter
    | true =>
      have hNext := ih hRest (next running item) (acquire limits clock operation limiter).2
      rw [hLoop.asked item hMem hAsks, countP_cons_of_pos hAsks, acquireAll_succ]
      cases hAllowed : (acquire limits clock operation limiter).1 with
      | false =>
        rw [post_of_refused _ hAllowed]
        constructor
        · intro kept hKept
          cases hKept
        · intro _
          rfl
      | true =>
        rw [post_of_allowed _ hAllowed, if_pos rfl]
        refine ⟨?_, hNext.2⟩
        intro kept hKept
        refine (hNext.1 kept hKept).trans ?_
        unfold acquire
        rw [update_idem, Nat.add_assoc, Nat.add_comm 1]
        rfl

theorem mapAccum_post {body : α → β → Limiter Time → Except Failure (α × β) × Limiter Time}
    (hAsked : ∀ item ∈ items, asks item = true → ∀ running,
      body item running = post limits clock operation refused (.ok (item, next running item)))
    (hSkipped : ∀ item ∈ items, asks item = false → ∀ running,
      body item running = reading (fun _ => .ok (item, next running item)))
    (running : β) (limiter : Limiter Time) :
    (∀ kept, acquireAll limits clock operation (items.countP asks) limiter = some kept →
      (mapAccum body items running limiter).1 = .ok (items, items.foldl next running)) ∧
      (acquireAll limits clock operation (items.countP asks) limiter = none →
        (mapAccum body items running limiter).1 = .error refused) := by
  have hLoop : Requesting limits clock operation refused asks
    (fun acc item => (acc.1 ++ [item], next acc.2 item))
    (mapAccumBody body) items := by
    constructor
    · intro item hMem hAsks acc
      unfold mapAccumBody
      rw [hAsked item hMem hAsks, andThen_post]
    · intro item hMem hAsks acc
      unfold mapAccumBody
      rw [hSkipped item hMem hAsks]
      rfl
  have hRun := forEach_post hLoop ([], running) limiter
  refine ⟨?_, hRun.2⟩
  intro kept hKept
  rw [mapAccum, hRun.1 kept hKept, foldl_collect, nil_append]

section Fresh

variable [IsStrictOrderedRing Time]

omit [Ring Time] [IsStrictOrderedRing Time] in
theorem requestTimes_sorted (hClock : Monotone clock) (first count : Nat) :
    (requestTimes clock first count).Pairwise (· ≤ ·) := by
  unfold requestTimes
  rw [pairwise_map]
  refine Pairwise.imp ?_ (pairwise_lt_range')
  intro earlier later hLess
  exact hClock (Nat.le_of_lt hLess)

theorem acquireAll_isSome_iff (hClock : Monotone clock) (hLimit : 0 < limits.of operation)
    (hFresh : limiter.events operation = []) (count : Nat) :
    (acquireAll limits clock operation count limiter).isSome ↔
      Spaced (limits.of operation) windowSeconds (requestTimes clock limiter.calls count) := by
  unfold acquireAll
  rw [hFresh]
  exact acquireAll_iff_spaced hLimit (requestTimes_sorted hClock _ _)

theorem spaced_constant_iff (instant : Time) (limit first count : Nat) :
    Spaced limit windowSeconds (requestTimes (fun _ => instant) first count) ↔ count ≤ limit := by
  have hTimes : requestTimes (fun _ => instant) first count = replicate count instant := by
    unfold requestTimes
    rw [map_const', length_range']
  rw [hTimes]
  constructor
  · intro hSpaced
    by_contra hMore
    have hLe := hSpaced 0 instant instant (getElem?_replicate_of_lt (by omega))
      (getElem?_replicate_of_lt (by omega))
    have hWindow : (0 : Time) < windowSeconds := by
      exact Nat.ofNat_pos
    exact absurd hLe (not_le.mpr (lt_add_of_pos_right instant hWindow))
  · intro hLe
    exact spaced_of_length_le (by rw [length_replicate]; exact hLe)

end Fresh

end PamOlive.KeyringService
