import PamOlive.Foundations.Transition
import PamOlive.Gateway.Control
import Mathlib.Logic.Function.Basic

/-
  The registry of cancellation events under concurrent connections.

  A connection writes its event under the session id of its URL before it is authorized, and
  removes the entry when it ends. A second connection to one id replaces the event of a running
  bridge and then takes the entry away.
-/

---- Connections

namespace PamOlive.Gateway

open Foundations Function

/- Where `__call__` is for a connection: before the bridge, in it, in `finally`, or done. -/
inductive ConnectionPhase where
  | registered | bridging | closing | finished
deriving DecidableEq

structure Connection where
  sessionId : Text
  phase : ConnectionPhase
deriving DecidableEq

structure Handlers where
  control : ControlState
  connections : Nat → Option Connection

open Handlers

section

variable (handlers : Handlers) (index : Nat) (sessionId : Text)

def Handlers.setPhase (phase : ConnectionPhase) : Handlers :=
  { handlers with connections := update handlers.connections index (some ⟨sessionId, phase⟩) }

/- `self.cancellations[session_id] = cancellation`. -/
def Handlers.register : Handlers where
  control :=
    { handlers.control with
      cancellations := update handlers.control.cancellations sessionId (some index)
      isSet := update handlers.control.isSet index false }
  connections := update handlers.connections index (some ⟨sessionId, .registered⟩)

end

/- `self.cancellations.pop(session_id, None)`. -/
def Handlers.unregister (handlers : Handlers) (sessionId : Text) : Handlers :=
  { handlers with
    control :=
      { handlers.control with
        cancellations := update handlers.control.cancellations sessionId none } }

inductive HandlerLabel where
  | accept (index : Nat) (sessionId : Text)
  | startBridge (index : Nat)
  | leave (index : Nat)
  | pop (index : Nat)
  | abandon (index : Nat)
  | request (call : ControlCall)

/-
  A step of a connection, or a control request. A connection may leave for the `finally` block at
  any time; `abandon` is one left by an exception of the recorder before the entry is removed.
-/
inductive HandlerStep (env : ControlEnv) (handlers : Handlers) : HandlerLabel → Handlers → Prop
  | accept {index : Nat} {sessionId : Text} (hNew : handlers.connections index = none) :
    HandlerStep env handlers (.accept index sessionId) (handlers.register index sessionId)
  | startBridge {index : Nat} {sessionId : Text}
    (hConnection : handlers.connections index = some ⟨sessionId, .registered⟩) :
    HandlerStep env handlers (.startBridge index) (handlers.setPhase index sessionId .bridging)
  | leave {index : Nat} {sessionId : Text} {phase : ConnectionPhase}
    (hConnection : handlers.connections index = some ⟨sessionId, phase⟩)
    (hPhase : phase = .registered ∨ phase = .bridging) :
    HandlerStep env handlers (.leave index) (handlers.setPhase index sessionId .closing)
  | pop {index : Nat} {sessionId : Text}
    (hConnection : handlers.connections index = some ⟨sessionId, .closing⟩) :
    HandlerStep env handlers (.pop index)
      ((handlers.setPhase index sessionId .finished).unregister sessionId)
  | abandon {index : Nat} {sessionId : Text}
    (hConnection : handlers.connections index = some ⟨sessionId, .closing⟩) :
    HandlerStep env handlers (.abandon index) (handlers.setPhase index sessionId .finished)
  | request {call : ControlCall} : HandlerStep env handlers (.request call)
    { handlers with control := (control env call handlers.control).state }

def Handlers.initial : Handlers where
  control := ⟨fun _ => none, [], fun _ => false⟩
  connections := fun _ => none

def handlerSystem (env : ControlEnv) : TransitionSystem Handlers HandlerLabel where
  init handlers := handlers = initial
  step := HandlerStep env

---- Live Connections Are Registered

variable {env : ControlEnv}

/- Every connection that is not done owns its entry. -/
def Registered (handlers : Handlers) : Prop :=
  ∀ index connection, handlers.connections index = some connection → connection.phase ≠ .finished →
    handlers.control.cancellations connection.sessionId = some index

/- A connection is accepted only when all earlier ones to its session id are done. -/
def Alone (handlers : Handlers) : HandlerLabel → Prop
  | .accept _ sessionId =>
    ∀ other connection, handlers.connections other = some connection →
      connection.sessionId = sessionId → connection.phase = .finished
  | _ => True

variable {handlers : Handlers} {index : Nat} {sessionId : Text}

theorem Handlers.setPhase_cases {other : Nat} {phase : ConnectionPhase} {connection : Connection}
    (hOther : (handlers.setPhase index sessionId phase).connections other = some connection) :
    (other = index ∧ connection = ⟨sessionId, phase⟩) ∨
      (other ≠ index ∧ handlers.connections other = some connection) := by
  unfold setPhase at hOther
  by_cases hSame : other = index
  · subst hSame
    simp only [update_self, Option.some.injEq] at hOther
    exact Or.inl ⟨rfl, hOther.symm⟩
  · simp only [update_of_ne hSame] at hOther
    exact Or.inr ⟨hSame, hOther⟩

variable {before : ConnectionPhase}

section

variable (hRegistered : Registered handlers)

include hRegistered

section

variable (hConnection : handlers.connections index = some ⟨sessionId, before⟩)
  (hLive : before ≠ .finished)

include hConnection hLive

theorem Registered.setPhase
    (phase : ConnectionPhase) : Registered (handlers.setPhase index sessionId phase) := by
  intro other connection hOther hPhase
  rcases setPhase_cases hOther with ⟨rfl, rfl⟩ | ⟨_, hBefore⟩
  · exact hRegistered other ⟨sessionId, before⟩ hConnection hLive
  · exact hRegistered other connection hBefore hPhase

theorem Registered.pop :
    Registered ((handlers.setPhase index sessionId .finished).unregister sessionId) := by
  intro other connection hOther hPhase
  rcases setPhase_cases hOther with ⟨rfl, rfl⟩ | ⟨hDifferent, hBefore⟩
  · exact absurd rfl hPhase
  have hEntry := hRegistered other connection hBefore hPhase
  have hOwn : handlers.control.cancellations sessionId = some index :=
    hRegistered index _ hConnection hLive
  have hSession : connection.sessionId ≠ sessionId := by
    intro hSame
    rw [hSame, hOwn] at hEntry
    injection hEntry with hIndex
    exact hDifferent hIndex.symm
  unfold unregister Handlers.setPhase
  simp only [update_of_ne hSession]
  exact hEntry

end

theorem Registered.accept (hAlone : Alone handlers (.accept index sessionId)) :
    Registered (handlers.register index sessionId) := by
  intro other connection hOther hPhase
  unfold register at hOther ⊢
  by_cases hSame : other = index
  · subst hSame
    simp only [update_self, Option.some.injEq] at hOther
    subst hOther
    simp
  · simp only [update_of_ne hSame] at hOther
    have hSession : connection.sessionId ≠ sessionId := by
      intro hEq
      exact hPhase (hAlone other connection hOther hEq)
    simp only [update_of_ne hSession]
    exact hRegistered other connection hOther hPhase

theorem Registered.step {after : Handlers} {label : HandlerLabel} (hAlone : Alone handlers label)
    (hStep : HandlerStep env handlers label after) : Registered after := by
  cases hStep with
  | accept hNew => exact hRegistered.accept hAlone
  | startBridge hConnection => exact hRegistered.setPhase hConnection (by simp) _
  | leave hConnection hPhase =>
    apply hRegistered.setPhase hConnection
    rcases hPhase with rfl | rfl <;> simp
  | pop hConnection => exact hRegistered.pop hConnection (by simp)
  | abandon hConnection => exact hRegistered.setPhase hConnection (by simp) _
  | request =>
    intro other connection hOther hPhase
    rw [control_cancellations]
    exact hRegistered other connection hOther hPhase

end

def sampleSession : Text := "00000000-0000-0000-0000-000000000003"

def sampleControlEnv : ControlEnv where
  sharedKey := []
  acceptLegacySignatures := false
  hasReplayCache := false
  hmacHex := fun _ _ => "5a"
  textToInt := fun _ => some 0
  normalizeUuid := fun text => some text
  loads := fun text =>
    .value (.obj [("session_id", .str text)])
  printable := fun _ => false

def sampleTermination : ControlCall where
  path := terminatePath
  method := "POST"
  body := sampleSession
  requestId := "1"
  signatureVersion := "2"
  timestamp := "0"
  signature := "5a"
  now := 0
  cacheAnswer := false

theorem sampleTermination_terminates :
    Terminates sampleControlEnv sampleTermination [] sampleSession where
  path := rfl
  method := rfl
  verified := by decide
  valid := by decide
  session := by decide

def sampleBridging : Handlers :=
  (initial.register 0 sampleSession).setPhase 0 sampleSession .bridging

theorem sampleBridging_bridging :
    sampleBridging.connections 0 = some ⟨sampleSession, .bridging⟩ := by
  simp [sampleBridging, setPhase]

---- Termination

/-
  If every connection is accepted alone, the entry of a running bridge is its own event, and every
  valid request to terminate the session sets it.
-/
theorem termination_reaches_bridge {labels : List HandlerLabel} {handlers : Handlers}
    (hRun : (handlerSystem env).Guarded Alone initial labels handlers)
    {index : Nat} {sessionId : Text}
    (hBridge : handlers.connections index = some ⟨sessionId, .bridging⟩) :
    handlers.control.cancellations sessionId = some index ∧
      ∀ call, Terminates env call handlers.control.seenIds sessionId →
        (control env call handlers.control).status = some 202 ∧
          (control env call handlers.control).state.isSet index = true := by
  have hRegistered : Registered handlers := by
    apply hRun.invariant
    · intro before label after hBefore hAlone hStep
      exact hBefore.step hAlone hStep
    · intro other connection hOther _
      simp [initial] at hOther
  have hEntry := hRegistered index ⟨sessionId, .bridging⟩ hBridge (by simp)
  refine ⟨hEntry, ?_⟩
  intro call hCall
  exact control_of_terminates hCall hEntry

theorem termination_reaches_bridge_sample : (handlerSystem sampleControlEnv).Guarded Alone initial
        [.accept 0 sampleSession, .startBridge 0]
        sampleBridging ∧
      sampleBridging.connections 0 = some ⟨sampleSession, .bridging⟩ ∧
      Terminates sampleControlEnv sampleTermination sampleBridging.control.seenIds sampleSession ∧
      (control sampleControlEnv sampleTermination sampleBridging.control).status = some 202 := by
  have hRun : (handlerSystem sampleControlEnv).Guarded Alone initial
    [.accept 0 sampleSession, .startBridge 0]
    sampleBridging := by
    refine .cons ?_ (.accept rfl) (.cons trivial (.startBridge rfl) (.nil _))
    intro other connection hOther
    simp [initial] at hOther
  have hCall := sampleTermination_terminates
  have hReached := termination_reaches_bridge hRun sampleBridging_bridging
  exact ⟨hRun, sampleBridging_bridging, hCall, (hReached.2 sampleTermination hCall).1⟩

/-
  A second connection to the session id, closed without authorization, takes the entry away: the
  request is answered 404 and the event of the bridge stays unset.
-/
theorem second_connection_hides_bridge :
    ∃ labels handlers, (handlerSystem sampleControlEnv).Run initial labels handlers ∧
      handlers.connections 0 = some ⟨sampleSession, .bridging⟩ ∧
      handlers.control.cancellations sampleSession ≠ some 0 ∧
      Terminates sampleControlEnv sampleTermination handlers.control.seenIds sampleSession ∧
      (control sampleControlEnv sampleTermination handlers.control).status = some 404 ∧
      (control sampleControlEnv sampleTermination handlers.control).state.isSet 0 = false := by
  refine ⟨[.accept 0 sampleSession, .startBridge 0, .accept 1 sampleSession, .leave 1, .pop 1], _,
    .cons (.accept rfl) (.cons (.startBridge rfl) (.cons (.accept rfl)
      (.cons (.leave rfl (.inl rfl)) (.cons (.pop rfl) (.nil _))))),
    rfl, ?_, sampleTermination_terminates, ?_, ?_⟩
  · decide
  · decide
  · decide

end PamOlive.Gateway
