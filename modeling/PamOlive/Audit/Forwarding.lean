import PamOlive.Database.Models

/-
  Forwarding an audit event to the SIEM integrations.

  One task delivers to the integrations in turn, stops at the first that fails, and is retried as a
  whole. An integration is sent the event in each attempt in which all before it succeed.
-/

---- The Task

namespace PamOlive.Forwarding

open Foundations List

structure SendError where
  className : Text
  text : Text
  retried : Bool
deriving DecidableEq

inductive Status where
  | delivered | failed
deriving DecidableEq

structure SIEMDelivery where
  status : Status
  payloadHash : Text
  error : Text
  attemptedAt : Int
  deliveredAt : Option Int
deriving DecidableEq

/- The columns of an integration that a delivery writes. -/
structure LastDelivery where
  lastDeliveryAt : Int
  lastStatus : Status
  lastError : Text
deriving DecidableEq

/- The rows, by integration, and a record of the sends: to whom, and whether they succeeded. -/
structure Outputs where
  deliveries : Uuid → Option SIEMDelivery
  lasts : Uuid → Option LastDelivery
  sends : List (Uuid × Bool)

open Outputs

/- An event with the clock and the network of each attempt. -/
structure Forward where
  payloadHash : Text
  now : Nat → Uuid → Int
  send : Nat → Uuid → Except SendError Unit

/- `f"{type(exc).__name__}: {exc}"[:500]`. -/
def SendError.message (error : SendError) : Text := (error.className ++ ": " ++ error.text).take 500

def recordDelivery (forward : Forward) (attempt : Nat) (id : Uuid) (status : Status) (error : Text)
    (outputs : Outputs) : Outputs where
  deliveries := Function.update outputs.deliveries id (some
    { status := status
      payloadHash := forward.payloadHash
      error := error
      attemptedAt := forward.now attempt id
      deliveredAt :=
        if status = .delivered then some (forward.now attempt id) else none })
  lasts := Function.update outputs.lasts id (some ⟨forward.now attempt id, status, error⟩)
  sends := outputs.sends ++ [(id, decide (status = .delivered))]

def deliverEvent (forward : Forward) (attempt : Nat) (id : Uuid) (outputs : Outputs) :
    Except SendError Unit × Outputs :=
  match forward.send attempt id with
  | .error error => (.error error, recordDelivery forward attempt id .failed error.message outputs)
  | .ok _ => (.ok (), recordDelivery forward attempt id .delivered [] outputs)

/- `forward_audit_event` for the enabled integrations. -/
def forwardAuditEvent (forward : Forward) (attempt : Nat) :
    List Uuid → Outputs → Except SendError Unit × Outputs
  | [], outputs => (.ok (), outputs)
  | id :: rest, outputs =>
    andThen (deliverEvent forward attempt id)
      (fun _ => forwardAuditEvent forward attempt rest) outputs

def maxRetries : Nat := 5

def forwardFrom (forward : Forward) (ids : List Uuid) : Nat → Nat → Outputs → Outputs
  | retries, attempt, outputs =>
    match forwardAuditEvent forward attempt ids outputs with
    | (.ok _, after) => after
    | (.error error, after) =>
      match retries with
      | 0 => after
      | retries + 1 =>
        if error.retried then forwardFrom forward ids retries (attempt + 1) after else after

def forwardTask
    (forward : Forward) (ids : List Uuid) (lasts : Uuid → Option LastDelivery) : Outputs :=
  forwardFrom forward ids maxRetries 0 ⟨fun _ => none, lasts, []⟩

---- One Integration

def Outputs.outcomes (outputs : Outputs) (id : Uuid) : List Bool :=
  (outputs.sends.filter (fun send => decide (send.1 = id))).map Prod.snd

def Outputs.status (outputs : Outputs) (id : Uuid) : Option Status :=
  (outputs.deliveries id).map SIEMDelivery.status

def statusOf (succeeded : Bool) : Status :=
  if succeeded then .delivered else .failed

/- What is seen of one integration. -/
def Outputs.view (outputs : Outputs) (id : Uuid) : List Bool × Option Status :=
  (outputs.outcomes id, outputs.status id)

/- One more send to an integration. -/
def seen (view : List Bool × Option Status) (succeeded : Bool) : List Bool × Option Status :=
  (view.1 ++ [succeeded], some (statusOf succeeded))

variable {forward : Forward} {attempt : Nat} {id mine : Uuid} {outputs : Outputs}
variable {ids left right : List Uuid}

theorem fst_deliverEvent :
    (deliverEvent forward attempt id outputs).1 = forward.send attempt id := by
  unfold deliverEvent
  cases forward.send attempt id with
  | error error => rfl
  | ok value => rfl

theorem view_deliverEvent_self : (deliverEvent forward attempt mine outputs).2.view mine =
    seen (outputs.view mine) (forward.send attempt mine).isOk := by
  unfold deliverEvent
  cases forward.send attempt mine <;>
    simp [recordDelivery, view, outcomes, status, seen, statusOf, Except.isOk, Except.toBool]

theorem view_deliverEvent_of_ne (hOther : id ≠ mine) :
    (deliverEvent forward attempt id outputs).2.view mine = outputs.view mine := by
  unfold deliverEvent
  cases forward.send attempt id <;>
    simp [recordDelivery, view, outcomes, status, hOther, Function.update_of_ne hOther.symm]

theorem fst_forwardAuditEvent :
    (forwardAuditEvent forward attempt ids outputs).1 = ids.forM (forward.send attempt) := by
  induction ids generalizing outputs with
  | nil => rfl
  | cons id rest ih =>
    unfold forwardAuditEvent
    rw [andThen_fst, fst_deliverEvent]
    change _ = forward.send attempt id >>= fun _ => rest.forM (forward.send attempt)
    cases forward.send attempt id with
    | error error => rfl
    | ok value => exact ih

theorem view_forwardAuditEvent_of_not_mem (hOther : mine ∉ ids) :
    (forwardAuditEvent forward attempt ids outputs).2.view mine = outputs.view mine := by
  induction ids generalizing outputs with
  | nil => rfl
  | cons id rest ih =>
    rw [mem_cons, not_or] at hOther
    have hDeliver :=
      @view_deliverEvent_of_ne forward attempt id mine outputs (fun hSame => hOther.1 hSame.symm)
    unfold forwardAuditEvent andThen
    generalize deliverEvent forward attempt id outputs = delivered at hDeliver ⊢
    rcases delivered with ⟨_ | _, after⟩
    · exact hDeliver
    · exact (ih hOther.2).trans hDeliver

/- All integrations before it succeed in the attempt. -/
def reaches (forward : Forward) (left : List Uuid) (attempt : Nat) : Bool :=
  left.all (fun id => (forward.send attempt id).isOk)

theorem view_forwardAuditEvent (hLeft : mine ∉ left) (hRight : mine ∉ right) :
    (forwardAuditEvent forward attempt (left ++ mine :: right) outputs).2.view mine =
      if reaches forward left attempt then seen (outputs.view mine) (forward.send attempt mine).isOk
      else outputs.view mine := by
  induction left generalizing outputs with
  | nil =>
    have hDeliver := @view_deliverEvent_self forward attempt mine outputs
    rw [nil_append, reaches, all_nil, if_pos rfl, ← hDeliver]
    unfold forwardAuditEvent andThen
    rcases deliverEvent forward attempt mine outputs with ⟨_ | _, after⟩
    · rfl
    · exact view_forwardAuditEvent_of_not_mem hRight
  | cons id rest ih =>
    rw [mem_cons, not_or] at hLeft
    have hDeliver :=
      @view_deliverEvent_of_ne forward attempt id mine outputs (fun hSame => hLeft.1 hSame.symm)
    have hFirst := @fst_deliverEvent forward attempt id outputs
    rw [cons_append]
    unfold forwardAuditEvent andThen
    unfold reaches at ih ⊢
    rw [all_cons, ← hFirst]
    generalize deliverEvent forward attempt id outputs = delivered at hDeliver ⊢
    rcases delivered with ⟨_ | _, after⟩
    · exact hDeliver
    · rw [← hDeliver]
      exact ih hLeft.2

---- All Attempts

/- The attempts that are made. -/
def attemptsFrom (forward : Forward) (ids : List Uuid) : Nat → Nat → List Nat
  | retries, attempt =>
    match ids.forM (forward.send attempt) with
    | .ok _ => [attempt]
    | .error error =>
      match retries with
      | 0 => [attempt]
      | retries + 1 =>
        if error.retried then attempt :: attemptsFrom forward ids retries (attempt + 1)
        else [attempt]

/- Those that reach an integration, with how the send went. -/
def reachedBy
    (forward : Forward) (left : List Uuid) (mine : Uuid) (attempts : List Nat) : List Bool :=
  (attempts.filter (reaches forward left)).map (fun attempt => (forward.send attempt mine).isOk)

/- How the sends of the task to an integration go. -/
def reached (forward : Forward) (left : List Uuid) (mine : Uuid) (right : List Uuid) : List Bool :=
  reachedBy forward left mine (attemptsFrom forward (left ++ mine :: right) maxRetries 0)

theorem forM_ok (hAll : ∀ id ∈ ids, (forward.send attempt id).isOk = true) :
    ids.forM (forward.send attempt) = .ok () := by
  induction ids with
  | nil => rfl
  | cons id rest ih =>
    change (forward.send attempt id >>= fun _ => rest.forM (forward.send attempt)) = .ok ()
    have hFirst := hAll id mem_cons_self
    rcases hSend : forward.send attempt id with error | value
    · rw [hSend] at hFirst
      cases hFirst
    · exact ih (fun other hMem => hAll other (mem_cons_of_mem _ hMem))

theorem forwardFrom_eq_foldl {retries : Nat} : forwardFrom forward ids retries attempt outputs =
    (attemptsFrom forward ids retries attempt).foldl
      (fun outputs attempt => (forwardAuditEvent forward attempt ids outputs).2) outputs := by
  induction retries generalizing attempt outputs with
  | zero =>
    unfold forwardFrom attemptsFrom
    rw [← @fst_forwardAuditEvent forward attempt outputs ids]
    rcases hRun : forwardAuditEvent forward attempt ids outputs with ⟨error | _, after⟩
    · simp [hRun]
    · simp [hRun]
  | succ retries ih =>
    unfold forwardFrom attemptsFrom
    rw [← @fst_forwardAuditEvent forward attempt outputs ids]
    rcases hRun : forwardAuditEvent forward attempt ids outputs with ⟨error | _, after⟩
    · dsimp only
      split_ifs
      · rw [foldl_cons, hRun]
        exact ih
      · simp [hRun]
    · simp [hRun]

theorem view_foldl_attempts {attempts : List Nat} (hLeft : mine ∉ left) (hRight : mine ∉ right) :
    (attempts.foldl (fun outputs attempt =>
        (forwardAuditEvent forward attempt (left ++ mine :: right) outputs).2) outputs).view mine =
      (reachedBy forward left mine attempts).foldl seen (outputs.view mine) := by
  induction attempts generalizing outputs with
  | nil => rfl
  | cons attempt rest ih =>
    rw [foldl_cons, ih, view_forwardAuditEvent hLeft hRight]
    unfold reachedBy
    cases hReaches : reaches forward left attempt with
    | false => rw [if_neg Bool.false_ne_true, filter_cons_of_neg (by rw [hReaches]; simp)]
    | true => rw [if_pos rfl, filter_cons_of_pos hReaches, map_cons, foldl_cons]

theorem foldl_seen (outcomes : List Bool) :
    outcomes.foldl seen ([], none) = (outcomes, outcomes.getLast?.map statusOf) := by
  induction outcomes using reverseRecOn with
  | nil => rfl
  | append_singleton earlier last ih =>
    rw [foldl_append, ih, getLast?_concat]
    rfl

/- The sends to an integration are those of the attempts that reach it; the last is on record. -/
theorem view_forwardTask {lasts : Uuid → Option LastDelivery} (hLeft : mine ∉ left)
    (hRight : mine ∉ right) :
    (forwardTask forward (left ++ mine :: right) lasts).view mine =
      (reached forward left mine right,
        (reached forward left mine right).getLast?.map statusOf) := by
  unfold forwardTask
  rw [forwardFrom_eq_foldl, view_foldl_attempts hLeft hRight]
  exact foldl_seen _

/-
  For an integration among the enabled ones: how often it is sent the event, and what is recorded,
  depends on those before it. If its own sends always succeed, it receives the event once and ends
  with a delivered record exactly if one attempt reaches it; and its record never goes from
  delivered to failed exactly if no attempt that reaches it fails after a success. Without a
  failure in the first attempt both hold.
-/
theorem outputs_independent_iff (forward : Forward) (lasts : Uuid → Option LastDelivery)
    (hLeft : mine ∉ left) (hRight : mine ∉ right) :
    ((∀ attempt, (forward.send attempt mine).isOk = true) →
      ((((forwardTask forward (left ++ mine :: right) lasts).outcomes mine).length = 1 ∧
        (forwardTask forward (left ++ mine :: right) lasts).status mine = some .delivered) ↔
        (reached forward left mine right).length = 1)) ∧
    (((forwardTask forward (left ++ mine :: right) lasts).outcomes mine).Pairwise
      (fun earlier later => earlier = true → later = true) ↔
      (reached forward left mine right).Pairwise
        (fun earlier later => earlier = true → later = true)) ∧
    ((∀ id ∈ left ++ mine :: right, (forward.send 0 id).isOk = true) →
      reached forward left mine right = [true]) := by
  have hView := @view_forwardTask forward mine left right lasts hLeft hRight
  have hOutcomes := congrArg Prod.fst hView
  have hStatus := congrArg Prod.snd hView
  dsimp only [view] at hOutcomes hStatus
  rw [hOutcomes, hStatus]
  refine ⟨?_, Iff.rfl, ?_⟩
  · intro hAlways
    have hTrue : ∀ outcome ∈ reached forward left mine right, outcome = true := by
      intro outcome hMem
      rcases mem_map.mp hMem with ⟨attempt, _, rfl⟩
      exact hAlways attempt
    refine ⟨And.left, fun hOne => ⟨hOne, ?_⟩⟩
    rcases length_eq_one_iff.mp hOne with ⟨outcome, hReached⟩
    rw [hReached] at hTrue ⊢
    rw [hTrue outcome (mem_singleton_self _)]
    rfl
  · intro hFirst
    have hOk : (left ++ mine :: right).forM (forward.send 0) = .ok () := forM_ok hFirst
    have hReaches : reaches forward left 0 = true :=
      all_eq_true.mpr (fun id hMem => hFirst id (mem_append_left _ hMem))
    unfold reached reachedBy attemptsFrom
    rw [hOk, filter_cons_of_pos hReaches]
    simp [hFirst mine (mem_append_right _ mem_cons_self)]

def sampleForward (fails : List (List Nat)) : Forward where
  payloadHash := []
  now := fun _ _ => 0
  send := fun attempt id =>
    if (fails.getD (id.toNat - 1) []).contains attempt then
      .error ⟨"ConnectionError", [], true⟩
    else .ok ()

def sampleOutputs (fails : List (List Nat)) : Outputs :=
  forwardTask (sampleForward fails) [1, 2] (fun _ => none)

/- The first one fails once: the second receives the event in the second attempt only. -/
theorem outputs_independent_sample : ((sampleOutputs [[0], []]).outcomes 2).length = 1 ∧
    (sampleOutputs [[0], []]).status 2 = some .delivered := by
  have hIndependent :=
    @outputs_independent_iff 2 [1] [] (sampleForward [[0], []]) (fun _ => none) (by decide)
      (by decide)
  exact (hIndependent.1 (fun _ => rfl)).mpr rfl

/-
  If the first always fails, the second is not sent the event. If the second fails once, the first
  is sent it twice; if the first fails then, its record goes back.
-/
theorem outputs_depend_on_others : ((sampleOutputs [[0, 1, 2, 3, 4, 5], []]).outcomes 2 = [] ∧
    (sampleOutputs [[0, 1, 2, 3, 4, 5], []]).status 2 = none) ∧
    (sampleOutputs [[], [0]]).outcomes 1 = [true, true] ∧
    ((sampleOutputs [[1, 2, 3, 4, 5], [0]]).outcomes 1 = [true, false, false, false, false, false] ∧
      (sampleOutputs [[1, 2, 3, 4, 5], [0]]).status 1 = some .failed) := by
  decide

end PamOlive.Forwarding
