import Mathlib.Data.List.Basic

/-
  Computations that may fail, as they occur in requests and in database transactions.

  A transaction takes a state to a result with a new state, or to a failure, which leaves no new
  state. A chain of computations returns exactly if every link does.
-/

---- Guards

namespace PamOlive.Foundations

open List

variable {Failure State : Type} {α β : Type}

def require (condition : Prop) [Decidable condition] (failure : Failure) : Except Failure Unit :=
  if condition then .ok () else .error failure

def found (value : Option α) (failure : Failure) : Except Failure α :=
  match value with
  | some content => .ok content
  | none => .error failure

---- Taking Chains Apart

variable {result : β} {next : α → Except Failure β} {failure failure' : Failure} {value : α}
variable {state after : State} {first : Except Failure α}

theorem bind_eq_ok_iff :
    (first >>= next) = .ok result ↔ ∃ value, first = .ok value ∧ next value = .ok result := by
  cases first with
  | error failure => simp [bind, Except.bind]
  | ok value => simp [bind, Except.bind]

theorem bind_eq_error_iff : (first >>= next) = .error failure ↔
    first = .error failure ∨ ∃ value, first = .ok value ∧ next value = .error failure := by
  cases first with
  | error failure => simp [bind, Except.bind]
  | ok value => simp [bind, Except.bind]

theorem map_eq_ok_iff {change : α → β} :
    first.map change = .ok result ↔ ∃ value, first = .ok value ∧ change value = result := by
  cases first with
  | error failure => simp [Except.map]
  | ok value => simp [Except.map]

theorem mapError_eq_ok_iff {Other : Type} {rename : Failure → Other} {result : Except Failure α} :
    result.mapError rename = .ok value ↔ result = .ok value := by
  cases result with
  | error failure => simp [Except.mapError]
  | ok content => simp [Except.mapError]

theorem toOption_eq_some_iff {result : Except Failure α} :
    result.toOption = some value ↔ result = .ok value := by
  cases result with
  | error failure => simp [Except.toOption]
  | ok content => simp [Except.toOption]

theorem pure_eq_ok_iff {result : α} :
    (pure value : Except Failure α) = .ok result ↔ value = result := by
  simp [pure, Except.pure]

theorem return_eq_ok_iff {result : α} :
    (pure (value, state) : Except Failure (α × State)) = .ok (result, after) ↔
      value = result ∧ state = after := by
  rw [pure_eq_ok_iff, Prod.mk.injEq]

theorem exists_unit_iff {property : Unit → Prop} : (∃ value, property value) ↔ property () :=
  ⟨fun ⟨_, hValue⟩ => hValue, fun hUnit => ⟨(), hUnit⟩⟩

section Require

variable {condition : Prop} [Decidable condition] {next : Unit → Except Failure β}

theorem require_eq_ok_iff : require condition failure = .ok () ↔ condition := by
  unfold require
  split
  · rename_i hHolds
    simp [hHolds]
  · rename_i hFails
    simp [hFails]

theorem require_eq_error_iff :
    require condition failure = .error failure' ↔ ¬ condition ∧ failure = failure' := by
  unfold require
  split
  · rename_i hHolds
    simp [hHolds]
  · rename_i hFails
    simp [hFails]

theorem require_bind_eq_ok_iff :
    (require condition failure >>= next) = .ok result ↔ condition ∧ next () = .ok result := by
  unfold require
  split
  · rename_i hHolds
    simp [bind, Except.bind, hHolds]
  · rename_i hFails
    simp [bind, Except.bind, hFails]

theorem require_bind_of (hHolds : condition) : (require condition failure >>= next) = next () := by
  unfold require
  rw [if_pos hHolds]
  rfl

theorem require_bind_eq_error_iff : (require condition failure >>= next) = .error failure' ↔
      (¬ condition ∧ failure = failure') ∨ (condition ∧ next () = .error failure') := by
  unfold require
  split
  · rename_i hHolds
    simp [bind, Except.bind, hHolds]
  · rename_i hFails
    simp [bind, Except.bind, hFails]

end Require

theorem found_eq_ok_iff {value : Option α} {content : α} :
    found value failure = .ok content ↔ value = some content := by
  cases value with
  | none => simp [found]
  | some content' => simp [found]

theorem found_eq_error_iff {value : Option α} :
    found value failure = .error failure' ↔ value = none ∧ failure = failure' := by
  cases value with
  | none => simp [found]
  | some content => simp [found]

theorem found_bind_eq_ok_iff {value : Option α} : (found value failure >>= next) = .ok result ↔
    ∃ content, value = some content ∧ next content = .ok result := by
  cases value with
  | none => simp [found, bind, Except.bind]
  | some content => simp [found, bind, Except.bind]

theorem found_some_bind (content : α) (failure : Failure) (next : α → Except Failure β) :
    (found (some content) failure >>= next) = next content :=
  rfl

theorem found_bind_eq_error_iff {value : Option α} :
    (found value failure >>= next) = .error failure' ↔ (value = none ∧ failure = failure') ∨
      ∃ content, value = some content ∧ next content = .error failure' := by
  cases value with
  | none => simp [found, bind, Except.bind]
  | some content => simp [found, bind, Except.bind]

---- Transactions In A Request

/- A transaction inside a request: its new state is kept, a failure leaves the old one. -/
def commit (transaction : State → Except Failure (α × State))
    (state : State) : Except Failure α × State :=
  match transaction state with
  | .ok (value, after) => (.ok value, after)
  | .error failure => (.error failure, state)

variable {transaction : State → Except Failure (α × State)}

theorem commit_eq_ok_iff :
    commit transaction state = (.ok value, after) ↔ transaction state = .ok (value, after) := by
  unfold commit
  cases transaction state with
  | error failure => simp
  | ok result => simp [Prod.ext_iff]

theorem commit_eq_error_iff : commit transaction state = (.error failure, after) ↔
    transaction state = .error failure ∧ after = state := by
  unfold commit
  cases transaction state with
  | error failure' => simp [eq_comm]
  | ok result => simp

theorem commit_snd_eq_or_ok (transaction : State → Except Failure (α × State)) (state : State) :
    (commit transaction state).2 = state ∨
      ∃ value, transaction state = .ok (value, (commit transaction state).2) := by
  unfold commit
  cases transaction state with
  | error failure => exact .inl rfl
  | ok result => exact .inr ⟨result.1, rfl⟩

/- A step of a request that only reads. -/
def reading (query : State → Except Failure α) (state : State) : Except Failure α × State :=
  (query state, state)

/- Steps of a request; what the first one wrote stays. -/
def andThen (first : State → Except Failure α × State) (next : α → State → Except Failure β × State)
    (state : State) : Except Failure β × State :=
  match first state with
  | (.ok value, after) => next value after
  | (.error failure, after) => (.error failure, after)

theorem exists_of_isSome {outcome : Except Failure α × State}
    (hSome : outcome.1.toOption.isSome = true) : ∃ value after, outcome = (.ok value, after) := by
  rcases outcome with ⟨failure | value, after⟩
  · cases hSome
  · exact ⟨value, after, rfl⟩

theorem reading_eq_ok_iff {query : State → Except Failure α} :
    reading query state = (.ok value, after) ↔ query state = .ok value ∧ after = state := by
  unfold reading
  simp [eq_comm]

theorem reading_ok_iff {value' : α} :
    reading (fun _ => Except.ok value) state = ((.ok value', after) : Except Failure α × State) ↔
      value = value' ∧ state = after := by
  unfold reading
  rw [Prod.mk.injEq, Except.ok.injEq]

theorem andThen_fst (first : State → Except Failure α × State)
    (next : α → State → Except Failure β × State) (state : State) :
    (andThen first next state).1 = (first state).1 >>= fun value =>
        (next value (first state).2).1 := by
  unfold andThen
  rcases first state with ⟨_ | value, after⟩ <;> rfl

variable {first : State → Except Failure α × State} {next : α → State → Except Failure β × State}

theorem andThen_of_ok (hFirst : first state = (.ok value, after)) :
    andThen first next state = next value after := by
  unfold andThen
  rw [hFirst]

theorem andThen_eq_ok_iff : andThen first next state = (.ok result, after) ↔ ∃ value middle,
      first state = (.ok value, middle) ∧ next value middle = (.ok result, after) := by
  unfold andThen
  rcases first state with ⟨failure | value, middle⟩
  · simp
  · constructor
    · intro hNext
      exact ⟨value, middle, rfl, hNext⟩
    · rintro ⟨value', middle', hFirst, hNext⟩
      rcases hFirst with ⟨rfl, rfl⟩
      exact hNext

theorem andThen_eq_error_iff : andThen first next state = (.error failure, after) ↔
      first state = (.error failure, after) ∨ ∃ value middle,
        first state = (.ok value, middle) ∧ next value middle = (.error failure, after) := by
  unfold andThen
  rcases first state with ⟨raised | value, middle⟩ <;> simp

theorem andThen_snd_of {property : State → Prop}
    (hError : ∀ failure after, first state = (.error failure, after) → property after)
    (hOk : ∀ value after, first state = (.ok value, after) → property (next value after).2) :
    property (andThen first next state).2 := by
  unfold andThen
  split
  · rename_i value after hFirst
    exact hOk value after hFirst
  · rename_i failure after hFirst
    exact hError failure after hFirst

theorem andThen_reading_snd (query : α → State → Except Failure β) :
    (andThen first (fun value => reading (query value)) state).2 = (first state).2 := by
  unfold andThen
  rcases first state with ⟨failure | value, after⟩ <;> rfl

section Preservation

variable {relation : State → State → Prop}

theorem reading_relates (hRefl : ∀ state, relation state state)
    (query : State → Except Failure α) (state : State) : relation state (reading query state).2 :=
  hRefl state

theorem commit_relates (hRefl : ∀ state, relation state state)
    {transaction : State → Except Failure (α × State)}
    (hOk : ∀ state value after, transaction state = .ok (value, after) → relation state after)
    (state : State) : relation state (commit transaction state).2 := by
  unfold commit
  split
  · rename_i value after hCommit
    exact hOk state value after hCommit
  · exact hRefl state

theorem andThen_relates (hTrans :
    ∀ first second third, relation first second → relation second third → relation first third)
    (hFirst : ∀ state, relation state (first state).2)
    (hNext : ∀ value state, relation state (next value state).2)
    (state : State) : relation state (andThen first next state).2 := by
  have hMiddle := hFirst state
  unfold andThen
  split
  · rename_i value after hOk
    rw [hOk] at hMiddle
    exact hTrans _ _ _ hMiddle (hNext value after)
  · rename_i failure after hError
    rw [hError] at hMiddle
    exact hMiddle

end Preservation

---- Loops

/- The same step with its exceptions renamed. -/
def raising {Other : Type} (rename : Failure → Other) (step : State → Except Failure α × State)
    (state : State) : Except Other α × State :=
  ((step state).1.mapError rename, (step state).2)

theorem raising_eq_ok_iff
    {Other : Type} {rename : Failure → Other} {step : State → Except Failure α × State} :
    raising rename step state = (.ok value, after) ↔ step state = (.ok value, after) := by
  unfold raising
  rcases step state with ⟨result, middle⟩
  rw [Prod.mk.injEq, Prod.mk.injEq, mapError_eq_ok_iff]

def forEach (body : α → β → State → Except Failure β × State) :
    List α → β → State → Except Failure β × State
| [], running => reading (fun _ => .ok running)
| item :: rest, running => andThen (body item running) (forEach body rest)

variable {items : List α}

theorem forEach_eq_foldl {body : α → β → State → Except Failure β × State} {next : β → α → β}
    (hBody : ∀ item ∈ items, ∀ running state, (body item running state).1 = .ok (next running item))
    (running : β) (state : State) :
    (forEach body items running state).1 = .ok (items.foldl next running) := by
  induction items generalizing running state with
  | nil => rfl
  | cons item rest ih =>
    have hFirst := hBody item mem_cons_self running state
    unfold forEach andThen
    rcases hStep : body item running state with ⟨result, after⟩
    rw [hStep] at hFirst
    dsimp only at hFirst
    rw [hFirst]
    exact ih (fun other hMem => hBody other (mem_cons_of_mem item hMem)) _ _

section

variable (body : α → β → State → Except Failure (α × β) × State)

/- The body of `mapAccum`, on the items done so far. -/
def mapAccumBody (item : α) (running : List α × β) : State → Except Failure (List α × β) × State :=
  andThen (body item running.2) fun changed =>
  reading (fun _ => .ok (running.1 ++ [changed.1], changed.2))

def mapAccum (items : List α) (running : β) : State → Except Failure (List α × β) × State :=
  forEach (mapAccumBody body) items ([], running)

end

variable {body : α → β → State → Except Failure (α × β) × State} {made changed : List α}
variable {running last : β}

theorem forEach_mapAccumBody_forall₂ (hLoop :
    forEach (mapAccumBody body) items (made, running) state = (.ok (changed, last), after)) :
    ∃ rest, changed = made ++ rest ∧ Forall₂ (fun item new =>
        ∃ running state running' state', body item running state = (.ok (new, running'), state'))
      items rest := by
  induction items generalizing made running state with
  | nil =>
    unfold forEach reading at hLoop
    rw [Prod.mk.injEq, Except.ok.injEq, Prod.mk.injEq] at hLoop
    exact ⟨[], by rw [← hLoop.1.1, append_nil], .nil⟩
  | cons item rest ih =>
    rcases andThen_eq_ok_iff.mp hLoop with ⟨⟨made', running'⟩, middle, hFirst, hRest⟩
    rcases andThen_eq_ok_iff.mp hFirst with ⟨⟨new, running''⟩, inner, hBody, hMade⟩
    rcases reading_ok_iff.mp hMade with ⟨hMade, _⟩
    rw [Prod.mk.injEq] at hMade
    rcases ih hRest with ⟨others, hChanged, hOthers⟩
    refine ⟨new :: others, ?_, .cons ⟨_, _, _, _, hBody⟩ hOthers⟩
    rw [hChanged, ← hMade.1, append_assoc]
    rfl

theorem mapAccum_forall₂
    (hLoop : mapAccum body items running state = (.ok (changed, last), after)) :
    Forall₂ (fun item new =>
        ∃ running state running' state', body item running state = (.ok (new, running'), state'))
      items changed := by
  rcases forEach_mapAccumBody_forall₂ hLoop with ⟨rest, hChanged, hRest⟩
  rw [hChanged]
  exact hRest

theorem foldl_collect (next : β → α → β) (items made : List α) (running : β) : items.foldl
    (fun acc item => (acc.1 ++ [item], next acc.2 item)) (made, running) =
    (made ++ items, items.foldl next running) := by
  induction items generalizing made running with
  | nil =>
    rw [append_nil]
    rfl
  | cons item rest ih =>
    rw [foldl_cons, foldl_cons, ih, append_assoc]
    rfl

theorem mapAccum_eq_self {next : β → α → β} (hBody :
      ∀ item ∈ items, ∀ running state, (body item running state).1 = .ok (item, next running item))
    (running : β) (state : State) :
    (mapAccum body items running state).1 = .ok (items, items.foldl next running) := by
  have hStep : ∀ item ∈ items, ∀ acc state,
    (mapAccumBody body item acc state).1 = .ok (acc.1 ++ [item], next acc.2 item) := by
    intro item hMem acc state
    have hItem := hBody item hMem acc.2 state
    unfold mapAccumBody andThen
    rcases hFound : body item acc.2 state with ⟨result, after⟩
    rw [hFound] at hItem
    dsimp only at hItem
    rw [hItem]
    rfl
  rw [mapAccum, forEach_eq_foldl hStep, foldl_collect, nil_append]

end PamOlive.Foundations
