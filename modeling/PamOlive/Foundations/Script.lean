import PamOlive.Foundations.Outcome

/-
  Programs that read and write a state, statement by statement.

  Each write is named by a point, at which a fault may make it fail. A block that fails leaves the
  state as it was; the blocks before it stay, unless the script runs in a transaction. A script can
  also note what it asks for, which changes nothing.

  Main declarations:
    * `Script`, with `run`, `transaction` and `notes`
    * `run_bind` and `transaction_bind`
    * `transaction_eq_of_faults`
-/

---- Scripts

namespace PamOlive.Foundations

variable {Note Point State Failure : Type} {α β : Type}

structure Write (Point State Failure : Type) where
  point : Point
  change : State → Except Failure State

inductive Script (Note Point State Failure α : Type) where
  | done (value : α)
  | raise (failure : Failure)
  | get (next : State → Script Note Point State Failure α)
  | note (asked : Note) (next : Script Note Point State Failure α)
  | block (writes : List (Write Point State Failure)) (next : Script Note Point State Failure α)

namespace Script

protected def bind : Script Note Point State Failure α → (α → Script Note Point State Failure β) →
      Script Note Point State Failure β
| .done value, next => next value
| .raise failure, _ => .raise failure
| .get rest, next => .get (fun state => (rest state).bind next)
| .note asked rest, next => .note asked (rest.bind next)
| .block writes rest, next => .block writes (rest.bind next)

instance : Monad (Script Note Point State Failure) where
  pure := .done
  bind := .bind

def read : Script Note Point State Failure State := .get .done

def check : Except Failure α → Script Note Point State Failure α
| .ok value => .done value
| .error failure => .raise failure

def write (point : Point) (change : State → Except Failure State) :
    Script Note Point State Failure Unit :=
  .block [⟨point, change⟩] (.done ())

def demand (asked : Note) : Script Note Point State Failure Unit := .note asked (.done ())

def writeAll (faults : Point → Option Failure) :
    List (Write Point State Failure) → State → Except Failure State
| [], state => .ok state
| first :: rest, state =>
  match faults first.point with
  | some failure => .error failure
  | none => first.change state >>= writeAll faults rest

def run (faults : Point → Option Failure) :
    Script Note Point State Failure α → State → Except Failure α × State
| .done value, state => (.ok value, state)
| .raise failure, state => (.error failure, state)
| .get next, state => run faults (next state) state
| .note _ next, state => run faults next state
| .block writes next, state =>
  match writeAll faults writes state with
  | .error failure => (.error failure, state)
  | .ok after => run faults next after

def transaction (faults : Point → Option Failure) (script : Script Note Point State Failure α)
    (state : State) : Except Failure (α × State) :=
  match run faults script state with
  | (.ok value, after) => .ok (value, after)
  | (.error failure, _) => .error failure

def noFaults : Point → Option Failure := fun _ => none

/- What a script notes up to the statement at which it raises. -/
def notes : Script Note Point State Failure α → State → List Note
| .done _, _ => []
| .raise _, _ => []
| .get next, state => notes (next state) state
| .note asked next, state => asked :: notes next state
| .block writes next, state =>
  match writeAll noFaults writes state with
  | .error _ => []
  | .ok after => notes next after

---- Sequences

variable {faults : Point → Option Failure} {state after : State}

protected theorem bind_assoc {γ : Type} (script : Script Note Point State Failure α)
    (next : α → Script Note Point State Failure β) (last : β → Script Note Point State Failure γ) :
    script >>= next >>= last = script >>= fun value => next value >>= last := by
  change (script.bind next).bind last = script.bind _
  induction script with
  | done _ => rfl
  | raise _ => rfl
  | get rest ih => exact congrArg Script.get (funext ih)
  | note asked rest ih => exact congrArg (Script.note asked) ih
  | block writes rest ih => exact congrArg (Script.block writes) ih

theorem run_bind
    (script : Script Note Point State Failure α) (next : α → Script Note Point State Failure β) :
    run faults (script >>= next) =
      andThen (run faults script) (fun value => run faults (next value)) := by
  funext state
  change run faults (script.bind next) state = _
  induction script generalizing state with
  | done value => rfl
  | raise failure => rfl
  | get rest ih => exact ih state state
  | note _ rest ih => exact ih state
  | block writes rest ih =>
    unfold Script.bind andThen run
    cases writeAll faults writes state with
    | error failure => rfl
    | ok middle => exact ih middle

variable {script : Script Note Point State Failure α} {value : α} {point : Point}
variable {change : State → Except Failure State} {next : α → Script Note Point State Failure β}

theorem run_bind_of_error {failure : Failure}
    (hRun : run faults script state = (.error failure, after)) :
    run faults (script >>= next) state = (.error failure, after) := by
  rw [run_bind]
  unfold andThen
  rw [hRun]

theorem run_bind_of_ok (hRun : run faults script state = (.ok value, after)) :
    run faults (script >>= next) state = run faults (next value) after := by
  rw [run_bind]
  unfold andThen
  rw [hRun]

@[simp]
theorem run_read :
    run faults (read : Script Note Point State Failure State) state = (.ok state, state) :=
  rfl

@[simp]
theorem run_check (result : Except Failure α) :
    run faults (check result : Script Note Point State Failure α) state = (result, state) := by
  cases result with
  | error failure => rfl
  | ok value => rfl

@[simp]
theorem run_demand_bind (asked : Note) (next : Unit → Script Note Point State Failure β) :
    run faults (demand asked >>= next) state = run faults (next ()) state :=
  rfl

theorem run_write_of_fault (hFault : faults point ≠ none) :
    ∃ failure, run faults (write point change : Script Note Point State Failure Unit) state =
      (.error failure, state) := by
  rcases Option.ne_none_iff_exists'.mp hFault with ⟨failure, hFailure⟩
  refine ⟨failure, ?_⟩
  unfold write run writeAll
  rw [hFailure]

theorem run_write_of_error {failure : Failure} (hFault : faults point = none)
    (hChange : change state = .error failure) :
    run faults (write point change : Script Note Point State Failure Unit) state =
      (.error failure, state) := by
  unfold write run writeAll
  simp only [hFault, hChange]
  rfl

theorem run_write_of_ok (hFault : faults point = none) (hChange : change state = .ok after) :
    run faults (write point change : Script Note Point State Failure Unit) state =
      (.ok (), after) := by
  unfold write run writeAll
  simp only [hFault, hChange]
  rfl

theorem run_write_bind (point : Point) (change : State → Except Failure State)
    (next : Unit → Script Note Point State Failure β) :
    run noFaults (write point change >>= next) state =
      match change state with
      | .error failure => (.error failure, state)
      | .ok after => run noFaults (next ()) after := by
  cases hChange : change state with
  | error failure => exact run_bind_of_error (run_write_of_error rfl hChange)
  | ok after => exact run_bind_of_ok (run_write_of_ok rfl hChange)

theorem transaction_bind
    (script : Script Note Point State Failure α) (next : α → Script Note Point State Failure β) :
    transaction faults (script >>= next) state = transaction faults script state >>= fun result =>
        transaction faults (next result.1) result.2 := by
  unfold transaction
  rw [run_bind]
  unfold andThen
  rcases run faults script state with ⟨failure | value, middle⟩ <;> rfl

@[simp]
theorem transaction_pure (value : α) :
    transaction faults (pure value : Script Note Point State Failure α) state =
      .ok (value, state) :=
  rfl

@[simp]
theorem transaction_read_bind (next : State → Script Note Point State Failure β) :
    transaction faults (read >>= next) state = transaction faults (next state) state :=
  rfl

@[simp]
theorem transaction_check_bind
    (result : Except Failure α) (next : α → Script Note Point State Failure β) :
    transaction faults (check result >>= next) state = result >>= fun value =>
        transaction faults (next value) state := by
  cases result with
  | error failure => rfl
  | ok value => rfl

theorem writeAll_singleton (point : Point) (change : State → Except Failure State) (state : State) :
    writeAll noFaults [⟨point, change⟩] state = change state := by
  change (change state >>= writeAll noFaults []) = _
  cases change state with
  | error failure => rfl
  | ok middle => rfl

@[simp]
theorem transaction_write_bind (point : Point) (change : State → Except Failure State)
    (next : Unit → Script Note Point State Failure β) :
    transaction noFaults (write point change >>= next) state = change state >>= fun after =>
        transaction noFaults (next ()) after := by
  rw [transaction_bind]
  unfold transaction write
  rw [run, writeAll_singleton]
  cases change state with
  | error failure => rfl
  | ok middle => rfl

theorem writeAll_of_faults {writes : List (Write Point State Failure)}
    (hWrites : writeAll faults writes state = .ok after) :
    writeAll noFaults writes state = .ok after := by
  induction writes generalizing state with
  | nil => exact hWrites
  | cons first rest ih =>
    unfold writeAll at hWrites ⊢
    split at hWrites
    · exact nomatch hWrites
    · rcases bind_eq_ok_iff.mp hWrites with ⟨middle, hFirst, hRest⟩
      exact bind_eq_ok_iff.mpr ⟨middle, hFirst, ih hRest⟩

theorem run_eq_of_faults (hRun : run faults script state = (.ok value, after)) :
    run noFaults script state = (.ok value, after) := by
  induction script generalizing state with
  | done _ => exact hRun
  | raise _ => exact hRun
  | get rest ih => exact ih state hRun
  | note _ rest ih => exact ih hRun
  | block writes rest ih =>
    unfold run at hRun ⊢
    cases hWrites : writeAll faults writes state with
    | error failure =>
      rw [hWrites] at hRun
      exact nomatch hRun
    | ok middle =>
      rw [hWrites] at hRun
      rw [writeAll_of_faults hWrites]
      exact ih hRun

theorem transaction_eq_of_faults (hRun : transaction faults script state = .ok (value, after)) :
    transaction noFaults script state = .ok (value, after) := by
  unfold transaction at hRun ⊢
  split at hRun
  · rename_i _ _ hReturned
    rw [run_eq_of_faults hReturned]
    exact hRun
  · exact nomatch hRun

---- Notes

@[simp]
theorem notes_bind_pure (change : α → β) :
    notes (script >>= fun value => pure (change value)) state = notes script state := by
  change notes (script.bind _) state = _
  induction script generalizing state with
  | done _ => rfl
  | raise _ => rfl
  | get rest ih => exact ih state
  | note first rest ih => exact congrArg (first :: ·) ih
  | block writes rest ih =>
    unfold Script.bind notes
    cases writeAll noFaults writes state with
    | error failure => rfl
    | ok middle => exact ih

theorem notes_check_bind {property : List Note → Prop} {result : Except Failure α}
    (hRaised : property [])
    (hPassed : ∀ value, result = .ok value → property (notes (next value) state)) :
    property (notes (check result >>= next) state) := by
  cases hResult : result with
  | error failure => exact hRaised
  | ok value => exact hPassed value hResult

theorem notes_write_bind {property : List Note → Prop}
    {next : Unit → Script Note Point State Failure β} (hRaised : property [])
    (hPassed : ∀ after, change state = .ok after → property (notes (next ()) after)) :
    property (notes (write point change >>= next) state) := by
  change property (notes (.block [⟨point, change⟩] (next ())) state)
  rw [notes, writeAll_singleton]
  cases hChange : change state with
  | error failure => exact hRaised
  | ok after => exact hPassed after hChange

end Script

end PamOlive.Foundations
