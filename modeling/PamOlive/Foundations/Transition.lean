import Mathlib.Data.List.Basic

/-
  Labelled transition systems, their finite runs, and the induction rules by which a step invariant
  becomes a run invariant.

  A run is indexed by its labels. In a guarded run every step meets a condition on the state before
  it and on its label.
-/

---- Systems And Runs

namespace PamOlive.Foundations

/- A labelled transition system with initial states. -/
structure TransitionSystem (State Label : Type) where
  init : State → Prop
  step : State → Label → State → Prop

namespace TransitionSystem

variable {State Label : Type} {system : TransitionSystem State Label}

inductive Run (system : TransitionSystem State Label) : State → List Label → State → Prop
  | nil (state : State) : Run system state [] state
  | cons {before middle after : State} {label : Label} {labels : List Label}
    (hStep : system.step before label middle)
    (hRest : Run system middle labels after) :
    Run system before (label :: labels) after

def Reachable (system : TransitionSystem State Label) (state : State) : Prop :=
  ∃ start labels, system.init start ∧ Run system start labels state

/- A run all of whose steps meet a condition on the state before the step and on its label. -/
inductive Guarded (system : TransitionSystem State Label) (guard : State → Label → Prop) :
    State → List Label → State → Prop
  | nil (state : State) : Guarded system guard state [] state
  | cons {before middle after : State} {label : Label} {labels : List Label}
    (hGuard : guard before label)
    (hStep : system.step before label middle)
    (hRest : Guarded system guard middle labels after) :
    Guarded system guard before (label :: labels) after

/- A run all of whose states have a property. -/
inductive Along (system : TransitionSystem State Label) (property : State → Prop) :
    State → List Label → State → Prop
  | nil {state : State} (hState : property state) : Along system property state [] state
  | cons {before middle after : State} {label : Label} {labels : List Label}
    (hBefore : property before)
    (hStep : system.step before label middle)
    (hRest : Along system property middle labels after) :
    Along system property before (label :: labels) after

---- Composing Runs

variable {start finish : State} {labels labels' : List Label}
variable {guard : State → Label → Prop} {property : State → Prop}

theorem Run.append {first second third : State} (hFirst : Run system first labels second)
    (hSecond : Run system second labels' third) : Run system first (labels ++ labels') third := by
  induction hFirst with
  | nil => exact hSecond
  | cons hStep _ ih => exact Run.cons hStep (ih hSecond)

theorem Run.exists_middle (hRun : Run system start (labels ++ labels') finish) :
    ∃ middle, Run system start labels middle ∧ Run system middle labels' finish := by
  induction labels generalizing start with
  | nil => exact ⟨start, Run.nil start, hRun⟩
  | cons label labels ih =>
    cases hRun with
    | cons hStep hRest =>
      rcases ih hRest with ⟨middle, hFirst, hSecond⟩
      exact ⟨middle, Run.cons hStep hFirst, hSecond⟩

variable {state : State}

theorem Reachable.run {state' : State} (hReachable : Reachable system state)
    (hRun : Run system state labels state') : Reachable system state' := by
  rcases hReachable with ⟨start, before, hInit, hBefore⟩
  exact ⟨start, before ++ labels, hInit, hBefore.append hRun⟩

---- Invariant Rules

theorem Run.invariant (hPreserved :
    ∀ before label after, property before → system.step before label after → property after)
    (hRun : Run system start labels finish)
    (hStart : property start) : property finish := by
  induction hRun with
  | nil => exact hStart
  | cons hStep _ ih => exact ih (hPreserved _ _ _ hStart hStep)

/- An invariant of all initial states holds when reachable. -/
theorem Reachable.invariant (hInit : ∀ state, system.init state → property state) (hPreserved :
      ∀ before label after, property before → system.step before label after → property after)
    (hReachable : Reachable system state) : property state := by
  rcases hReachable with ⟨start, labels, hStart, hRun⟩
  exact hRun.invariant hPreserved (hInit start hStart)

/- What every step that meets the guard preserves, every guarded run preserves. -/
theorem Guarded.invariant (hPreserved : ∀ before label after,
      property before → guard before label → system.step before label after → property after)
    (hRun : Guarded system guard start labels finish)
    (hStart : property start) : property finish := by
  induction hRun with
  | nil => exact hStart
  | cons hGuard hStep _ ih => exact ih (hPreserved _ _ _ hStart hGuard hStep)

/-
  If each step from a state with an invariant keeps a property exactly when it meets the guard, and
  none restores it, a run keeps it exactly when it is guarded.
-/
theorem Run.iff_guarded_within {invariant : State → Prop} (hPreserved :
      ∀ before label after, invariant before → system.step before label after → invariant after)
    (hStep : ∀ before label after, invariant before →
      system.step before label after → (property after ↔ property before ∧ guard before label))
    (hRun : Run system start labels finish)
    (hInvariant : invariant start)
    (hStart : property start) : property finish ↔ Guarded system guard start labels finish := by
  constructor
  · intro hFinish
    have hBoth : property start ∧ Guarded system guard start labels finish := by
      clear hStart
      induction hRun with
      | nil state => exact ⟨hFinish, Guarded.nil state⟩
      | cons hFirst _ ih =>
        rcases ih (hPreserved _ _ _ hInvariant hFirst) hFinish with ⟨hMiddle, hRest⟩
        rcases (hStep _ _ _ hInvariant hFirst).mp hMiddle with ⟨hBefore, hGuard⟩
        exact ⟨hBefore, Guarded.cons hGuard hFirst hRest⟩
    exact hBoth.2
  · intro hGuarded
    have hKept : ∀ before label after, invariant before ∧ property before → guard before label →
      system.step before label after → invariant after ∧ property after := by
      rintro before label after ⟨hInv, hBefore⟩ hGuard hTaken
      exact ⟨hPreserved before label after hInv hTaken,
        (hStep before label after hInv hTaken).mpr ⟨hBefore, hGuard⟩⟩
    exact (hGuarded.invariant hKept ⟨hInvariant, hStart⟩).2

/- The same where no invariant is needed. -/
theorem Run.iff_guarded (hStep : ∀ before label after,
      system.step before label after → (property after ↔ property before ∧ guard before label))
    (hRun : Run system start labels finish)
    (hStart : property start) : property finish ↔ Guarded system guard start labels finish :=
  @Run.iff_guarded_within _ _ _ _ _ _ _ property (fun _ => True) (fun _ _ _ _ _ => trivial)
    (fun before label after _ hTaken => hStep before label after hTaken) hRun trivial hStart

theorem Along.of_start (hAlong : Along system property start labels finish) : property start := by
  cases hAlong with
  | nil hState => exact hState
  | cons hBefore _ _ => exact hBefore

/-
  If a step keeps a property exactly when it meets the guard, all states of a run have the property
  exactly when the run is guarded.
-/
theorem along_iff_guarded (hStep : ∀ before label after,
      property before → system.step before label after → (property after ↔ guard before label))
    (hStart : property start) :
    Along system property start labels finish ↔ Guarded system guard start labels finish := by
  constructor
  · intro hAlong
    clear hStart
    induction hAlong with
    | nil _ => exact Guarded.nil _
    | cons hBefore hTaken hRest ih =>
      have hGuard := (hStep _ _ _ hBefore hTaken).mp hRest.of_start
      exact Guarded.cons hGuard hTaken ih
  · intro hGuarded
    induction hGuarded with
    | nil _ => exact Along.nil hStart
    | cons hGuard hTaken _ ih =>
      have hMiddle := (hStep _ _ _ hStart hTaken).mpr hGuard
      exact Along.cons hStart hTaken (ih hMiddle)

/- A property that a run acquires is acquired at one of its steps. -/
theorem Run.exists_step_of_change
    (hRun : Run system start labels finish) (hStart : ¬ property start)
    (hFinish : property finish) :
    ∃ first label rest before after, labels = first ++ label :: rest ∧
      Run system start first before ∧ system.step before label after ∧
      Run system after rest finish ∧ ¬ property before ∧ property after := by
  induction hRun with
  | nil => exact absurd hFinish hStart
  | @cons before middle after label labels hStep hRest ih =>
    by_cases hMiddle : property middle
    · exact ⟨[], label, labels, before, middle, rfl, Run.nil before, hStep, hRest, hStart, hMiddle⟩
    · rcases ih hMiddle hFinish with
      ⟨first, label', rest, before', after', hLabels, hFirst, hChange, hLast, hNot, hHolds⟩
      exact ⟨label :: first, label', rest, before', after', congrArg (List.cons label) hLabels,
        Run.cons hStep hFirst, hChange, hLast, hNot, hHolds⟩

end TransitionSystem

end PamOlive.Foundations
