import Mathlib.Data.Finset.Piecewise
import Mathlib.Data.Fintype.Basic
import Mathlib.Logic.Relation
import PamOlive.Foundations.Transition

/-
  Transactions that lock rows and wait for each other.

  A transaction has a program: the locks it asks for, in order. A lock is granted when no other
  transaction holds one that excludes it, and all are released together. A circle of waiting
  transactions can be reached exactly if they can be placed in their programs so that what they
  hold is compatible; locking in one order of the rows forms no circle.
-/

---- Locks On Rows

namespace PamOlive.Foundations

open List Function Relation

/- What a foreign key, an `UPDATE` and `SELECT ... FOR UPDATE` ask for. -/
inductive Strength where
  | keyShare | noKeyUpdate | update
deriving DecidableEq

/- Two transactions cannot both have these on one row. -/
def Strength.excludes : Strength → Strength → Bool
| .keyShare, .keyShare => false
| .keyShare, .noKeyUpdate => false
| .noKeyUpdate, .keyShare => false
| _, _ => true

theorem Strength.excludes_comm (first second : Strength) :
    first.excludes second = second.excludes first := by
  cases first <;> cases second <;> rfl

theorem Strength.update_excludes (strength : Strength) :
    Strength.update.excludes strength = true := by
  cases strength <;> rfl

structure Request (Row : Type) where
  row : Row
  strength : Strength
deriving DecidableEq

namespace Request

variable {Row : Type}

def Clashes (first second : Request Row) : Prop :=
  first.row = second.row ∧ first.strength.excludes second.strength = true

instance [DecidableEq Row] (first second : Request Row) : Decidable (first.Clashes second) :=
  inferInstanceAs (Decidable (_ ∧ _))

theorem Clashes.symm {first second : Request Row} (hClashes : first.Clashes second) :
    second.Clashes first := by
  refine ⟨hClashes.1.symm, ?_⟩
  rw [Strength.excludes_comm]
  exact hClashes.2

/- A request for more than a key share. -/
def Writes (request : Request Row) : Prop := request.strength ≠ .keyShare

end Request

---- Waiting

variable {ι Row : Type}

section Waiting

variable (programs : ι → List (Request Row))

/- How many locks of its program a transaction has taken, or nothing once it has ended. -/
abbrev Positions (ι : Type) : Type := ι → Option ℕ

section

variable (positions : Positions ι)

def held (i : ι) : List (Request Row) :=
  (positions i).elim [] (fun taken => (programs i).take taken)

def wanted (i : ι) : Option (Request Row) :=
  (positions i).bind (fun taken => (programs i)[taken]?)

def WaitsFor (waiting holder : ι) : Prop :=
  waiting ≠ holder ∧ ∃ request lock, wanted programs positions waiting = some request ∧
    lock ∈ held programs positions holder ∧ request.Clashes lock

def CyclicWait : Prop :=
  ∃ i, TransGen (WaitsFor programs positions) i i

/- No two transactions hold locks that exclude each other. -/
def Compatible : Prop :=
  ∀ i j, i ≠ j → ∀ first ∈ held programs positions i,
    ∀ second ∈ held programs positions j, ¬ first.Clashes second

/- No transaction has taken more than its program has. -/
def Fits : Prop :=
  ∀ i taken, positions i = some taken → taken ≤ (programs i).length

end

end Waiting

variable {programs : ι → List (Request Row)} {positions after : Positions ι} {i j : ι}
variable {request : Request Row}

theorem exists_split_of_wanted (hWanted : wanted programs positions i = some request) :
    ∃ rest, programs i = held programs positions i ++ request :: rest := by
  unfold wanted at hWanted
  unfold held
  cases hPosition : positions i with
  | none => simp [hPosition] at hWanted
  | some taken =>
    rw [hPosition] at hWanted
    rcases List.getElem?_eq_some_iff.mp hWanted with ⟨hLess, rfl⟩
    refine ⟨(programs i).drop (taken + 1), ?_⟩
    rw [← drop_eq_getElem_cons hLess]
    exact (take_append_drop taken (programs i)).symm

theorem held_isFirst : held programs positions i <+: programs i := by
  unfold held
  cases positions i with
  | none => exact nil_prefix
  | some taken => exact take_prefix taken (programs i)

theorem mem_of_wanted (hWanted : wanted programs positions i = some request) :
    request ∈ programs i := by
  rcases exists_split_of_wanted hWanted with ⟨rest, hSplit⟩
  rw [hSplit]
  exact mem_append_right _ mem_cons_self

theorem held_getD :
    held programs (fun i => some ((positions i).getD 0)) i = held programs positions i := by
  unfold held
  cases hPosition : positions i <;> simp [hPosition]

theorem wanted_getD (hWanted : wanted programs positions i = some request) :
    wanted programs (fun i => some ((positions i).getD 0)) i = some request := by
  unfold wanted at hWanted ⊢
  cases hPosition : positions i with
  | none => simp [hPosition] at hWanted
  | some taken => simpa [hPosition] using hWanted

---- The System

variable [DecidableEq ι]

/- A transaction takes its next lock if nobody excludes it, and may end at any time. -/
inductive LockStep (programs : ι → List (Request Row)) (positions : Positions ι) :
    ι → Positions ι → Prop
  | acquire {i : ι} {taken : ℕ} {request : Request Row} (hPosition : positions i = some taken)
    (hWanted : (programs i)[taken]? = some request)
    (hFree : ∀ other, ¬ WaitsFor programs positions i other) :
    LockStep programs positions i (update positions i (some (taken + 1)))
  | finish {i : ι} : LockStep programs positions i (update positions i none)

def lockSystem (programs : ι → List (Request Row)) : TransitionSystem (Positions ι) ι where
  init positions := positions = fun _ => some 0
  step := LockStep programs

theorem held_update_self (position : Option ℕ) : held programs (update positions i position) i =
    position.elim [] (fun taken => (programs i).take taken) := by
  unfold held
  rw [update_self]

variable {position : Option ℕ}

theorem held_update_of_ne (hOther : j ≠ i) :
    held programs (update positions i position) j = held programs positions j := by
  unfold held
  rw [update_of_ne hOther]

theorem Compatible.update (hCompatible : Compatible programs positions)
    (hMoved : ∀ other, i ≠ other → ∀ first ∈ held programs (update positions i position) i,
      ∀ second ∈ held programs positions other, ¬ first.Clashes second) :
    Compatible programs (update positions i position) := by
  intro first second hDistinct request hRequest lock hLock
  by_cases hFirst : first = i
  · subst hFirst
    rw [held_update_of_ne (Ne.symm hDistinct)] at hLock
    exact hMoved second hDistinct request hRequest lock hLock
  · rw [held_update_of_ne hFirst] at hRequest
    by_cases hSecond : second = i
    · subst hSecond
      intro hClashes
      exact hMoved first (Ne.symm hDistinct) lock hLock request hRequest hClashes.symm
    · rw [held_update_of_ne hSecond] at hLock
      exact hCompatible first second hDistinct request hRequest lock hLock

theorem LockStep.compatible (hStep : LockStep programs positions i after)
    (hCompatible : Compatible programs positions) : Compatible programs after := by
  cases hStep with
  | acquire hPosition hWanted hFree =>
    refine hCompatible.update ?_
    intro other hOther first hFirst second hSecond hClashes
    rw [held_update_self, Option.elim_some, take_add_one, hWanted, mem_append] at hFirst
    rcases hFirst with hFirst | hFirst
    · refine hCompatible i other hOther first ?_ second hSecond hClashes
      unfold held
      rw [hPosition]
      exact hFirst
    · rw [Option.toList_some, mem_singleton] at hFirst
      subst hFirst
      refine hFree other ⟨hOther, first, second, ?_, hSecond, hClashes⟩
      unfold wanted
      rw [hPosition]
      exact hWanted
  | finish =>
    refine hCompatible.update ?_
    intro other _ first hFirst
    rw [held_update_self] at hFirst
    exact absurd hFirst not_mem_nil

theorem LockStep.fits (hStep : LockStep programs positions i after)
    (hFits : Fits programs positions) : Fits programs after := by
  intro other count hCount
  by_cases hOther : other = i
  · subst hOther
    cases hStep with
    | acquire _ hWanted _ =>
      rw [update_self] at hCount
      injection hCount with hCount
      have hLess := (List.getElem?_eq_some_iff.mp hWanted).1
      omega
    | finish =>
      rw [update_self] at hCount
      exact nomatch hCount
  · refine hFits other count ?_
    cases hStep <;> rwa [update_of_ne hOther] at hCount

theorem compatible_of_reachable (hReachable : (lockSystem programs).Reachable positions) :
    Compatible programs positions := by
  refine hReachable.invariant ?_ ?_
  · rintro _ rfl first second _ request hRequest
    exact absurd hRequest not_mem_nil
  · exact fun _ _ _ hBefore hStep => LockStep.compatible hStep hBefore

theorem fits_of_reachable (hReachable : (lockSystem programs).Reachable positions) :
    Fits programs positions := by
  refine hReachable.invariant ?_ ?_
  · rintro _ rfl i taken ⟨rfl⟩
    exact Nat.zero_le _
  · exact fun _ _ _ hBefore hStep => LockStep.fits hStep hBefore

---- Placements

structure Placement (programs : ι → List (Request Row)) where
  taken : ι → ℕ
  fits : Fits programs (fun i => some (taken i))
  compatible : Compatible programs (fun i => some (taken i))

namespace Placement

def toPositions (placement : Placement programs) : Positions ι := fun i => some (placement.taken i)

variable (placement : Placement programs) {behind : ι → ℕ}

theorem acquire_of_behind (hBehind : ∀ j, behind j ≤ placement.taken j)
    (hMore : behind i < placement.taken i) :
    LockStep programs (fun j => some (behind j)) i (fun j =>
        some (update behind i (behind i + 1) j)) := by
  have hLess : behind i < (programs i).length :=
    Nat.lt_of_lt_of_le hMore (placement.fits i (placement.taken i) rfl)
  have hWanted : (programs i)[behind i]? = some ((programs i)[behind i]) :=
    getElem?_eq_getElem hLess
  have hAfter : (fun j => some (update behind i (behind i + 1) j)) =
    update (fun j => some (behind j)) i (some (behind i + 1)) :=
    comp_update some behind i (behind i + 1)
  rw [hAfter]
  refine LockStep.acquire rfl hWanted ?_
  intro other hWaits
  rcases hWaits with ⟨hOther, request, lock, hRequest, hLock, hClashes⟩
  -- both locks are held in the placement
  have hSame : request = (programs i)[behind i] := Option.some.inj (hRequest.symm.trans hWanted)
  refine placement.compatible i other hOther request ?_ lock ?_ hClashes
  · rw [hSame]
    exact mem_take_iff_getElem.mpr ⟨behind i, lt_min hMore hLess, rfl⟩
  · exact take_subset_take_left _ (hBehind other) hLock

theorem reachable_of_behind (hBehind : ∀ j, behind j ≤ placement.taken j)
    (hReachable : (lockSystem programs).Reachable (fun j => some (behind j))) {count : ℕ}
    (hLow : behind i ≤ count) (hHigh : count ≤ placement.taken i) :
    (lockSystem programs).Reachable (fun j => some (update behind i count j)) := by
  induction count, hLow using Nat.le_induction with
  | base =>
    rw [update_eq_self]
    exact hReachable
  | succ count _ ih =>
    have hBehind' : ∀ j, update behind i count j ≤ placement.taken j := by
      intro j
      by_cases hOther : j = i
      · subst hOther
        rw [update_self]
        omega
      · rw [update_of_ne hOther]
        exact hBehind j
    have hStep :=
      placement.acquire_of_behind (i := i) hBehind' (by rw [update_self]; omega)
    rw [update_self, update_idem] at hStep
    exact (ih (by omega)).run (.cons hStep (.nil _))

theorem reachable [Fintype ι] : (lockSystem programs).Reachable placement.toPositions := by
  have hEach : ∀ placed : Finset ι, (lockSystem programs).Reachable (fun j =>
      some (placed.piecewise placement.taken 0 j)) := by
    intro placed
    induction placed using Finset.induction_on with
    | empty =>
      exact ⟨_, [], rfl, TransitionSystem.Run.nil _⟩
    | insert i placed hNew ih =>
      have hBehind : ∀ j, placed.piecewise placement.taken 0 j ≤ placement.taken j := by
        intro j
        unfold Finset.piecewise
        split
        · exact Nat.le_refl _
        · exact Nat.zero_le _
      rw [Finset.piecewise_insert]
      refine placement.reachable_of_behind hBehind ih ?_ (Nat.le_refl _)
      exact hBehind i
  have hAll := hEach Finset.univ
  rw [Finset.piecewise_univ] at hAll
  exact hAll

end Placement

theorem exists_placement_of_reachable (hReachable : (lockSystem programs).Reachable positions) :
    ∃ placement : Placement programs,
      ∀ i j, WaitsFor programs positions i j → WaitsFor programs placement.toPositions i j := by
  have hFits := fits_of_reachable hReachable
  have hCompatible := compatible_of_reachable hReachable
  refine ⟨⟨fun i => (positions i).getD 0, ?_, ?_⟩, ?_⟩
  · intro i taken hTaken
    injection hTaken with hTaken
    cases hPosition : positions i with
    | none =>
      rw [hPosition, Option.getD_none] at hTaken
      omega
    | some count =>
      rw [hPosition, Option.getD_some] at hTaken
      exact hTaken ▸ hFits i count hPosition
  · intro i j hDistinct
    rw [held_getD, held_getD]
    exact hCompatible i j hDistinct
  · intro i j hWaits
    rcases hWaits with ⟨hDistinct, request, lock, hRequest, hLock, hClashes⟩
    refine ⟨hDistinct, request, lock, wanted_getD hRequest, ?_, hClashes⟩
    unfold Placement.toPositions
    rw [held_getD]
    exact hLock

theorem cyclicWait_reachable_iff [Fintype ι] :
    (∃ positions, (lockSystem programs).Reachable positions ∧ CyclicWait programs positions) ↔
      ∃ placement : Placement programs, CyclicWait programs placement.toPositions := by
  constructor
  · rintro ⟨positions, hReachable, i, hCircle⟩
    rcases exists_placement_of_reachable hReachable with ⟨placement, hWaits⟩
    exact ⟨placement, i, TransGen.mono hWaits i i hCircle⟩
  · rintro ⟨placement, hCircle⟩
    exact ⟨placement.toPositions, placement.reachable, hCircle⟩

/- Two transactions that each want what the other holds. -/
structure Crossed (programs : ι → List (Request Row)) (i j : ι)
    (first second : List (Request Row)) : Prop where
  distinct : i ≠ j
  compatible : ∀ lock ∈ first, ∀ other ∈ second, ¬ lock.Clashes other
  firstWaits :
    ∃ request rest, programs i = first ++ request :: rest ∧ ∃ lock ∈ second, request.Clashes lock
  secondWaits :
    ∃ request rest, programs j = second ++ request :: rest ∧ ∃ lock ∈ first, request.Clashes lock

/- How far the two have got, while nobody else has begun. -/
def pairTaken (i j : ι) (first second : List (Request Row)) (k : ι) : ℕ :=
  if k = i then first.length
  else if k = j then second.length
  else 0

variable {first second : List (Request Row)}

theorem Crossed.held_pairTaken (hCrossed : Crossed programs i j first second) (k : ι) :
    held programs (fun k => some (pairTaken i j first second k)) k =
      if k = i then first
      else if k = j then second
      else [] := by
  rcases hCrossed.firstWaits with ⟨request, rest, hFirst, _⟩
  rcases hCrossed.secondWaits with ⟨request', rest', hSecond, _⟩
  unfold held pairTaken
  dsimp only [Option.elim_some]
  split
  · rename_i hSame
    rw [hSame, hFirst, take_left]
  · split
    · rename_i hSame
      rw [hSame, hSecond, take_left]
    · exact take_zero

theorem Crossed.exists_placement (hCrossed : Crossed programs i j first second) :
    ∃ placement : Placement programs, CyclicWait programs placement.toPositions := by
  have hHeld := hCrossed.held_pairTaken
  have hOther : ¬ j = i := Ne.symm hCrossed.distinct
  rcases hCrossed with ⟨hDistinct, hCompatible, ⟨request, rest, hFirst, lock, hLock, hClashes⟩,
    ⟨request', rest', hSecond, lock', hLock', hClashes'⟩⟩
  refine ⟨⟨pairTaken i j first second, ?_, ?_⟩, i, ?_⟩
  · rintro k taken ⟨rfl⟩
    unfold pairTaken
    split_ifs with hK hK'
    · simp [hK, hFirst]
    · simp [hK', hSecond]
    · exact Nat.zero_le _
  · intro k l hDifferent one hIn other hIn' hClash
    rw [hHeld] at hIn hIn'
    split_ifs at hIn hIn' with hK hL hL' hK' hL hL'
    · exact hDifferent (hK.trans hL.symm)
    · exact hCompatible one hIn other hIn' hClash
    · exact absurd hIn' not_mem_nil
    · exact hCompatible other hIn' one hIn hClash.symm
    · exact hDifferent (hK'.trans hL'.symm)
    · exact absurd hIn' not_mem_nil
    all_goals exact absurd hIn not_mem_nil
  · -- the first waits for the second, and back
    refine .tail (.single (b := j) ?_) ?_
    · refine ⟨hDistinct, request, lock, ?_, ?_, hClashes⟩
      · unfold wanted Placement.toPositions pairTaken
        simp [hFirst]
      · unfold Placement.toPositions
        rw [hHeld, if_neg hOther, if_pos rfl]
        exact hLock
    · refine ⟨hOther, request', lock', ?_, ?_, hClashes'⟩
      · unfold wanted Placement.toPositions pairTaken
        simp [hSecond, hOther]
      · unfold Placement.toPositions
        rw [hHeld, if_pos rfl]
        exact hLock'

---- Lock Orders

/-
  A program that writes rows in the order of their ranks. Its key shares are on free rows, which
  are not written, or on rows it has locked for update.
-/
structure Ordered (rank : Row → ℕ) (Free : Row → Prop) (program : List (Request Row)) : Prop where
  climbs : program.Pairwise
    (fun first second => first.Writes → second.Writes → rank first.row < rank second.row)
  writes : ∀ request ∈ program, request.Writes → ¬ Free request.row
  shares : ∀ before request rest, program = before ++ request :: rest →
    ¬ request.Writes → Free request.row ∨ ⟨request.row, .update⟩ ∈ before

section LockOrders

variable {rank : Row → ℕ} {Free : Row → Prop}

omit [DecidableEq ι] in
theorem WaitsFor.exists_writes (hCompatible : Compatible programs positions)
    (hFirst : Ordered rank Free (programs i)) (hSecond : Ordered rank Free (programs j))
    (hWaits : WaitsFor programs positions i j) :
    ∃ request lock, wanted programs positions i = some request ∧ request.Writes ∧
        lock ∈ held programs positions j ∧ lock.Writes ∧ lock.row = request.row := by
  rcases hWaits with ⟨hDistinct, request, lock, hRequest, hLock, hRow, hExcludes⟩
  rcases exists_split_of_wanted hRequest with ⟨rest, hSplit⟩
  have hWrites : request.Writes := by
    by_contra hShare
    rcases hFirst.shares _ request rest hSplit hShare with hFree | hOwn
    · have hLockShare : lock.strength = .keyShare := by
        by_contra hLockWrites
        exact hSecond.writes lock (held_isFirst.subset hLock) hLockWrites (hRow ▸ hFree)
      rw [not_not.mp hShare, hLockShare] at hExcludes
      exact absurd hExcludes Bool.false_ne_true
    · exact hCompatible i j hDistinct _ hOwn lock hLock
        ⟨hRow, Strength.update_excludes lock.strength⟩
  by_cases hLockWrites : lock.Writes
  · exact ⟨request, lock, hRequest, hWrites, hLock, hLockWrites, hRow.symm⟩
  -- the holder of a key share has locked the row before
  rcases append_of_mem hLock with ⟨before, after, hHeld⟩
  rcases @held_isFirst _ _ programs positions j with ⟨remaining, hProgram⟩
  rw [hHeld, append_assoc, cons_append] at hProgram
  rcases hSecond.shares before lock _ hProgram.symm hLockWrites with hFree | hOwn
  · exact absurd (hRow ▸ hFree) (hFirst.writes request (mem_of_wanted hRequest) hWrites)
  · refine ⟨request, ⟨lock.row, .update⟩, hRequest, hWrites, ?_, ?_, hRow.symm⟩
    · rw [hHeld]
      exact mem_append_left _ hOwn
    · unfold Request.Writes
      simp

/- The rank of the row a transaction wants. -/
def wantedRank (rank : Row → ℕ) (programs : ι → List (Request Row))
    (positions : Positions ι) (i : ι) : ℕ :=
  (wanted programs positions i).elim 0 (fun request => rank request.row)

omit [DecidableEq ι] in
theorem wantedRank_lt {k : ι} (hCompatible : Compatible programs positions)
    (hFirst : Ordered rank Free (programs i)) (hSecond : Ordered rank Free (programs j))
    (hThird : Ordered rank Free (programs k)) (hWaits : WaitsFor programs positions i j)
    (hNext : WaitsFor programs positions j k) :
    wantedRank rank programs positions i < wantedRank rank programs positions j := by
  rcases hWaits.exists_writes hCompatible hFirst hSecond with
    ⟨request, lock, hRequest, _, hLock, hLockWrites, hRow⟩
  rcases hNext.exists_writes hCompatible hSecond hThird with
    ⟨next, _, hNextRequest, hNextWrites, _, _, _⟩
  rcases exists_split_of_wanted hNextRequest with ⟨rest, hSplit⟩
  have hClimbs := hSecond.climbs
  rw [hSplit, pairwise_append] at hClimbs
  have hLess := hClimbs.2.2 lock hLock next mem_cons_self hLockWrites hNextWrites
  unfold wantedRank
  rw [hRequest, hNextRequest]
  rw [hRow] at hLess
  exact hLess

omit [DecidableEq ι] in
theorem not_circle_of_ordered {Member : ι → Prop} (hCompatible : Compatible programs positions)
    (hOrdered : ∀ i, Member i → Ordered rank Free (programs i)) :
    ¬ TransGen (fun i j =>
        (Member i ∧ Member j) ∧ WaitsFor programs positions i j) i i := by
  have hGrows : ∀ {first last next : ι}, TransGen
    (fun i j => (Member i ∧ Member j) ∧ WaitsFor programs positions i j) first last →
    (Member last ∧ Member next) ∧ WaitsFor programs positions last next →
      wantedRank rank programs positions first < wantedRank rank programs positions last := by
    intro first last next hChain
    induction hChain generalizing next with
    | single hEdge =>
      intro hNext
      exact wantedRank_lt hCompatible (hOrdered _ hEdge.1.1) (hOrdered _ hEdge.1.2)
        (hOrdered _ hNext.1.2) hEdge.2 hNext.2
    | tail _ hEdge ih =>
      intro hNext
      have hLess := wantedRank_lt hCompatible (hOrdered _ hEdge.1.1) (hOrdered _ hEdge.1.2)
        (hOrdered _ hNext.1.2) hEdge.2 hNext.2
      exact Nat.lt_trans (ih hEdge) hLess
  intro hCircle
  rcases TransGen.head'_iff.mp hCircle with ⟨next, hEdge, _⟩
  exact Nat.lt_irrefl _ (hGrows hCircle hEdge)

end LockOrders

/- A circle passes through a place outside of a set, or stays within the set all the way. -/
theorem exists_outside_or_within {α : Type} {step : α → α → Prop} (Member : α → Prop) {first : α}
    (hCircle : TransGen step first first) :
    (∃ place, ¬ Member place ∧ TransGen step place place) ∨ TransGen
        (fun one other => (Member one ∧ Member other) ∧ step one other)
        first first := by
  have hEither : ∀ last, TransGen step first last → (∃ place, ¬ Member place ∧
      ReflTransGen step first place ∧ ReflTransGen step place last) ∨
    TransGen (fun one other =>
        (Member one ∧ Member other) ∧ step one other) first last := by
    intro last hPath
    induction hPath with
    | @single next hEdge =>
      by_cases hFirst : Member first
      · by_cases hNext : Member next
        · exact .inr (.single ⟨⟨hFirst, hNext⟩, hEdge⟩)
        · exact .inl ⟨next, hNext, .single hEdge, .refl⟩
      · exact .inl ⟨first, hFirst, .refl, .single hEdge⟩
    | @tail middle next hPath hEdge ih =>
      rcases ih with ⟨place, hPlace, hTo, hFrom⟩ | hWithin
      · exact .inl ⟨place, hPlace, hTo, hFrom.tail hEdge⟩
      · by_cases hNext : Member next
        · have hMiddle : Member middle := by
            rcases TransGen.tail'_iff.mp hWithin with ⟨_, _, hLast⟩
            exact hLast.1.2
          exact .inr (hWithin.tail ⟨⟨hMiddle, hNext⟩, hEdge⟩)
        · exact .inl ⟨next, hNext, hPath.to_reflTransGen.tail hEdge, .refl⟩
  rcases hEither first hCircle with ⟨place, hPlace, hTo, hFrom⟩ | hWithin
  · exact .inl ⟨place, hPlace, .trans_right hFrom (hCircle.trans_left hTo)⟩
  · exact .inr hWithin

end PamOlive.Foundations
