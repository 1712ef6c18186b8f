import PamOlive.Database.Models
import PamOlive.Foundations.Ceiling

/-
  The ceilings of a licence on active users and on targets.

  A `pre_save` signal counts the other rows and takes no lock: it sees what is committed and what
  its own transaction wrote, and not the saves of other open transactions.

  Main declarations:
    * `enforceActiveUserLimit`, `enforceTargetLimit`
    * `licence_ceilings_hold`
    * `licence_blocks_growth`
-/

---- Limits

namespace PamOlive.Licensing

open Foundations Finset

structure LicenseStatus where
  edition : Text
  valid : Bool
  maxUsers : Option Nat
  maxTargets : Option Nat

def enforceLimit {Key : Type} [DecidableEq Key] (valid : Bool) (limit : Option Nat)
    (message : Nat → Text) (save : Save Key) (rows : Finset Key) : Except Failure Unit :=
  match limit with
  | none => .ok ()
  | some limit =>
    if valid && save.counts && decide (limit ≤ (save.others rows).card) then
      .error (.validationError (message limit))
    else .ok ()

section

variable (status : LicenseStatus)

def limitMessage (counted : Text) (limit : Nat) : Text :=
  ("L'édition " : Text) ++ status.edition ++ " limite l'instance à " ++ Text.decimal limit ++
    counted

/- `enforce_active_user_limit`; an inactive user does not count. -/
def enforceActiveUserLimit : Save UserId → Finset UserId → Except Failure Unit :=
  enforceLimit status.valid status.maxUsers (limitMessage status " utilisateurs actifs.")

/- `enforce_target_limit`; every target counts. -/
def enforceTargetLimit : Save Uuid → Finset Uuid → Except Failure Unit :=
  enforceLimit status.valid status.maxTargets (limitMessage status " targets.")

end

theorem enforceLimit_eq_ok_iff {Key : Type} [DecidableEq Key] {limit : Option Nat}
    {message : Nat → Text} {save : Save Key} {rows : Finset Key} :
    enforceLimit true limit message save rows = .ok () ↔
      (save.counts = true → ∀ ceiling ∈ limit, (save.others rows).card < ceiling) := by
  unfold enforceLimit
  cases limit with
  | none => simp
  | some ceiling => simp

---- Saves Of Both Tables

structure LicensedState where
  users : Saving UserId
  targets : Saving Uuid

inductive LicenceLabel where
  | user (label : SaveLabel UserId)
  | target (label : SaveLabel Uuid)

inductive LicenceStep (status : LicenseStatus) (state : LicensedState) :
    LicenceLabel → LicensedState → Prop
  | user {label : SaveLabel UserId} {users : Saving UserId}
    (hStep : SaveStep (enforceActiveUserLimit status) state.users label users) :
    LicenceStep status state (.user label) { state with users := users }
  | target {label : SaveLabel Uuid} {targets : Saving Uuid}
    (hStep : SaveStep (enforceTargetLimit status) state.targets label targets) :
    LicenceStep status state (.target label) { state with targets := targets }

/- Start within the limits, and without an open transaction. -/
def licenceSystem (status : LicenseStatus) : TransitionSystem LicensedState LicenceLabel where
  init := fun state =>
    state.users.pending = [] ∧ state.targets.pending = [] ∧
      (∀ limit, status.maxUsers = some limit → state.users.rows.card ≤ limit) ∧
      ∀ limit, status.maxTargets = some limit → state.targets.rows.card ≤ limit
  step := LicenceStep status

/- No save is checked while another transaction has saves of its table that are not committed. -/
def Separate (state : LicensedState) : LicenceLabel → Prop
| .user label => Alone state.users label
| .target label => Alone state.targets label

variable {status : LicenseStatus} {maxUsers maxTargets : Nat}
variable {start finish : LicensedState} {labels : List LicenceLabel}

structure WithinLimits (users targets : Nat) (state : LicensedState) : Prop where
  users : WithinCeiling users state.users
  targets : WithinCeiling targets state.targets

theorem WithinLimits.step {before after : LicensedState} {label : LicenceLabel}
    (hValid : status.valid = true) (hUsers : status.maxUsers = some maxUsers)
    (hTargets : status.maxTargets = some maxTargets)
    (hBefore : WithinLimits maxUsers maxTargets before)
    (hAlone : Separate before label) (hStep : LicenceStep status before label after) :
    WithinLimits maxUsers maxTargets after := by
  cases hStep with
  | user hStep =>
    refine ⟨hStep.withinCeiling ?_ hAlone hBefore.users, hBefore.targets⟩
    intro save rows hOk
    rw [enforceActiveUserLimit, hValid, hUsers, enforceLimit_eq_ok_iff] at hOk
    exact fun hCounts => hOk hCounts maxUsers rfl
  | target hStep =>
    refine ⟨hBefore.users, hStep.withinCeiling ?_ hAlone hBefore.targets⟩
    intro save rows hOk
    rw [enforceTargetLimit, hValid, hTargets, enforceLimit_eq_ok_iff] at hOk
    exact fun hCounts => hOk hCounts maxTargets rfl

/- The ceilings hold while transactions that save rows of one table do not overlap. -/
theorem licence_ceilings_hold (hValid : status.valid = true)
    (hUsers : status.maxUsers = some maxUsers) (hTargets : status.maxTargets = some maxTargets)
    (hStart : (licenceSystem status).init start)
    (hRun : (licenceSystem status).Guarded Separate start labels finish) :
    finish.users.rows.card ≤ maxUsers ∧ finish.targets.rows.card ≤ maxTargets := by
  have hWithin : WithinLimits maxUsers maxTargets start := by
    rcases start with ⟨⟨users, _⟩, ⟨targets, _⟩⟩
    rcases hStart with ⟨rfl, rfl, hFew, hFew'⟩
    exact ⟨withinCeiling_nil (hFew maxUsers hUsers), withinCeiling_nil (hFew' maxTargets hTargets)⟩
  have hFinish := hRun.invariant
    (fun _ _ _ hBefore hAlone hStep => hBefore.step hValid hUsers hTargets hAlone hStep) hWithin
  exact ⟨hFinish.users.card_rows, hFinish.targets.card_rows⟩

---- Two Overlapping Transactions

def sampleStatus : LicenseStatus where
  edition := "lab"
  valid := true
  maxUsers := some 1
  maxTargets := some 1

def emptyState : LicensedState := ⟨⟨∅, []⟩, ⟨∅, []⟩⟩

def newUser (key : UserId) : Save UserId := ⟨key, false, true, true⟩

theorem emptyState_init : (licenceSystem sampleStatus).init emptyState := by
  simp [licenceSystem, emptyState]

/- One transaction replaces its user by another; the next one is refused a third. -/
def replacing (first second third : UserId) : List LicenceLabel :=
  [.user (.check 0 (newUser first)), .user (.check 0 ⟨first, true, false, true⟩),
    .user (.check 0 (newUser second)), .user (.commit 0), .user (.check 1 (newUser third))]

theorem licence_ceilings_sample :
    ∃ finish, (licenceSystem sampleStatus).Guarded Separate emptyState (replacing 1 2 3) finish ∧
    finish.users.rows = {2} ∧ finish.users.rows.card ≤ 1 ∧ finish.targets.rows.card ≤ 1 := by
  have hRun : (licenceSystem sampleStatus).Guarded Separate emptyState (replacing 1 2 3)
    ⟨⟨{2}, []⟩, ⟨∅, []⟩⟩ :=
    .cons (by simp [Separate, Alone, emptyState]) (.user (.checked rfl))
      (.cons (by simp [Separate, Alone, emptyState]) (.user (.checked rfl))
      (.cons (by simp [Separate, Alone, emptyState]) (.user (.checked rfl))
      (.cons trivial (.user .committed)
      (.cons (by simp [Separate, Alone, Saving.rest, emptyState]) (.user (.refused rfl))
      (.nil _)))))
  exact ⟨_, hRun, rfl, licence_ceilings_hold rfl rfl rfl emptyState_init hRun⟩

/- Both transactions are checked before either is committed. -/
theorem overlapping_saves_exceed : ∃ finish, (licenceSystem sampleStatus).Run emptyState
    [.user (.check 0 (newUser 1)), .user (.check 1 (newUser 2)), .user (.commit 0),
      .user (.commit 1)] finish ∧
    finish.users.rows.card = 2 := by
  refine ⟨_, .cons (.user (.checked rfl)) (.cons (.user (.checked rfl)) (.cons
    (.user .committed) (.cons (.user .committed) (.nil _)))), ?_⟩
  decide

---- Growth

/-
  When two checks block growth only, the second of a licence that is not valid: a save adds no row,
  or a row that was not counted and that the second licence allows.
-/
structure BlocksGrowth {Key : Type} [DecidableEq Key] (limit : Option Nat)
    (check invalid : Save Key → Finset Key → Except Failure Unit) (rows : Finset Key) : Prop where
  kept : ∀ save, save.stored = true → (save.write rows).card ≤ rows.card →
    (check save rows = .ok () ↔ (save.counts = true → ∀ ceiling ∈ limit, rows.card ≤ ceiling ∧
      (rows.card = ceiling → save.key ∈ rows)))
  added : ∀ save, save.key ∉ rows → ((invalid save rows = .ok () → check save rows = .ok ()) ↔
    (save.counts = true → ∀ ceiling ∈ limit, rows.card < ceiling))

theorem enforceLimit_blocksGrowth {Key : Type} [DecidableEq Key] (limit other : Option Nat)
    (message otherMessage : Nat → Text) (rows : Finset Key) :
    BlocksGrowth limit (enforceLimit true limit message) (enforceLimit false other otherMessage)
      rows where
  kept save hStored _ := by
    rw [enforceLimit_eq_ok_iff, Save.others, if_pos hStored]
    refine forall_congr' fun hCounts => forall₂_congr fun ceiling _ => ?_
    by_cases hMem : save.key ∈ rows
    · rw [← card_erase_add_one hMem, Nat.succ_le_iff]
      simp [hMem]
    · -- the instance is stale: the table does not count its row
      rw [erase_eq_of_notMem hMem, lt_iff_le_and_ne]
      simp [hMem]
  added save hNew := by
    have hOthers : save.others rows = rows := by
      unfold Save.others
      rw [erase_eq_of_notMem hNew, ite_self]
    have hAllowed : enforceLimit false other otherMessage save rows = .ok () := by
      cases other with
      | none => rfl
      | some ceiling => rfl
    rw [enforceLimit_eq_ok_iff, hOthers]
    exact ⟨fun hBlocks => hBlocks hAllowed, fun hRoom _ => hRoom⟩

/-
  A save that adds no row is refused only above the limit, or at the limit if the instance counts
  and its row does not. A licence that is not valid refuses nothing: it allows no more than the
  valid one only below the limit.
-/
theorem licence_blocks_growth {valid invalid : LicenseStatus} (hValid : valid.valid = true)
    (hInvalid : invalid.valid = false) (users : Finset UserId) (targets : Finset Uuid) :
    BlocksGrowth valid.maxUsers (enforceActiveUserLimit valid) (enforceActiveUserLimit invalid)
        users ∧
      BlocksGrowth valid.maxTargets (enforceTargetLimit valid) (enforceTargetLimit invalid)
        targets := by
  unfold enforceActiveUserLimit enforceTargetLimit
  rw [hValid, hInvalid]
  exact ⟨enforceLimit_blocksGrowth _ _ _ _ _, enforceLimit_blocksGrowth _ _ _ _ _⟩

def expiredStatus : LicenseStatus := ⟨"business", false, none, none⟩

theorem licence_blocks_growth_sample : sampleStatus.valid = true ∧ expiredStatus.valid = false ∧
    BlocksGrowth (some 1) (enforceActiveUserLimit sampleStatus)
      (enforceActiveUserLimit expiredStatus) {1} :=
  ⟨rfl, rfl, (@licence_blocks_growth sampleStatus expiredStatus rfl rfl {1} ∅).1⟩

/- Two users under a limit of one; a stale instance of a disabled user; an expired licence. -/
theorem crowded_table_refused :
    (∃ failure, enforceActiveUserLimit sampleStatus ⟨1, true, true, true⟩ {1, 2} = .error failure) ∧
      (∃ failure, enforceActiveUserLimit sampleStatus ⟨1, true, true, false⟩ {2} = .error failure) ∧
      (∃ failure, enforceActiveUserLimit sampleStatus (newUser 3) {1, 2} = .error failure) ∧
      enforceActiveUserLimit expiredStatus (newUser 3) {1, 2} = .ok () :=
  ⟨⟨_, rfl⟩, ⟨_, rfl⟩, ⟨_, rfl⟩, rfl⟩

end PamOlive.Licensing
