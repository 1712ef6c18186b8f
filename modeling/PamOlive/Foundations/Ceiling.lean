import Mathlib.Data.Finset.Card
import PamOlive.Foundations.Transition

/-
  A ceiling on the number of rows, checked before each write.

  A save counts the other rows and then writes its own. It sees the rows that are committed and
  what its own transaction wrote; transactions that are open at the same time do not see each other.

  Main declarations:
    * `Save`, `SaveStep`
    * `SaveStep.withinCeiling`
-/

---- Saves

namespace PamOlive.Foundations

/-
  A save: the key; whether the row was read from the table; whether the instance counts; and whether
  the save writes the column that counts, which `update_fields` can leave out.
-/
structure Save (Key : Type) where
  key : Key
  stored : Bool
  counts : Bool
  writes : Bool

variable {Key Failure : Type} [DecidableEq Key]

def Save.others (save : Save Key) (rows : Finset Key) : Finset Key :=
  if save.stored then rows.erase save.key else rows

def Save.write (save : Save Key) (rows : Finset Key) : Finset Key :=
  if save.writes then if save.counts then insert save.key rows else rows.erase save.key else rows

/- The rows that a transaction sees after its own saves. -/
def written (saves : List (Save Key)) (rows : Finset Key) : Finset Key :=
  saves.foldl (fun seen save => save.write seen) rows

/- The committed rows that count, and the saves of open transactions, the oldest first. -/
structure Saving (Key : Type) where
  rows : Finset Key
  pending : List (Nat × Save Key)

def Saving.own (state : Saving Key) (transaction : Nat) : List (Save Key) :=
  (state.pending.filter (fun entry => decide (entry.1 = transaction))).map Prod.snd

def Saving.rest (state : Saving Key) (transaction : Nat) : List (Nat × Save Key) :=
  state.pending.filter (fun entry => decide (entry.1 ≠ transaction))

/- The committed rows as a transaction sees them. -/
def Saving.seen (state : Saving Key) (transaction : Nat) : Finset Key :=
  written (state.own transaction) state.rows

inductive SaveLabel (Key : Type) where
  | check (transaction : Nat) (save : Save Key)
  | commit (transaction : Nat)
  | rollback (transaction : Nat)

/- A save is checked and then written; a rollback, to a savepoint or of everything, undoes saves. -/
inductive SaveStep (check : Save Key → Finset Key → Except Failure Unit) (state : Saving Key) :
    SaveLabel Key → Saving Key → Prop
  | checked {transaction : Nat} {save : Save Key}
    (hCheck : check save (state.seen transaction) = .ok ()) :
    SaveStep check state (.check transaction save)
      { state with pending := state.pending ++ [(transaction, save)] }
  | refused {transaction : Nat} {save : Save Key} {failure : Failure}
    (hCheck : check save (state.seen transaction) = .error failure) :
    SaveStep check state (.check transaction save) state
  | committed {transaction : Nat} : SaveStep check state (.commit transaction)
      ⟨state.seen transaction, state.rest transaction⟩
  | rolledBack {transaction : Nat} {kept : List (Save Key)}
    (hKept : kept <+: state.own transaction) :
    SaveStep check state (.rollback transaction)
      { state with pending := state.rest transaction ++ kept.map (Prod.mk transaction) }

/- A save is checked while no other transaction has a save that is not committed. -/
def Alone (state : Saving Key) : SaveLabel Key → Prop
| .check transaction _ => ∀ entry ∈ state.pending, entry.1 = transaction
| _ => True

---- The Ceiling

/- One transaction at most is open, and whatever it keeps of its saves is within the ceiling. -/
structure WithinCeiling (ceiling : Nat) (state : Saving Key) : Prop where
  alone : ∃ transaction, ∀ entry ∈ state.pending, entry.1 = transaction
  card : ∀ kept, kept <+: state.pending.map Prod.snd → (written kept state.rows).card ≤ ceiling

variable {check : Save Key → Finset Key → Except Failure Unit} {ceiling : Nat}
variable {before after : Saving Key} {label : SaveLabel Key} {transaction : Nat}

theorem WithinCeiling.card_rows (hWithin : WithinCeiling ceiling before) :
    before.rows.card ≤ ceiling :=
  hWithin.card [] List.nil_prefix

theorem Save.card_write_le {save : Save Key} {rows : Finset Key} (hRows : rows.card ≤ ceiling)
    (hRoom : save.counts = true → (save.others rows).card < ceiling) :
    (save.write rows).card ≤ ceiling := by
  unfold Save.write
  split
  · split
    · rename_i hCounts
      have hSubset : insert save.key rows ⊆ insert save.key (save.others rows) := by
        unfold Save.others
        split
        · exact Finset.insert_subset (Finset.mem_insert_self _ _) (Finset.insert_erase_subset _ _)
        · exact Finset.Subset.refl _
      calc (insert save.key rows).card ≤ (insert save.key (save.others rows)).card :=
          Finset.card_le_card hSubset
        _ ≤ (save.others rows).card + 1 := Finset.card_insert_le _ _
        _ ≤ ceiling := hRoom hCounts
    · exact (Finset.card_le_card (Finset.erase_subset _ _)).trans hRows
  · exact hRows

section

variable (hAlone : ∀ entry ∈ before.pending, entry.1 = transaction)

include hAlone

omit [DecidableEq Key] in
theorem own_of_alone : before.own transaction = before.pending.map Prod.snd := by
  unfold Saving.own
  rw [List.filter_eq_self.mpr fun entry hMem => decide_eq_true (hAlone entry hMem)]

omit [DecidableEq Key] in
theorem rest_of_alone : before.rest transaction = [] :=
  List.filter_eq_nil_iff.mpr fun entry hMem => by simp [hAlone entry hMem]

end

/- The saves of a transaction are those of the one that is open, or there are none. -/
theorem WithinCeiling.own_cases (hBefore : WithinCeiling ceiling before) (transaction : Nat) :
    (before.own transaction = before.pending.map Prod.snd ∧ before.rest transaction = []) ∨
      (before.own transaction = [] ∧ before.rest transaction = before.pending) := by
  rcases hBefore.alone with ⟨owner, hAlone⟩
  by_cases hOwner : owner = transaction
  · rw [hOwner] at hAlone
    exact .inl ⟨own_of_alone hAlone, rest_of_alone hAlone⟩
  · refine .inr ⟨?_, ?_⟩
    · unfold Saving.own
      rw [List.filter_eq_nil_iff.mpr fun entry hMem => by simp [hAlone entry hMem, hOwner]]
      rfl
    · exact List.filter_eq_self.mpr fun entry hMem => by simp [hAlone entry hMem, hOwner]

theorem withinCeiling_nil {rows : Finset Key} (hRows : rows.card ≤ ceiling) :
    WithinCeiling ceiling ⟨rows, []⟩ := by
  refine ⟨⟨0, fun _ hMem => absurd hMem List.not_mem_nil⟩, ?_⟩
  intro kept hKept
  rw [List.map_nil, List.prefix_nil] at hKept
  rw [hKept]
  exact hRows

/- While transactions with saves do not overlap, the ceiling holds. -/
theorem SaveStep.withinCeiling (hStep : SaveStep check before label after)
    (hCheck : ∀ save rows, check save rows = .ok () → save.counts = true →
      (save.others rows).card < ceiling)
    (hAlone : Alone before label) (hBefore : WithinCeiling ceiling before) :
    WithinCeiling ceiling after := by
  cases hStep with
  | @checked transaction save hOk =>
    unfold Saving.seen at hOk
    rw [own_of_alone hAlone] at hOk
    refine ⟨⟨transaction, ?_⟩, ?_⟩
    · intro entry hMem
      rcases List.mem_append.mp hMem with hOld | hNew
      · exact hAlone entry hOld
      · rw [List.mem_singleton.mp hNew]
    · intro kept hKept
      rw [List.map_append, List.map_singleton, List.prefix_concat_iff] at hKept
      rcases hKept with rfl | hKept
      · unfold written
        rw [List.foldl_append]
        exact Save.card_write_le (hBefore.card _ (List.prefix_refl _)) (hCheck save _ hOk)
      · exact hBefore.card kept hKept
  | refused _ => exact hBefore
  | @committed transaction =>
    unfold Saving.seen
    rcases hBefore.own_cases transaction with ⟨hOwn, hRest⟩ | ⟨hOwn, hRest⟩
    · rw [hOwn, hRest]
      exact withinCeiling_nil (hBefore.card _ (List.prefix_refl _))
    · rw [hOwn, hRest]
      exact hBefore
  | @rolledBack transaction kept hKept =>
    rcases hBefore.own_cases transaction with ⟨hOwn, hRest⟩ | ⟨hOwn, hRest⟩
    · rw [hOwn] at hKept
      refine ⟨⟨transaction, ?_⟩, ?_⟩
      · intro entry hMem
        rw [hRest, List.nil_append] at hMem
        rcases List.mem_map.mp hMem with ⟨_, _, rfl⟩
        rfl
      · intro saves hSaves
        rw [hRest, List.nil_append, List.map_map] at hSaves
        have hSnd : kept.map (Prod.snd ∘ Prod.mk transaction) = kept := List.map_id kept
        rw [hSnd] at hSaves
        exact hBefore.card saves (hSaves.trans hKept)
    · rw [hOwn, List.prefix_nil] at hKept
      rw [hKept, hRest, List.map_nil, List.append_nil]
      exact hBefore

end PamOlive.Foundations
