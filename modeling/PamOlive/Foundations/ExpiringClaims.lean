import Mathlib.Data.List.Nodup

/-
  Keys that are claimed once and forgotten after a while.

  A memory holds keys with the instants they were set. Which entries it keeps at an instant is a
  parameter; keys and instants are of arbitrary types.
-/

---- Claiming A Key

namespace PamOlive.Foundations

open List

variable {Key Id Time : Type}

/- Keys, each with the instant it was set. -/
abbrev Seen (Key Time : Type) := List (Key × Time)

def remembered (keeps : Time → Time → Bool) (now : Time) (seen : Seen Key Time) : Seen Key Time :=
  seen.filter (fun entry => keeps entry.2 now)

/- Set a key unless an entry of it is remembered. -/
def claim [DecidableEq Key] (keeps : Time → Time → Bool) (now : Time) (key : Key)
    (seen : Seen Key Time) : Bool × Seen Key Time :=
  let recent := remembered keeps now seen
  if recent.any (fun entry => decide (entry.1 = key)) then (false, recent)
  else (true, recent ++ [(key, now)])

/- A key is remembered at an instant. -/
def Remembers (keeps : Time → Time → Bool) (now : Time) (key : Key) (seen : Seen Key Time) : Prop :=
  ∃ setAt, (key, setAt) ∈ seen ∧ keeps setAt now = true

variable [DecidableEq Key] {keeps : Time → Time → Bool} {now : Time} {key : Key}
variable {seen : Seen Key Time}

theorem remembered_any_iff :
    (remembered keeps now seen).any (fun entry => decide (entry.1 = key)) = true ↔
      Remembers keeps now key seen := by
  unfold remembered Remembers
  simp only [any_eq_true, mem_filter, decide_eq_true_eq]
  constructor
  · rintro ⟨⟨_, setAt⟩, ⟨hMem, hKeeps⟩, rfl⟩
    exact ⟨setAt, hMem, hKeeps⟩
  · rintro ⟨setAt, hMem, hKeeps⟩
    exact ⟨(key, setAt), ⟨hMem, hKeeps⟩, rfl⟩

theorem claim_fst_eq_true_iff :
    (claim keeps now key seen).1 = true ↔ ¬ Remembers keeps now key seen := by
  rw [← @remembered_any_iff Key Time _ keeps now key seen]
  unfold claim
  dsimp only
  split
  · rename_i hAny
    simp [hAny]
  · rename_i hAny
    simp [hAny]

theorem nodup_append_ite_iff {ids : List Id} {id : Id} {added : Prop} [Decidable added] :
    (ids ++ (if added then [id] else [])).Nodup ↔ ids.Nodup ∧ (id ∈ ids → ¬ added) := by
  split
  · rename_i hAdded
    rw [nodup_append_comm, singleton_append, nodup_cons, and_comm]
    simp [hAdded]
  · rename_i hRefused
    simp [hRefused]

end PamOlive.Foundations
