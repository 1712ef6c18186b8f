import PamOlive.Database.Models

/-
  Business justifications.

  A justification is normalized for a ticket and again at its redemption, which accepts what the
  first pass returned.
-/

---- Normalization

namespace PamOlive

open Foundations

def minJustificationLength : Nat := 10

def maxJustificationLength : Nat := 1000

/- Whitespace runs become single blanks, the ends are stripped, and the length is checked. -/
def normalizeJustification (value : Text) : Except Failure Text := do
  let justification := Text.strip (Text.collapse value)
  require (minJustificationLength ≤ justification.length) (.validationError
    ("A business justification of at least " ++ Text.decimal minJustificationLength ++
      " characters is required."))
  require (justification.length ≤ maxJustificationLength) (.validationError (Text.ofString
    "The business justification cannot exceed " ++ Text.decimal maxJustificationLength ++
    " characters."))
  return justification

variable {value justification : Text}

theorem normalizeJustification_eq_ok_iff : normalizeJustification value = .ok justification ↔
    justification = Text.strip (Text.collapse value) ∧
      minJustificationLength ≤ justification.length ∧
      justification.length ≤ maxJustificationLength := by
  unfold normalizeJustification
  simp only [require_bind_eq_ok_iff, pure_eq_ok_iff]
  constructor
  · rintro ⟨hMin, hMax, rfl⟩
    exact ⟨rfl, hMin, hMax⟩
  · rintro ⟨rfl, hMin, hMax⟩
    exact ⟨hMin, hMax, rfl⟩

theorem normalizeJustification_idempotent
    (hNormal : normalizeJustification value = .ok justification) :
    normalizeJustification justification = .ok justification := by
  rcases normalizeJustification_eq_ok_iff.mp hNormal with ⟨hText, hMin, hMax⟩
  apply normalizeJustification_eq_ok_iff.mpr
  refine ⟨?_, hMin, hMax⟩
  rw [hText, Text.collapse_strip_collapse, Text.strip_idempotent]

end PamOlive
