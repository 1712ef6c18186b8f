import PamOlive.Api.Redemption
import PamOlive.Sessions.Lifecycle

/-
  Justifications that are checked twice.

  The justification of a session is normalized for its ticket and again for the lease of the
  gateway. The second pass finds nothing to do.
-/

---- Normal Justifications

namespace PamOlive.Api

open Foundations CodePoint Text Table Sessions Vault

/- No whitespace at the ends, none twice in a row; the text fits its column and is a fixed point. -/
structure NormalJustification (justification : Text) : Prop where
  starts : ∀ point ∈ justification.head?, isSpace point = false
  ends : ∀ point ∈ justification.getLast?, isSpace point = false
  single : ∀ left first second right, justification = left ++ first :: second :: right →
    isSpace first = true → isSpace second = false
  fits : justification.length ≤ 1000
  fixed : normalizeJustification justification = .ok justification

theorem normal_of_normalizeJustification {value justification : Text}
    (hNormal : normalizeJustification value = .ok justification) :
    NormalJustification justification := by
  rcases normalizeJustification_eq_ok_iff.mp hNormal with ⟨hText, hMin, hMax⟩
  have hNonempty : justification ≠ [] := by
    rintro rfl
    exact absurd hMin (by decide)
  have hStrip : strip justification = justification := by
    rw [hText, strip_idempotent]
  have hEnds := (strip_eq_self_iff hNonempty).mp hStrip
  constructor
  · intro point hPoint
    rw [List.head?_eq_some_head hNonempty, Option.mem_some_iff] at hPoint
    rw [← hPoint]
    exact hEnds.1
  · intro point hPoint
    rw [List.getLast?_eq_some_getLast hNonempty, Option.mem_some_iff] at hPoint
    rw [← hPoint]
    exact hEnds.2
  · intro left first second right hSplit hFirst
    have hCollapsed : CollapsedFrom false justification := by
      have hSame := collapse_strip_collapse value
      rw [← hText] at hSame
      rw [← hSame]
      exact collapsedFrom_collapseFrom false justification
    rw [hSplit] at hCollapsed
    have hPair := hCollapsed.of_append_right
    by_contra hSecond
    simp [CollapsedFrom, hFirst, hSecond] at hPair
  · exact hMax
  · exact normalizeJustification_idempotent hNormal

---- Stored Justifications

/-
  The lease of the gateway for a session, at any time after its ticket was issued: the
  justification is neither refused nor altered.
-/
theorem justification_survives {value justification : Text}
    (hNormal : normalizeJustification value = .ok justification) :
    NormalJustification justification ∧
      ∀ site moment call db session ticket after labels later, call.justification = value →
        issueSessionTicket site moment call db = .ok ((session, ticket), after) →
        lifecycleSystem.Run after labels later →
        ∃ stored, later.sessions.get session.id = some stored ∧ ∀ request sourceIp credential,
            normalizeJustification
              (sessionLeaseCall request sourceIp stored credential).justification =
              .ok justification ∧
            ∀ site moment db lease, newLease site moment
              (sessionLeaseCall request sourceIp stored credential) db = .ok lease →
              lease.justification = session.justification := by
  have hFixed := normal_of_normalizeJustification hNormal
  refine ⟨hFixed, ?_⟩
  intro site moment call db session ticket after labels later hValue hIssue hRun
  rcases issueSessionTicket_eq_ok hIssue with ⟨_, _, _, _, hIssued⟩
  have hSession : justification = session.justification := by
    have hJustified := hIssued.hasJustification
    rw [hValue, hNormal] at hJustified
    injection hJustified
  have hRow : after.sessions.get session.id = some session := get_insert_self hIssued.hasSessions
  have hTerms : HasTerms session.id session later := by
    refine hRun.invariant ?_ ⟨session, hRow, rfl⟩
    intro before label after hBefore hStep
    exact hBefore.step hStep
  rcases hTerms with ⟨stored, hStored, hTerms⟩
  have hSame : stored.justification = session.justification := by
    change (termsOf stored).justification = _
    rw [hTerms]
    rfl
  refine ⟨stored, hStored, ?_⟩
  intro request sourceIp credential
  have hLeased : normalizeJustification
    (sessionLeaseCall request sourceIp stored credential).justification = .ok justification := by
    unfold sessionLeaseCall
    rw [hSame, ← hSession]
    exact hFixed.fixed
  refine ⟨hLeased, ?_⟩
  intro site moment db lease hNew
  rcases newLease_eq_ok_iff.mp hNew with ⟨text, _, _, _, _, hText, _, _, _, _, _, rfl⟩
  rw [hLeased] at hText
  injection hText with hText
  exact hText.symm.trans hSession

theorem justification_survives_sample :
    normalizeJustification "  late\n maintenance " = .ok "late maintenance" ∧
      NormalJustification "late maintenance" := by
  have hNormal : normalizeJustification "  late\n maintenance " = .ok "late maintenance" := by
    decide +kernel
  exact ⟨hNormal, (justification_survives hNormal).1⟩

end PamOlive.Api
