import PamOlive.Console.RoleForm
import PamOlive.Foundations.Lines

/-
  The command rules of the form for access policies.

  Rules are entered one a line, but commas end a rule as well: one with a comma is stored as two.
  What was stored once is stored again unchanged.
-/

---- The Field

namespace PamOlive.Console

open Foundations List Lines
open Foundations.CodePoint (isSpace)
open Rbac (hasNoNull)

/- The boundaries of `str.splitlines`. -/
def isLineBoundary (point : CodePoint) : Bool :=
  let code := point.val
  decide ((10 ≤ code ∧ code ≤ 13) ∨ (28 ≤ code ∧ code ≤ 30) ∨ code = 0x85 ∨ code = 0x2028 ∨
    code = 0x2029)

/- `str.splitlines`, given the line read so far. -/
def splitLinesFrom : Text → Text → List Text
| current, [] => if current = [] then [] else [current]
| current, 13 :: 10 :: rest => current :: splitLinesFrom [] rest
| current, point :: rest =>
  if isLineBoundary point then current :: splitLinesFrom [] rest
  else splitLinesFrom (current ++ [point]) rest

/- `text.replace(",", "\n")`. -/
def commasReplaced (text : Text) : Text := text.map (fun point => if point = 44 then 10 else point)

/- The stripped lines that are not blank. -/
def patternsOf (text : Text) : List Text :=
  ((splitLinesFrom [] (commasReplaced text)).map Text.strip).filter (fun item => !item.isEmpty)

/- The text of the `re.error` of a pattern, if it does not compile. -/
abbrev RegexErrors := Text → Option Text

/- `_clean_command_patterns`: the patterns, and the errors of the field. -/
def cleanCommandPatterns (regexError : RegexErrors) (text : Text) : List Text × List Text :=
  let patterns := patternsOf text
  (patterns, patterns.filterMap (fun pattern => (regexError pattern).map (fun error =>
    "Expression invalide « " ++ pattern ++ " » : " ++ error ++ ".")))

/- The field of a form: stripped, without a null, and cleaned. -/
def submitPatterns (regexError : RegexErrors) (value : Text) : Except (List Text) (List Text) := do
  require (hasNoNull value.strip = true) ["Null characters are not allowed."]
  let cleaned := cleanCommandPatterns regexError value.strip
  require (cleaned.2 = []) cleaned.2
  return cleaned.1

/- `"\n".join`, and what a browser submits for it. -/
def joinLines (newline : Text) : List Text → Text
| [] => []
| [line] => line
| line :: rest => line ++ newline ++ joinLines newline rest

---- Pieces

variable {regexError : RegexErrors} {text newline : Text} {patterns stored : List Text}

/- What ends a rule. -/
def isRuleEnd (point : CodePoint) : Bool := decide (point = 44) || isLineBoundary point

theorem filter_splitLinesFrom {keep : Text → Bool} (hEmpty : keep [] = false)
    (current symbols : Text) : (splitLinesFrom current symbols).filter keep =
      (closedFrom isLineBoundary current symbols ++
        [openFrom isLineBoundary current symbols]).filter keep := by
  fun_induction splitLinesFrom current symbols with
  | case1 => simp [hEmpty]
  | case2 current hNonempty => simp
  | case3 current rest ih =>
    have hReturn : isLineBoundary 13 = true := rfl
    have hNewline : isLineBoundary 10 = true := rfl
    simp [closedFrom, openFrom, hReturn, hNewline, hEmpty, filter_cons, ih]
  | case4 current point rest _ hBoundary ih =>
    simp [closedFrom, openFrom, hBoundary, filter_cons, ih]
  | case5 current point rest _ hBoundary ih =>
    simp [closedFrom, openFrom, hBoundary, ih]

theorem closedFrom_commasReplaced (current text : Text) :
    closedFrom isLineBoundary current (commasReplaced text) = closedFrom isRuleEnd current text ∧
      openFrom isLineBoundary current (commasReplaced text) = openFrom isRuleEnd current text := by
  have hNewline : isLineBoundary 10 = true := rfl
  unfold commasReplaced
  induction text generalizing current with
  | nil => exact ⟨rfl, rfl⟩
  | cons point rest ih =>
    by_cases hComma : point = 44
    · simp [closedFrom, openFrom, isRuleEnd, hComma, hNewline, ih]
    · simp [closedFrom, openFrom, isRuleEnd, hComma, ih]

theorem patternsOf_eq (text : Text) : patternsOf text =
    ((words isRuleEnd text).map Text.strip).filter (fun item => !item.isEmpty) := by
  have hReplaced := closedFrom_commasReplaced [] text
  unfold patternsOf
  rw [filter_map, filter_splitLinesFrom rfl, hReplaced.1, hReplaced.2, words_eq, filter_map,
    filter_filter]
  congr 1
  refine filter_congr fun item _ => ?_
  cases item with
  | nil => rfl
  | cons point rest => simp

---- Rules

/- A rule that is not blank, trimmed, on one line, and compiles. -/
structure IsRule (regexError : RegexErrors) (pattern : Text) : Prop where
  nonempty : pattern ≠ []
  trimmed : pattern.strip = pattern
  oneLine : pattern.any isLineBoundary = false
  compiles : regexError pattern = none

/- Neither a comma nor a null. -/
def Plain (pattern : Text) : Prop := 44 ∉ pattern ∧ hasNoNull pattern = true

theorem submitPatterns_eq_ok_iff : submitPatterns regexError text = .ok stored ↔
    hasNoNull text.strip = true ∧ (∀ pattern ∈ stored, regexError pattern = none) ∧
      patternsOf text.strip = stored := by
  unfold submitPatterns cleanCommandPatterns
  simp only [require_bind_eq_ok_iff, pure_eq_ok_iff, filterMap_eq_nil_iff, Option.map_eq_none_iff]
  refine and_congr_right fun _ => ?_
  constructor
  all_goals
    rintro ⟨hErrors, rfl⟩
    exact ⟨hErrors, rfl⟩

theorem isRule_of_submitPatterns (hStored : submitPatterns regexError text = .ok stored) :
    ∀ pattern ∈ stored, IsRule regexError pattern ∧ Plain pattern := by
  rcases submitPatterns_eq_ok_iff.mp hStored with ⟨hNull, hErrors, rfl⟩
  intro pattern hMem
  have hCompiles := hErrors pattern hMem
  rw [patternsOf_eq, mem_filter, mem_map] at hMem
  rcases hMem with ⟨⟨word, hWord, rfl⟩, hKept⟩
  have hClean := fun point hPoint => (mem_words isRuleEnd hWord).2 point
    (Text.mem_of_mem_strip hPoint)
  simp only [isRuleEnd, Bool.or_eq_false_iff, decide_eq_false_iff_not] at hClean
  refine ⟨⟨by simpa using hKept, Text.strip_idempotent word, ?_, hCompiles⟩,
    fun hComma => (hClean 44 hComma).1 rfl, ?_⟩
  · rw [any_eq_false]
    exact fun point hPoint => by simp [(hClean point hPoint).2]
  · unfold hasNoNull at hNull ⊢
    rw [all_eq_true] at hNull ⊢
    exact fun point hPoint =>
      hNull point (mem_of_mem_words isRuleEnd hWord (Text.mem_of_mem_strip hPoint))

theorem strip_joinLines (hLines : ∀ line ∈ patterns, line ≠ [] ∧ line.strip = line) :
    (joinLines newline patterns).strip = joinLines newline patterns ∧
      (patterns ≠ [] → joinLines newline patterns ≠ []) := by
  induction patterns with
  | nil => exact ⟨rfl, fun hNil => absurd rfl hNil⟩
  | cons line rest ih =>
    have hLine := hLines line mem_cons_self
    rcases rest with _ | ⟨second, others⟩
    · exact ⟨hLine.2, fun _ => hLine.1⟩
    have hRest := ih (fun other hOther => hLines other (mem_cons_of_mem line hOther))
    have hMore := hRest.2 (cons_ne_nil second others)
    have hEnds := (Text.strip_eq_self_iff hLine.1).mp hLine.2
    have hEnds' := (Text.strip_eq_self_iff hMore).mp hRest.1
    have hWhole : line ++ newline ++ joinLines newline (second :: others) ≠ [] := by
      simp [hLine.1]
    refine ⟨(Text.strip_eq_self_iff hWhole).mpr ⟨?_, ?_⟩, fun _ => hWhole⟩
    · simp [hLine.1, hEnds.1]
    · simp [hMore, hEnds'.2]

/- How a line ends in a text that is joined or submitted. -/
def IsNewline (newline : Text) : Prop := newline = [10] ∨ newline = [13, 10]

section

variable (hNewline : IsNewline newline)

include hNewline

theorem words_joinLines
    (hLines : ∀ line ∈ patterns, line ≠ [] ∧ ∀ point ∈ line, isRuleEnd point = false) :
    words isRuleEnd (joinLines newline patterns) = patterns := by
  induction patterns with
  | nil => rfl
  | cons line rest ih =>
    have hLine := hLines line mem_cons_self
    have hRest := ih (fun other hOther => hLines other (mem_cons_of_mem line hOther))
    rcases rest with _ | ⟨second, others⟩
    · exact words_singleton isRuleEnd hLine
    · change words isRuleEnd (line ++ newline ++ joinLines newline (second :: others)) = _
      rcases hNewline with rfl | rfl
      · rw [append_assoc, singleton_append, words_append isRuleEnd hLine rfl, hRest]
      · rw [append_assoc, cons_append, words_append isRuleEnd hLine rfl, singleton_append,
          words_break_cons isRuleEnd rfl, hRest]

theorem hasNoNull_joinLines : hasNoNull (joinLines newline patterns) = true ↔
    ∀ pattern ∈ patterns, hasNoNull pattern = true := by
  induction patterns with
  | nil => simp [joinLines, hasNoNull]
  | cons line rest ih =>
    rcases rest with _ | ⟨second, others⟩
    · simp [joinLines]
    · have hJoin : joinLines newline (line :: second :: others) =
        line ++ newline ++ joinLines newline (second :: others) := rfl
      rw [hJoin, forall_mem_cons, ← ih]
      rcases hNewline with rfl | rfl <;> simp [hasNoNull]

theorem submitPatterns_joinLines
    (hRules : ∀ pattern ∈ patterns, IsRule regexError pattern ∧ Plain pattern) :
    submitPatterns regexError (joinLines newline patterns) = .ok patterns := by
  have hTrimmed := fun pattern hMem =>
    And.intro (hRules pattern hMem).1.nonempty (hRules pattern hMem).1.trimmed
  have hWords : words isRuleEnd (joinLines newline patterns) = patterns := by
    refine words_joinLines hNewline fun line hLine => ⟨(hRules line hLine).1.nonempty, ?_⟩
    intro point hPoint
    have hComma : point ≠ 44 := fun hSame => (hRules line hLine).2.1 (hSame ▸ hPoint)
    simpa [isRuleEnd, hComma] using any_eq_false.mp (hRules line hLine).1.oneLine point hPoint
  rw [submitPatterns_eq_ok_iff, (strip_joinLines hTrimmed).1, patternsOf_eq, hWords]
  refine ⟨(hasNoNull_joinLines hNewline).mpr fun pattern hMem => (hRules pattern hMem).2.2,
    fun pattern hMem => (hRules pattern hMem).1.compiles, ?_⟩
  rw [map_congr_left fun pattern hMem => (hTrimmed pattern hMem).2, map_id', filter_eq_self]
  intro pattern hMem
  simp [(hTrimmed pattern hMem).1]

end

/- Rules are stored as entered exactly when none has a comma or a null, and then again. -/
theorem command_rules_stored_iff (hNewline : IsNewline newline)
    (hRules : ∀ pattern ∈ patterns, IsRule regexError pattern) :
    (submitPatterns regexError (joinLines newline patterns) = .ok patterns ↔
      ∀ pattern ∈ patterns, Plain pattern) ∧
    ∀ text stored, submitPatterns regexError text = .ok stored →
      submitPatterns regexError (joinLines newline stored) = .ok stored := by
  refine ⟨⟨fun hStored pattern hMem => ?_, fun hPlain => ?_⟩, fun text stored hStored => ?_⟩
  · exact (isRule_of_submitPatterns hStored pattern hMem).2
  · exact submitPatterns_joinLines hNewline fun pattern hMem =>
      ⟨hRules pattern hMem, hPlain pattern hMem⟩
  · exact submitPatterns_joinLines hNewline (isRule_of_submitPatterns hStored)

theorem command_rules_stored_sample : submitPatterns (fun _ => none)
    (joinLines [13, 10] ["^sudo", "rm -rf"]) = .ok ["^sudo", "rm -rf"] := by
  refine ((command_rules_stored_iff (.inr rfl) ?_).1).mpr ?_
  · intro pattern hMem
    simp only [mem_cons, not_mem_nil, or_false] at hMem
    rcases hMem with rfl | rfl <;> exact ⟨by decide, by decide +kernel, by decide, rfl⟩
  · intro pattern hMem
    simp only [mem_cons, not_mem_nil, or_false] at hMem
    rcases hMem with rfl | rfl <;> exact ⟨by decide, by decide +kernel⟩

/- The rule `a{1,3}` is stored as two. -/
theorem counted_rule_split : submitPatterns (fun _ => none) (joinLines [10] ["a\x7b1,3\x7d"]) =
    .ok ["a\x7b1", "3\x7d"] := by
  decide +kernel

end PamOlive.Console
