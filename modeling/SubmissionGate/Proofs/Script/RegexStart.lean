import SubmissionGate.Proofs.Script.Attempts
import SubmissionGate.Proofs.Script.Operand

/-!
# Where regular expressions start

At every place of a scan the last unit in front of it says whether a slash may start a regular
expression there. One does start exactly if the unit admits it, the end of one is found, and no
attempt failed on the line before. So an operand has a division behind it unless it is a number that
ends loosely; a sign behind an operand, as in `a++`, is taken for the start of an expression.
-/

namespace SubmissionGate.Script

/-- A step allows a regular expression if the last unit of its segment admits one; without a unit
it leaves the answer as it was. -/
def Settles (allowed : Bool) (step : Step) : Prop :=
  step.state.regexAllowed =
    (step.segment.units.getLast?.map LexicalUnit.admitsRegex).getD allowed

theorem Segment.units_code (text : List Char) (nested : Bool) :
    (Segment.mk .code text nested).units.getLast?.map LexicalUnit.admitsRegex =
      admitsRegex text := by
  rw [admitsRegex_lexemes, units, List.getLast?_map, Option.map_map]
  rfl

theorem Segment.units_comment {segment : Segment} (h : segment.isComment = true) :
    segment.units = [] := by
  obtain ⟨kind, text, nested⟩ := segment
  cases kind with
  | lineComment => rfl
  | blockComment => rfl
  | _ => cases h

theorem templateTail_last {source taken : List Char} (h : (templateTail source taken).2.1 ≠ []) :
    (templateTail source taken).1.getLast? =
      some (if (templateTail source taken).2.2 then '\x7b' else '`') := by
  fun_induction templateTail source taken with
  | case1 taken => exact absurd rfl h
  | case2 c rest taken ih => exact ih h
  | case3 rest taken => simp
  | case4 c rest taken _ _ hCloses => simp [beq_iff_eq.mp hCloses]
  | case5 c rest taken _ _ _ ih => exact ih h

namespace ScanState

variable (state : ScanState)

theorem codeStep_settles (source : List Char) : Settles state.regexAllowed (state.codeStep source) := by
  unfold Settles codeStep
  rw [Segment.units_code]

theorem singleStep_settles {c : Char} (h : admitsRegex [c] = some true) (allowed : Bool)
    (rest : List Char) : Settles allowed (state.singleStep c rest) := by
  unfold Settles singleStep
  rw [Segment.units_code, h]
  rfl

theorem templateStep_settles (allowed : Bool) {c : Char} {rest : List Char}
    (h : (state.templateStep c rest).rest ≠ []) :
    Settles allowed (state.templateStep c rest) := by
  have hLast := templateTail_last h
  simp only [Settles, templateStep, Segment.units, List.getLast?_singleton, Option.map_some,
    Option.getD_some, LexicalUnit.admitsRegex, hLast]
  split
  · next hOpened => rw [hOpened]; rfl
  · next hOpened => rw [Bool.eq_false_iff.mpr hOpened]; rfl

theorem slashStep_settles (allowed : Bool) (rest : List Char) :
    Settles allowed (state.slashStep rest) := by
  have hSlash : admitsRegex ['/'] = some true := by decide
  unfold slashStep
  split
  · split
    · rfl
    · exact singleStep_settles _ hSlash allowed rest
  · exact singleStep_settles _ hSlash allowed rest

theorem construct_settles {c : Char} {rest : List Char} (h : (state.construct c rest).rest ≠ []) :
    Settles state.regexAllowed (state.construct c rest) := by
  by_cases hSlash : c = '/'
  · subst hSlash
    cases hOpens : opensComment '/' rest with
    | true =>
      obtain ⟨hState, hComment, -⟩ := state.construct_comment hOpens
      rw [Settles, hState, Segment.units_comment hComment]
      rfl
    | false =>
      rw [construct_slash state hOpens]
      exact state.slashStep_settles _ rest
  · have hOpen : admitsRegex ['\x7b'] = some true := by decide
    have hClose : admitsRegex ['\x7d'] = some true := by decide
    revert h
    unfold construct
    simp only [beq_iff_eq, hSlash, if_false]
    split
    · exact fun _ => rfl
    split
    · exact state.templateStep_settles _
    split
    · next hBrace =>
      subst hBrace
      split
      · split
        · exact templateStep_settles _ _
        · exact fun _ => singleStep_settles _ hClose _ rest
      · exact fun _ => singleStep_settles _ hClose _ rest
    split
    · next hBrace =>
      subst hBrace
      exact fun _ => singleStep_settles _ hOpen _ rest
    · exact fun _ => state.codeStep_settles (c :: rest)

theorem afterText_regexAllowed (text : List Char) :
    (state.afterText text).regexAllowed = state.regexAllowed := by
  unfold afterText
  split
  · rfl
  · rfl

end ScanState

namespace ComesTo

variable {source left rest : List Char} {before : List Segment} {state : ScanState}

/-- Wherever something is left of the script, the last unit in front of it says whether a regular
expression may start. -/
theorem regexAllowed_eq (h : ComesTo .start source before state left) (hLeft : left ≠ []) :
    state.regexAllowed = (lastUnit? before).all LexicalUnit.admitsRegex := by
  induction h with
  | here => rfl
  | @next before state c rest h ih =>
    have hSettles : Settles state.regexAllowed (state.construct c rest) := by
      apply state.construct_settles
      exact hLeft
    have hAllowed : (state.next c rest).state.regexAllowed =
        (state.construct c rest).state.regexAllowed := by
      apply ScanState.afterText_regexAllowed
    rw [hAllowed, hSettles, ih (List.cons_ne_nil c rest), state.next_segment, lastUnit?, lastUnit?,
      List.flatMap_append, List.flatMap_singleton, List.getLast?_append]
    cases (state.construct c rest).segment.units.getLast? with
    | none => rfl
    | some unit => rfl

end ComesTo

def StartsRegex (source : List Char) (before : List Segment) : Prop :=
  ∃ segment after, scan source = before ++ segment :: after ∧ segment.kind = .regex

namespace ComesTo

variable {source rest : List Char} {before : List Segment} {state : ScanState}

theorem startsRegex_iff (h : ComesTo .start source before state ('/' :: rest))
    (hOpens : opensComment '/' rest = false) :
    StartsRegex source before ↔
      state.regexAllowed = true ∧ state.regexBarred = false ∧ closesRegex rest = true := by
  have hKind : (state.slashStep rest).segment.kind = .regex ↔
      state.regexAllowed = true ∧ state.regexBarred = false ∧ closesRegex rest = true := by
    unfold ScanState.slashStep closesRegex
    cases state.regexAllowed with
    | false => simp [ScanState.singleStep]
    | true =>
      cases hBarred : state.regexBarred with
      | true => simp [ScanState.singleStep]
      | false =>
        cases regexTail false rest ['/'] with
        | none => simp [ScanState.singleStep]
        | some found => simp
  have hScan : scan source = before ++ (state.slashStep rest).segment ::
      segmentsFrom (state.next '/' rest).state (state.next '/' rest).rest := by
    rw [← state.construct_slash hOpens, ← state.next_segment, ← segmentsFrom_cons]
    exact h.segmentsFrom_eq
  rw [← hKind, StartsRegex, hScan]
  constructor
  · rintro ⟨segment, after, hSame, hRegex⟩
    rwa [(List.cons.inj (List.append_cancel_left hSame)).1]
  · intro hRegex
    exact ⟨_, _, rfl, hRegex⟩

end ComesTo

/-- The same sign stands twice at the end of what was found, as in `a++`. -/
def EndsInPostfix (before : List Segment) : Prop :=
  ∃ sign, (sign = "+" ∨ sign = "-") ∧
    [.token .punctuation sign, .token .punctuation sign] <:+ before.flatMap Segment.units

theorem EndsInPostfix.admitsRegex {before : List Segment} (h : EndsInPostfix before) :
    (lastUnit? before).all LexicalUnit.admitsRegex = true := by
  obtain ⟨sign, hSign, earlier, hUnits⟩ := h
  rw [lastUnit?, ← hUnits, List.getLast?_append]
  obtain rfl | rfl := hSign
  · rfl
  · rfl

/-- A slash that starts no comment starts a regular expression exactly if the last unit in front of
it admits one, no attempt failed on the line before and the expression comes to its end. Behind an
operand that takes a number that ends loosely; behind `++` and `--` nothing else keeps it away. -/
theorem slash_startsRegex_iff {source rest : List Char} {before : List Segment} {state : ScanState}
    (hPlace : ComesTo .start source before state ('/' :: rest))
    (hOpens : opensComment '/' rest = false) :
    (StartsRegex source before ↔ (lastUnit? before).all LexicalUnit.admitsRegex = true ∧
      ¬BehindFailure .start source before ∧ closesRegex rest = true) ∧
    (∀ unit, lastUnit? before = some unit → unit.IsOperand →
      (StartsRegex source before ↔ unit.IsLooseNumber ∧
        ¬BehindFailure .start source before ∧ closesRegex rest = true)) ∧
    (EndsInPostfix before → (StartsRegex source before ↔
      ¬BehindFailure .start source before ∧ closesRegex rest = true)) := by
  have hStarts : StartsRegex source before ↔
      (lastUnit? before).all LexicalUnit.admitsRegex = true ∧
        ¬BehindFailure .start source before ∧ closesRegex rest = true := by
    rw [hPlace.startsRegex_iff hOpens, hPlace.regexAllowed_eq (List.cons_ne_nil '/' rest),
      ← hPlace.regexBarred_iff rfl, Bool.not_eq_true]
  refine ⟨hStarts, ?_, ?_⟩
  · intro unit hUnit hOperand
    rw [hStarts, hUnit, Option.all_some, hOperand.admitsRegex_iff]
  · intro hPostfix
    rw [hStarts]
    exact and_iff_right hPostfix.admitsRegex

def quotientScript : List Char := "a/2/3".toList

theorem quotientScript_divides :
    ComesTo .start quotientScript [⟨.code, ['a'], false⟩] ⟨0, [], false, false⟩ "/2/3".toList ∧
      opensComment '/' "2/3".toList = false ∧
      ¬StartsRegex quotientScript [⟨.code, ['a'], false⟩] := by
  have hPlace : ComesTo .start quotientScript [⟨.code, ['a'], false⟩] ⟨0, [], false, false⟩
      "/2/3".toList := ComesTo.next .here
  refine ⟨hPlace, rfl, ?_⟩
  obtain ⟨-, hOperand, -⟩ := slash_startsRegex_iff hPlace rfl
  have hName : "a" ∉ wordsBeforeRegex := by decide
  rw [hOperand (.token .name "a") (by decide +kernel) hName]
  exact And.left

/-- Behind a postfix operator the first slash is taken for the start of a regular expression, and
the class of the real one for a comment that nothing closes. -/
def postfixScript : List Char := "a++/2;b=/[/*]/;eval(1)".toList

def pointScript : List Char := "1./2;b=/[/*]/;eval(1)".toList

/-- A regular expression starts behind an operand in both scripts, and a call is lost with it. -/
theorem operand_startsRegex :
    ComesTo .start postfixScript [⟨.code, "a++".toList, false⟩] ⟨0, [], true, false⟩
        "/2;b=/[/*]/;eval(1)".toList ∧
      [⟨.code, "a++".toList, false⟩].flatMap Segment.units =
        [.token .name "a", .token .punctuation "+", .token .punctuation "+"] ∧
      StartsRegex postfixScript [⟨.code, "a++".toList, false⟩] ∧
      ComesTo .start pointScript [⟨.code, "1.".toList, false⟩] ⟨0, [], true, false⟩
        "/2;b=/[/*]/;eval(1)".toList ∧
      lastUnit? [⟨.code, "1.".toList, false⟩] = some (.token .other "1.") ∧
      StartsRegex pointScript [⟨.code, "1.".toList, false⟩] ∧
      forbiddenUses (Text.collapse (stripComments postfixScript)) Rules.forbiddenTokens = [] ∧
      forbiddenUses (Text.collapse (stripComments pointScript)) Rules.forbiddenTokens = [] ∧
      forbiddenUses (Text.collapse postfixScript) Rules.forbiddenTokens =
        [⟨"eval(", "dynamic_code"⟩] := by
  have hPostfix : ComesTo .start postfixScript [⟨.code, "a++".toList, false⟩] ⟨0, [], true, false⟩
      "/2;b=/[/*]/;eval(1)".toList := ComesTo.next .here
  have hPoint : ComesTo .start pointScript [⟨.code, "1.".toList, false⟩] ⟨0, [], true, false⟩
      "/2;b=/[/*]/;eval(1)".toList := ComesTo.next .here
  have hCloses : closesRegex "2;b=/[/*]/;eval(1)".toList = true := by decide
  refine ⟨hPostfix, by decide +kernel, ?_, hPoint, by decide +kernel, ?_,
    by decide +kernel, by decide +kernel, by decide +kernel⟩
  · exact (hPostfix.startsRegex_iff rfl).mpr ⟨rfl, rfl, hCloses⟩
  · exact (hPoint.startsRegex_iff rfl).mpr ⟨rfl, rfl, hCloses⟩

end SubmissionGate.Script
