import SubmissionGate.Proofs.Gate.Checks
import SubmissionGate.Proofs.Script.Passes

/-!
# Text that comment removal keeps

One pass keeps every segment that is no comment. A second pass reads the script anew, and where an
attempt at a regular expression failed because of a comment it may take text for a comment that was
code or a literal before. So the text of a script is kept exactly where one pass removes all its
comments; the slashes tell the two cases apart, since a later pass removes some that the first one
kept.
-/

namespace SubmissionGate.Script

open SubmissionGate.Text

/-- The segments of a script stand in a text unchanged and in order, with something else in the
place of each comment. -/
inductive Keeps : List Segment → List Char → Prop where
  | done : Keeps [] []
  | text {segment rest left} (hText : segment.isComment = false) (hRest : Keeps rest left) :
      Keeps (segment :: rest) (segment.text ++ left)
  | comment {segment rest left} (hComment : segment.isComment = true)
      (replacement : List Char) (hRest : Keeps rest left) :
      Keeps (segment :: rest) (replacement ++ left)

theorem keeps_kept (segments : List Segment) : Keeps segments (segments.flatMap Segment.kept) := by
  induction segments with
  | nil => exact .done
  | cons segment rest ih =>
    rw [List.flatMap_cons]
    cases hComment : segment.isComment with
    | true => exact .comment hComment segment.kept ih
    | false =>
      rw [Segment.kept_of_not_comment hComment]
      exact .text hComment ih

theorem Keeps.count_slash {segments : List Segment} {text : List Char} (h : Keeps segments text) :
    (segments.flatMap Segment.kept).count '/' ≤ text.count '/' := by
  induction h with
  | done => exact Nat.le_refl _
  | text hText _ ih =>
    rw [List.flatMap_cons, List.count_append, List.count_append, Segment.kept_of_not_comment hText]
    omega
  | @comment segment _ _ hComment _ _ ih =>
    rw [List.flatMap_cons, List.count_append, List.count_append, segment.count_slash_kept,
      if_pos hComment]
    omega

theorem count_slash_stripWithin (passes : Nat) (source : List Char) :
    (stripWithin passes source).count '/' ≤ source.count '/' := by
  induction passes generalizing source with
  | zero => exact Nat.le_refl _
  | succ passes ih =>
    rw [stripWithin_succ]
    exact Nat.le_trans (ih _) (count_slash_stripPass_le source)

/-- Where the first pass leaves a comment, a slash that it kept is gone in the end. -/
theorem count_slash_stripComments {source : List Char} (h : ¬CommentFree (stripPass source)) :
    (stripComments source).count '/' < (stripPass source).count '/' := by
  rw [stripComments_eq, passLimit, stripWithin_succ, stripWithin_succ]
  exact Nat.lt_of_le_of_lt (count_slash_stripWithin 6 _) (count_slash_stripPass h)

theorem stripComments_of_commentFree {source : List Char} (h : CommentFree (stripPass source)) :
    stripComments source = stripPass source :=
  stripComments_of_stable (stripPass_of_no_comment h)

theorem keeps_stripComments_iff (source : List Char) :
    Keeps (scan source) (stripComments source) ↔ CommentFree (stripPass source) := by
  constructor
  · intro hKeeps
    refine Classical.byContradiction ?_
    intro hComment
    exact Nat.not_lt_of_le hKeeps.count_slash (count_slash_stripComments hComment)
  · intro hFree
    rw [stripComments_of_commentFree hFree]
    exact keeps_kept (scan source)

/-! What a rule looks for -/

/-- A needle that lies in a segment that is no comment is found in a text. -/
def StillFound (source text : List Char) : Prop :=
  ∀ segment ∈ scan source, segment.isComment = false → ∀ rules : List Rules.ForbiddenToken,
    ∀ rule ∈ rules, rule.needle ≠ [] → rule.needle <:+: collapse segment.text →
      rule.needle ∈ (forbiddenUses (collapse text) rules).map (·.needle)

theorem collapse_infix_stripPass {source : List Char} {segment : Segment}
    (hSegment : segment ∈ scan source) (hText : segment.isComment = false) :
    collapse segment.text <:+: collapse (stripPass source) := by
  rw [collapse_stripPass]
  have hKept : segment ∈ (scan source).filter fun segment => !segment.isComment :=
    List.mem_filter.mpr ⟨hSegment, by simp [hText]⟩
  obtain ⟨before, after, hSplit⟩ := List.append_of_mem hKept
  rw [hSplit, List.flatMap_append, List.flatMap_cons, ← List.append_assoc]
  exact List.infix_append _ _ _

theorem stillFound_stripPass (source : List Char) : StillFound source (stripPass source) := by
  intro segment hSegment hText rules rule hRule hNeedle hInside
  exact (Gate.mem_forbiddenUses _ _ rules).mpr
    ⟨hNeedle, hInside.trans (collapse_infix_stripPass hSegment hText), rule, hRule, rfl⟩

/-- One pass keeps the text of every segment that is no comment, and a rule finds what lies in it.
All passes together do so exactly where they come to no more than the one, which is where the first
pass leaves no comment. -/
theorem stripComments_keeps_iff (source : List Char) :
    Keeps (scan source) (stripPass source) ∧ StillFound source (stripPass source) ∧
      (Keeps (scan source) (stripComments source) ↔ CommentFree (stripPass source)) ∧
      (stripComments source = stripPass source ↔ CommentFree (stripPass source)) := by
  refine ⟨keeps_kept _, stillFound_stripPass source, keeps_stripComments_iff source, ?_⟩
  refine ⟨?_, stripComments_of_commentFree⟩
  intro hSame
  rw [← keeps_stripComments_iff, hSame]
  exact keeps_kept (scan source)

/-- A division by an element of an array, whose index is a string behind a comment. Without the
comment the slash starts a regular expression that takes in the quote, and what the string holds
opens a comment that nothing closes. -/
def divisionScript : List Char := "x=\x7b\x7d/a[/*\r*/']//*'];eval(\"code\")".toList

theorem stripComments_hides_call :
    ¬Keeps (scan divisionScript) (stripComments divisionScript) ∧
      ⟨.code, "];eval(".toList, false⟩ ∈ scan divisionScript ∧
      forbiddenUses (collapse (stripPass divisionScript)) Rules.forbiddenTokens =
        [⟨"eval(", "dynamic_code"⟩] ∧
      forbiddenUses (collapse (stripComments divisionScript)) Rules.forbiddenTokens = [] := by
  refine ⟨?_, by decide +kernel, by decide +kernel, by decide +kernel⟩
  rw [keeps_stripComments_iff, ← stripPass_eq_iff]
  decide +kernel

end SubmissionGate.Script
