import Mathlib.Algebra.GroupWithZero.Nat
import Mathlib.Algebra.Order.BigOperators.Group.List
import Mathlib.Algebra.Order.Group.Nat
import Mathlib.Logic.Function.Iterate
import SubmissionGate.Proofs.Script.Partition
import SubmissionGate.Proofs.Script.Passes

/-!
# The progress of passes

A comment of any shape starts with two characters that are no line breaks, and a pass leaves of it
its line breaks or one blank. So a pass that finds a comment shortens the script and none moves a
line. As many passes as a script has characters are enough to leave no comment.
-/

namespace SubmissionGate.Script

theorem mem_scan_shaped {source : List Char} {segment : Segment} (h : segment ∈ scan source) :
    ∃ left, Shaped segment.kind segment.text left := by
  obtain ⟨before, after, hSplit⟩ := List.append_of_mem h
  exact ⟨_, (segmentsFrom_shaped .start source before segment after hSplit).2⟩

namespace Shaped

variable {text left : List Char}

theorem lineComment_text (h : Shaped .lineComment text left) :
    ∃ inner, text = '/' :: '/' :: inner ∧ '\n' ∉ inner := by
  cases h with
  | lineComment hInner _ => exact ⟨_, rfl, hInner⟩

theorem blockComment_text (h : Shaped .blockComment text left) :
    ∃ inner, text = '/' :: '*' :: inner := by
  cases h with
  | closedBlock _ => exact ⟨_, rfl⟩
  | openBlock _ => exact ⟨_, rfl⟩

end Shaped

/-! What a pass makes of one segment -/

namespace Segment

variable {segment : Segment} {left : List Char}

theorem count_newline_kept (h : Shaped segment.kind segment.text left) :
    segment.kept.count '\n' = segment.text.count '\n' := by
  obtain ⟨kind, text, nested⟩ := segment
  cases kind with
  | lineComment =>
    obtain ⟨inner, rfl, hInner⟩ := h.lineComment_text
    have hNone : inner.count '\n' = 0 := List.count_eq_zero_of_not_mem hInner
    simp [kept, hNone]
  | blockComment =>
    simp only [kept]
    split
    · next hNone =>
      rw [beq_iff_eq.mp hNone]
      rfl
    · exact List.count_replicate_self
  | _ => rfl

theorem length_kept_comment (h : Shaped segment.kind segment.text left)
    (hComment : segment.isComment = true) : segment.kept.length < segment.text.length := by
  obtain ⟨kind, text, nested⟩ := segment
  cases kind with
  | lineComment =>
    obtain ⟨inner, rfl, -⟩ := h.lineComment_text
    exact Nat.succ_pos _
  | blockComment =>
    obtain ⟨inner, rfl⟩ := h.blockComment_text
    have hBreaks : ('/' :: '*' :: inner).count '\n' ≤ inner.length := by
      rw [List.count_cons_of_ne (by decide), List.count_cons_of_ne (by decide)]
      exact List.count_le_length
    simp only [kept]
    split
    · simp
    · rw [List.length_replicate, List.length_cons, List.length_cons]
      omega
  | _ => cases hComment

theorem length_kept_le (h : Shaped segment.kind segment.text left) :
    segment.kept.length ≤ segment.text.length := by
  cases hComment : segment.isComment with
  | true => exact (length_kept_comment h hComment).le
  | false => rw [kept_of_not_comment hComment]

end Segment

/-! What a pass makes of a script -/

theorem count_newline_stripPass (source : List Char) :
    (stripPass source).count '\n' = source.count '\n' := by
  have hSegments : (scan source).map (List.count '\n' ∘ Segment.kept) =
      (scan source).map (List.count '\n' ∘ (·.text)) := by
    apply List.map_congr_left
    intro segment hSegment
    obtain ⟨left, hShaped⟩ := mem_scan_shaped hSegment
    exact Segment.count_newline_kept hShaped
  calc
    (stripPass source).count '\n' = ((scan source).map (List.count '\n' ∘ Segment.kept)).sum :=
      List.count_flatMap
    _ = ((scan source).map (List.count '\n' ∘ (·.text))).sum := by rw [hSegments]
    _ = ((scan source).flatMap (·.text)).count '\n' := List.count_flatMap.symm
    _ = source.count '\n' := by rw [scan_spell]

theorem length_stripPass_lt {source : List Char} (h : ¬CommentFree source) :
    (stripPass source).length < source.length := by
  obtain ⟨segment, hSegment, hComment⟩ : ∃ segment ∈ scan source, segment.isComment = true := by
    simpa [CommentFree] using h
  obtain ⟨left, hShaped⟩ := mem_scan_shaped hSegment
  have hShorter : ((scan source).map fun other => other.kept.length).sum <
      ((scan source).map fun other => other.text.length).sum := by
    apply List.sum_lt_sum
    · intro other hOther
      obtain ⟨rest, hOtherShaped⟩ := mem_scan_shaped hOther
      exact Segment.length_kept_le hOtherShaped
    · exact ⟨segment, hSegment, Segment.length_kept_comment hShaped hComment⟩
  rwa [← List.length_flatMap, ← List.length_flatMap, scan_spell] at hShorter

theorem length_stripPass_lt_iff (source : List Char) :
    (stripPass source).length < source.length ↔ ¬CommentFree source := by
  constructor
  · intro hShorter hFree
    rw [stripPass_of_no_comment hFree] at hShorter
    exact Nat.lt_irrefl _ hShorter
  · exact length_stripPass_lt

theorem length_stripPass_le (source : List Char) :
    (stripPass source).length ≤ source.length := by
  by_cases hFree : CommentFree source
  · rw [stripPass_of_no_comment hFree]
  · exact (length_stripPass_lt hFree).le

/-! Passes one after the other -/

theorem passesNeeded_iterate (passes : Nat) (source : List Char) :
    passesNeeded (stripPass^[passes] source) = passesNeeded source - passes := by
  induction passes with
  | zero => rfl
  | succ passes ih =>
    rw [Function.iterate_succ_apply', passesNeeded_stripPass, ih, Nat.sub_sub]

theorem commentFree_iterate_iff (passes : Nat) (source : List Char) :
    CommentFree (stripPass^[passes] source) ↔ passesNeeded source ≤ passes := by
  rw [← passesNeeded_eq_zero_iff, passesNeeded_iterate, Nat.sub_eq_zero_iff_le]

theorem iterate_of_commentFree {source : List Char} (h : CommentFree source) (passes : Nat) :
    stripPass^[passes] source = source :=
  Function.iterate_fixed ((stripPass_eq_iff source).mpr h) passes

theorem count_newline_iterate (passes : Nat) (source : List Char) :
    (stripPass^[passes] source).count '\n' = source.count '\n' := by
  induction passes with
  | zero => rfl
  | succ passes ih => rw [Function.iterate_succ_apply', count_newline_stripPass, ih]

theorem length_iterate_le (passes : Nat) (source : List Char) :
    (stripPass^[passes] source).length ≤ source.length := by
  induction passes with
  | zero => exact Nat.le_refl _
  | succ passes ih =>
    rw [Function.iterate_succ_apply']
    exact (length_stripPass_le _).trans ih

theorem stripWithin_eq_iterate (passes : Nat) (source : List Char) :
    stripWithin passes source = stripPass^[passes] source := by
  induction passes generalizing source with
  | zero => rfl
  | succ passes ih => rw [stripWithin_succ, ih, Function.iterate_succ_apply]

theorem stripComments_eq_iterate (source : List Char) :
    stripComments source = stripPass^[passLimit] source := by
  rw [stripComments_eq, stripWithin_eq_iterate]

/-- A pass leaves a script as it is exactly if there is no comment in it, and shortens every other
script. So the passes end at a script without comments, and no number of them makes a script longer
or changes how many line breaks it has. -/
theorem stripPass_progress (source : List Char) :
    (stripPass source = source ↔ CommentFree source) ∧
      ((stripPass source).length < source.length ↔ ¬CommentFree source) ∧
      (∃ passes ≤ source.length, CommentFree (stripPass^[passes] source) ∧
        ∀ more, stripPass^[more] (stripPass^[passes] source) = stripPass^[passes] source) ∧
      (∀ passes, (stripPass^[passes] source).count '\n' = source.count '\n' ∧
        (stripPass^[passes] source).length ≤ source.length) ∧
      (stripComments source).count '\n' = source.count '\n' ∧
      (stripComments source).length ≤ source.length := by
  have hKept : ∀ passes, (stripPass^[passes] source).count '\n' = source.count '\n' ∧
      (stripPass^[passes] source).length ≤ source.length :=
    fun passes => ⟨count_newline_iterate passes source, length_iterate_le passes source⟩
  refine ⟨stripPass_eq_iff source, length_stripPass_lt_iff source, ?_, hKept, ?_⟩
  · have hNeeded : passesNeeded source ≤ source.length :=
      (passesNeeded_le source).trans List.count_le_length
    have hFree := (commentFree_iterate_iff source.length source).mpr hNeeded
    exact ⟨source.length, Nat.le_refl _, hFree, iterate_of_commentFree hFree⟩
  · rw [stripComments_eq_iterate]
    exact hKept passLimit

end SubmissionGate.Script
