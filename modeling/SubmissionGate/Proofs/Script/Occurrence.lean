import Mathlib.Order.Bounds.Defs
import SubmissionGate.Script.ApiUse

/-!
# Copies without overlaps

A text has so many copies of a needle without overlaps as there are needles between the pieces that
it can be cut into. Counting from the front, each copy as early as it can be, finds the most there
are: any first copy ends no earlier than the one that is counted.
-/

namespace SubmissionGate.Script

/-- The text consists of `count` copies of the needle and the pieces around them. -/
def HasCopies (needle : List Char) (count : Nat) (text : List Char) : Prop :=
  ∃ pieces : List (List Char), pieces.length = count + 1 ∧ needle.intercalate pieces = text

namespace HasCopies

variable {needle text : List Char} {count : Nat}

theorem none (needle text : List Char) : HasCopies needle 0 text :=
  ⟨[text], rfl, List.intercalate_singleton⟩

theorem succ_iff : HasCopies needle (count + 1) text ↔
    ∃ before after, before ++ needle ++ after = text ∧ HasCopies needle count after := by
  constructor
  · rintro ⟨pieces, hLength, rfl⟩
    match pieces, hLength with
    | before :: next :: rest, hLength =>
      exact ⟨before, _, List.intercalate_cons_cons.symm, next :: rest,
        Nat.succ.inj hLength, rfl⟩
  · rintro ⟨before, after, rfl, pieces, hLength, rfl⟩
    match pieces, hLength with
    | next :: rest, hLength =>
      exact ⟨before :: next :: rest, congrArg Nat.succ hLength, List.intercalate_cons_cons⟩

theorem append_left (h : HasCopies needle count text) (front : List Char) :
    HasCopies needle count (front ++ text) := by
  cases count with
  | zero => exact none needle _
  | succ count =>
    obtain ⟨before, after, rfl, hAfter⟩ := succ_iff.mp h
    exact succ_iff.mpr ⟨front ++ before, after, by simp only [List.append_assoc], hAfter⟩

theorem of_nil (hNeedle : needle ≠ []) (h : HasCopies needle count []) : count = 0 := by
  cases count with
  | zero => rfl
  | succ count =>
    obtain ⟨before, after, hText, -⟩ := succ_iff.mp h
    rw [List.append_eq_nil_iff, List.append_eq_nil_iff] at hText
    exact absurd hText.1.2 hNeedle

theorem drop (h : HasCopies needle (count + 1) text) :
    HasCopies needle count (text.drop needle.length) := by
  obtain ⟨before, after, rfl, hAfter⟩ := succ_iff.mp h
  have hDrop : (before ++ needle ++ after).drop needle.length =
      (before ++ needle).drop needle.length ++ after := by
    rw [List.drop_append_of_le_length]
    rw [List.length_append]
    exact Nat.le_add_left _ _
  rw [hDrop]
  exact hAfter.append_left _

theorem of_not_prefix {c : Char} {rest : List Char} (hPrefix : ¬needle <+: c :: rest)
    (h : HasCopies needle count (c :: rest)) : HasCopies needle count rest := by
  cases count with
  | zero => exact none needle rest
  | succ count =>
    obtain ⟨before, after, hText, hAfter⟩ := succ_iff.mp h
    cases before with
    | nil => exact absurd ⟨after, hText⟩ hPrefix
    | cons first before =>
      exact succ_iff.mpr ⟨before, after, (List.cons.inj hText).2, hAfter⟩

end HasCopies

/-- Counting adds the greatest number of copies in what it has still to read. -/
theorem countFrom_isGreatest {needle : List Char} (hNeedle : needle ≠ []) (skip count : Nat)
    (text : List Char) : ∃ more, countFrom needle skip count text = count + more ∧
      IsGreatest {copies | HasCopies needle copies (text.drop skip)} more := by
  fun_induction countFrom needle skip count text with
  | case1 skip count =>
    refine ⟨0, rfl, HasCopies.none needle _, ?_⟩
    intro copies hCopies
    rw [List.drop_nil] at hCopies
    exact Nat.le_of_eq (hCopies.of_nil hNeedle)
  | case2 count c rest skip ih => exact ih
  | case3 count c rest hPrefix ih =>
    obtain ⟨more, hCount, hMore, hMost⟩ := ih
    have hDrop : (c :: rest).drop needle.length = rest.drop (needle.length - 1) := by
      rw [List.drop_cons (List.length_pos_iff.mpr hNeedle)]
    refine ⟨more + 1, by rw [hCount]; omega, ?_, ?_⟩
    · obtain ⟨after, hAfter⟩ := List.isPrefixOf_iff_prefix.mp hPrefix
      refine HasCopies.succ_iff.mpr ⟨[], _, ?_, hMore⟩
      rw [← hDrop, ← hAfter, List.drop_left]
      rfl
    · intro copies hCopies
      cases copies with
      | zero => exact Nat.zero_le _
      | succ copies =>
        have hRest := HasCopies.drop hCopies
        rw [List.drop_zero, hDrop] at hRest
        exact Nat.succ_le_succ (hMost hRest)
  | case4 count c rest hPrefix ih =>
    obtain ⟨more, hCount, hMore, hMost⟩ := ih
    refine ⟨more, hCount, HasCopies.append_left hMore [c], ?_⟩
    intro copies hCopies
    apply hMost
    apply HasCopies.of_not_prefix _ hCopies
    rwa [← List.isPrefixOf_iff_prefix]

theorem occurrences_isGreatest {needle : List Char} (hNeedle : needle ≠ []) (text : List Char) :
    IsGreatest {copies | HasCopies needle copies text} (occurrences needle text) := by
  obtain ⟨most, hCount, hMost⟩ := countFrom_isGreatest hNeedle 0 0 text
  rw [occurrences, if_neg (by simpa using hNeedle), hCount, Nat.zero_add]
  exact hMost

end SubmissionGate.Script
