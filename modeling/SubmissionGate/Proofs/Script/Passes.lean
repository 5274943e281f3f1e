import SubmissionGate.Proofs.Script.CommentRemoval

/-!
# How many passes a script needs

A pass that finds a comment takes at least its slash away, so passes come to an end, and a script
that a pass leaves as it is has no comments. How many passes that takes is not bounded: a comment
that makes an attempt at a regular expression fail may hide a second such attempt in a string, and
so on. Only as many comments are removed as there are passes allowed.
-/

namespace SubmissionGate.Script

def CommentFree (source : List Char) : Prop := ∀ segment ∈ scan source, segment.isComment = false

theorem Segment.count_slash_kept (segment : Segment) :
    segment.kept.count '/' = if segment.isComment then 0 else segment.text.count '/' := by
  split
  · next hComment =>
    apply List.count_eq_zero_of_not_mem
    intro hSlash
    obtain hBlank | hBlank := Segment.mem_kept_comment hComment hSlash
    · cases hBlank
    · cases hBlank
  · next hComment => rw [Segment.kept_of_not_comment (by simpa using hComment)]

theorem count_slash_kept (segments : List Segment) :
    (segments.flatMap (·.text)).count '/' = (segments.flatMap Segment.kept).count '/' +
      ((segments.filter Segment.isComment).flatMap (·.text)).count '/' := by
  induction segments with
  | nil => rfl
  | cons segment rest ih =>
    rw [List.flatMap_cons, List.flatMap_cons, List.count_append, List.count_append, ih,
      segment.count_slash_kept]
    cases hComment : segment.isComment with
    | true =>
      rw [List.filter_cons_of_pos hComment, List.flatMap_cons, List.count_append, if_pos rfl]
      omega
    | false =>
      rw [List.filter_cons_of_neg (by simp [hComment]), if_neg (by simp)]
      omega

theorem count_slash_scan (source : List Char) :
    source.count '/' = (stripPass source).count '/' +
      (((scan source).filter Segment.isComment).flatMap (·.text)).count '/' := by
  have hCount := count_slash_kept (scan source)
  rwa [scan_spell] at hCount

theorem count_slash_stripPass_le (source : List Char) :
    (stripPass source).count '/' ≤ source.count '/' := by
  rw [count_slash_scan source]
  exact Nat.le_add_right _ _

theorem count_slash_stripPass {source : List Char} (h : ¬CommentFree source) :
    (stripPass source).count '/' < source.count '/' := by
  obtain ⟨segment, hSegment, hComment⟩ : ∃ segment ∈ scan source, segment.isComment = true := by
    simpa [CommentFree] using h
  have hSlash : '/' ∈ ((scan source).filter Segment.isComment).flatMap (·.text) :=
    List.mem_flatMap.mpr ⟨segment, List.mem_filter.mpr ⟨hSegment, hComment⟩,
      slash_mem_comment hSegment hComment⟩
  rw [count_slash_scan source]
  exact Nat.lt_add_of_pos_right (List.count_pos_iff.mpr hSlash)

theorem stripPass_eq_iff (source : List Char) : stripPass source = source ↔ CommentFree source := by
  constructor
  · intro hSame
    refine Classical.byContradiction ?_
    intro hComment
    have hFewer := count_slash_stripPass hComment
    rw [hSame] at hFewer
    exact Nat.lt_irrefl _ hFewer
  · exact stripPass_of_no_comment

/-- The passes after which a script no longer changes. -/
def passesNeeded (source : List Char) : Nat :=
  if h : stripPass source = source then 0 else passesNeeded (stripPass source) + 1
termination_by source.count '/'
decreasing_by exact count_slash_stripPass (mt (stripPass_eq_iff source).mpr h)

theorem passesNeeded_eq_zero_iff (source : List Char) :
    passesNeeded source = 0 ↔ CommentFree source := by
  rw [passesNeeded, ← stripPass_eq_iff]
  split <;> simp_all

theorem passesNeeded_succ {source : List Char} (h : ¬CommentFree source) :
    passesNeeded source = passesNeeded (stripPass source) + 1 := by
  rw [passesNeeded, dif_neg (mt (stripPass_eq_iff source).mp h)]

theorem passesNeeded_le (source : List Char) : passesNeeded source ≤ source.count '/' := by
  fun_induction passesNeeded source with
  | case1 => exact Nat.zero_le _
  | case2 source h ih =>
    have hFewer := count_slash_stripPass (mt (stripPass_eq_iff source).mpr h)
    omega

theorem passesNeeded_stripPass (source : List Char) :
    passesNeeded (stripPass source) = passesNeeded source - 1 := by
  by_cases hFree : CommentFree source
  · rw [(stripPass_eq_iff source).mpr hFree, (passesNeeded_eq_zero_iff source).mpr hFree]
  · rw [passesNeeded_succ hFree, Nat.add_sub_cancel]

/-! All passes together -/

theorem stripWithin_of_stable {source : List Char} (h : stripPass source = source)
    (passes : Nat) : stripWithin passes source = source := by
  cases passes with
  | zero => rfl
  | succ passes => simp [stripWithin, h]

/-- Stopping once nothing changes leaves what the whole number of passes leaves. -/
theorem stripWithin_succ (passes : Nat) (source : List Char) :
    stripWithin (passes + 1) source = stripWithin passes (stripPass source) := by
  rw [stripWithin]
  simp only [beq_iff_eq]
  split
  · next hSame => rw [hSame, stripWithin_of_stable hSame]
  · rfl

theorem stripComments_eq (source : List Char) :
    stripComments source = stripWithin passLimit source := by
  unfold stripComments
  split
  · rfl
  · next hSlash =>
    rw [stripWithin_of_stable (stripPass_of_no_slash (by simpa using hSlash))]

theorem passesNeeded_stripComments (source : List Char) :
    passesNeeded (stripComments source) = passesNeeded source - passLimit := by
  have hWithin : ∀ passes source,
      passesNeeded (stripWithin passes source) = passesNeeded source - passes := by
    intro passes
    induction passes with
    | zero => exact fun _ => rfl
    | succ passes ih =>
      intro source
      rw [stripWithin_succ, ih, passesNeeded_stripPass, Nat.sub_sub, Nat.add_comm]
  rw [stripComments_eq, hWithin]

theorem stripComments_eq_iff (source : List Char) :
    stripComments source = source ↔ CommentFree source := by
  constructor
  · intro hSame
    have hPasses := passesNeeded_stripComments source
    rw [hSame] at hPasses
    apply (passesNeeded_eq_zero_iff source).mp
    simp only [passLimit] at hPasses
    omega
  · intro hFree
    rw [stripComments_eq, stripWithin_of_stable ((stripPass_eq_iff source).mpr hFree)]

theorem commentFree_stripComments_iff (source : List Char) :
    CommentFree (stripComments source) ↔ passesNeeded source ≤ passLimit := by
  rw [← passesNeeded_eq_zero_iff, passesNeeded_stripComments, Nat.sub_eq_zero_iff_le]

/-- Where no attempt at a regular expression fails, the first pass finds every comment. -/
theorem passesNeeded_of_neverFails {source : List Char} (h : neverFails .start source = true) :
    passesNeeded source ≤ 1 := by
  have hFree := (passesNeeded_eq_zero_iff _).mpr (sameScript_stripPass h).noComment
  rw [passesNeeded_stripPass] at hFree
  omega

/-! Scripts that need many passes -/

/-- A slash that starts no regular expression because of the carriage return in a comment of its
class, and then a string up to the end of the line. -/
def veil : List Char :=
  ['/', '[', '/', '*', '\r', '*', '/', '\\', '\'', ']', '/', ';']

def unveiled : List Char := ['/', '[', ' ', '\\', '\'', ']', '/', ';']

/-- A script in which a pass finds one comment and the string behind it the other ones. -/
def veils (count : Nat) : List Char := (List.replicate count veil).flatten

theorem veils_succ (count : Nat) : veils (count + 1) = veil ++ veils count := rfl

theorem stringTail_veils (count : Nat) (taken : List Char) :
    stringTail '\'' (veils count) taken = (taken.reverse ++ veils count, []) := by
  induction count generalizing taken with
  | zero => simp [veils, stringTail]
  | succ count ih =>
    rw [veils_succ]
    simp [veil, stringTail, ih]

theorem keptFrom_unveiled {rest : List Char} (h : ∀ c ∈ rest.head?, c = '/') :
    keptFrom .start (unveiled ++ rest) = unveiled ++ keptFrom .start rest := by
  have hRegex : ScanState.start.next '/' (unveiled.tail ++ rest) =
      ⟨⟨.regex, unveiled.dropLast, false⟩, ';' :: rest, ⟨0, [], false, false⟩⟩ := rfl
  have hCode : ScanState.next ⟨0, [], false, false⟩ ';' rest =
      ⟨⟨.code, [';'], false⟩, rest, .start⟩ := by
    cases rest with
    | nil => rfl
    | cons c tail =>
      obtain rfl := h c rfl
      rfl
  change keptFrom .start ('/' :: (unveiled.tail ++ rest)) = _
  rw [keptFrom_cons, hRegex, keptFrom_cons, hCode]
  rfl

/-- A pass takes the comment of a veil away and leaves what follows it as it is. -/
theorem keptFrom_veil (count : Nat) :
    keptFrom .start (veil ++ veils count) = unveiled ++ veils count := by
  have hSlash : ScanState.start.next '/' (veil.tail ++ veils count) =
      ⟨⟨.code, ['/'], false⟩, '[' :: (veil.drop 2 ++ veils count), ⟨0, [], true, true⟩⟩ := rfl
  have hBracket : ScanState.next ⟨0, [], true, true⟩ '[' (veil.drop 2 ++ veils count) =
      ⟨⟨.code, ['['], false⟩, '/' :: (veil.drop 3 ++ veils count), ⟨0, [], true, true⟩⟩ := rfl
  have hComment : ScanState.next ⟨0, [], true, true⟩ '/' (veil.drop 3 ++ veils count) =
      ⟨⟨.blockComment, ['/', '*', '\r', '*', '/'], false⟩, '\\' :: (veil.drop 8 ++ veils count),
        ⟨0, [], true, true⟩⟩ := rfl
  have hBackslash : ScanState.next ⟨0, [], true, true⟩ '\\' (veil.drop 8 ++ veils count) =
      ⟨⟨.code, ['\\'], false⟩, '\'' :: (veil.drop 9 ++ veils count), ⟨0, [], true, true⟩⟩ := rfl
  have hQuote : ∀ rest, (ScanState.next ⟨0, [], true, true⟩ '\'' rest).segment =
        ⟨.string, (stringTail '\'' rest ['\'']).1, false⟩ ∧
      (ScanState.next ⟨0, [], true, true⟩ '\'' rest).rest = (stringTail '\'' rest ['\'']).2 :=
    fun _ => ⟨rfl, rfl⟩
  have hString : stringTail '\'' (veil.drop 9 ++ veils count) ['\''] =
      (veil.drop 8 ++ veils count, []) := stringTail_veils count [';', '/', ']', '\'']
  change keptFrom .start ('/' :: (veil.tail ++ veils count)) = _
  rw [keptFrom_cons, hSlash, keptFrom_cons, hBracket, keptFrom_cons, hComment, keptFrom_cons,
    hBackslash, keptFrom_cons, (hQuote _).1, (hQuote _).2, hString, keptFrom_nil,
    List.append_nil]
  rfl

def halfVeiled (lifted left : Nat) : List Char :=
  (List.replicate lifted unveiled).flatten ++ veils left

theorem length_halfVeiled (lifted left : Nat) :
    (halfVeiled lifted left).length = lifted * 8 + left * 12 := by
  simp [halfVeiled, veils, unveiled, veil]

theorem head?_halfVeiled (lifted left : Nat) : ∀ c ∈ (halfVeiled lifted left).head?, c = '/' := by
  intro c hHead
  cases lifted with
  | zero =>
    cases left with
    | zero => cases hHead
    | succ left => exact (Option.some.inj hHead).symm
  | succ lifted => exact (Option.some.inj hHead).symm

theorem keptFrom_halfVeiled (lifted left : Nat) :
    keptFrom .start (halfVeiled lifted left) =
      (List.replicate lifted unveiled).flatten ++ keptFrom .start (veils left) := by
  induction lifted with
  | zero => rfl
  | succ lifted ih =>
    have hSplit : halfVeiled (lifted + 1) left = unveiled ++ halfVeiled lifted left :=
      List.append_assoc unveiled (List.replicate lifted unveiled).flatten (veils left)
    rw [hSplit, keptFrom_unveiled (head?_halfVeiled lifted left), ih, ← List.append_assoc]
    rfl

theorem stripPass_halfVeiled (lifted left : Nat) :
    stripPass (halfVeiled lifted (left + 1)) = halfVeiled (lifted + 1) left := by
  have hPass := keptFrom_halfVeiled lifted (left + 1)
  rw [veils_succ, keptFrom_veil] at hPass
  calc
    stripPass (halfVeiled lifted (left + 1)) =
        (List.replicate lifted unveiled).flatten ++ (unveiled ++ veils left) := hPass
    _ = (List.replicate lifted unveiled ++ [unveiled]).flatten ++ veils left := by simp
    _ = halfVeiled (lifted + 1) left := by rw [← List.replicate_succ', halfVeiled]

theorem passesNeeded_halfVeiled (lifted left : Nat) :
    passesNeeded (halfVeiled lifted left) = left := by
  induction left generalizing lifted with
  | zero =>
    apply (passesNeeded_eq_zero_iff _).mpr
    apply (stripPass_eq_iff _).mp
    have hPass := keptFrom_halfVeiled lifted 0
    rw [show keptFrom .start (veils 0) = veils 0 from keptFrom_nil _] at hPass
    exact hPass
  | succ left ih =>
    have hPass := stripPass_halfVeiled lifted left
    have hComment : ¬CommentFree (halfVeiled lifted (left + 1)) := by
      rw [← stripPass_eq_iff, hPass]
      intro hSame
      have hLength := congrArg List.length hSame
      rw [length_halfVeiled, length_halfVeiled] at hLength
      omega
    rw [passesNeeded_succ hComment, hPass, ih]

theorem passesNeeded_veils (count : Nat) : passesNeeded (veils count) = count :=
  passesNeeded_halfVeiled 0 count

/-- Removing comments twice is the same as once exactly for the scripts that need no more passes
than are made, and exactly then no comment is left. One pass is enough where no attempt at a regular
expression fails. -/
theorem stripComments_idempotent_iff (source : List Char) :
    (stripComments (stripComments source) = stripComments source ↔
        passesNeeded source ≤ passLimit) ∧
      (CommentFree (stripComments source) ↔ passesNeeded source ≤ passLimit) ∧
      passesNeeded source ≤ source.count '/' ∧
      (neverFails .start source = true → passesNeeded source ≤ 1) := by
  have hFree := commentFree_stripComments_iff source
  exact ⟨(stripComments_eq_iff _).trans hFree, hFree, passesNeeded_le source,
    passesNeeded_of_neverFails⟩

/-- One veil more than passes are made: its comment is left, and a second removal finds it. -/
theorem stripComments_veils :
    stripComments (stripComments (veils 9)) ≠ stripComments (veils 9) ∧
      ¬CommentFree (stripComments (veils 9)) := by
  have hLeft : ¬CommentFree (stripComments (veils 9)) := by
    rw [commentFree_stripComments_iff, passesNeeded_veils]
    decide
  exact ⟨mt (stripComments_eq_iff _).mp hLeft, hLeft⟩

end SubmissionGate.Script
