import SubmissionGate.Script.Comment

/-!
# The course of a scan

A scan goes on from a state and the characters that are left, so what it finds from there is read
without what was found before. A segment is a run of code, a comment, or a mark: a string, a
template, a regular expression, or a brace or a slash of its own. Only an attempt at a regular
expression that fails leaves a trace which later segments depend on; `neverFails` says that a scan
makes none.
-/

namespace SubmissionGate.Script

theorem scanFrom_append (state : ScanState) (source : List Char) (found before : List Segment) :
    scanFrom state source (found ++ before) = before.reverse ++ scanFrom state source found := by
  fun_induction scanFrom state source found with
  | case1 state found => simp [scanFrom]
  | case2 state found c rest step _ ih =>
    rw [scanFrom]
    exact ih

def segmentsFrom (state : ScanState) (source : List Char) : List Segment :=
  scanFrom state source []

theorem segmentsFrom_nil (state : ScanState) : segmentsFrom state [] = [] := by
  simp [segmentsFrom, scanFrom]

theorem segmentsFrom_cons (state : ScanState) (c : Char) (rest : List Char) :
    segmentsFrom state (c :: rest) =
      (state.next c rest).segment ::
        segmentsFrom (state.next c rest).state (state.next c rest).rest := by
  unfold segmentsFrom
  rw [scanFrom]
  exact scanFrom_append _ _ [] [(state.next c rest).segment]

/-- What a pass leaves of a script that is scanned from a state on. -/
def keptFrom (state : ScanState) (source : List Char) : List Char :=
  (segmentsFrom state source).flatMap Segment.kept

theorem keptFrom_nil (state : ScanState) : keptFrom state [] = [] := by
  rw [keptFrom, segmentsFrom_nil, List.flatMap_nil]

theorem keptFrom_cons (state : ScanState) (c : Char) (rest : List Char) :
    keptFrom state (c :: rest) =
      (state.next c rest).segment.kept ++
        keptFrom (state.next c rest).state (state.next c rest).rest := by
  rw [keptFrom, segmentsFrom_cons, List.flatMap_cons, keptFrom]

theorem segmentsFrom_spell (state : ScanState) (source : List Char) :
    (segmentsFrom state source).flatMap (·.text) = source := by
  fun_induction scanFrom state source [] with
  | case1 state found => rw [segmentsFrom_nil, List.flatMap_nil]
  | case2 state found c rest step _ ih =>
    rw [segmentsFrom_cons, List.flatMap_cons, ih]
    exact state.next_append c rest

theorem scan_spell (source : List Char) : (scan source).flatMap (·.text) = source :=
  segmentsFrom_spell .start source

namespace Segment

theorem kept_of_not_comment {segment : Segment} (h : segment.isComment = false) :
    segment.kept = segment.text := by
  obtain ⟨kind, text, nested⟩ := segment
  cases kind with
  | lineComment => cases h
  | blockComment => cases h
  | _ => rfl

theorem mem_kept_comment {segment : Segment} (h : segment.isComment = true) {c : Char}
    (hKept : c ∈ segment.kept) : c = ' ' ∨ c = '\n' := by
  obtain ⟨kind, text, nested⟩ := segment
  cases kind with
  | lineComment => cases hKept
  | blockComment =>
    simp only [kept] at hKept
    split at hKept
    · exact .inl (List.mem_singleton.mp hKept)
    · exact .inr (List.eq_of_mem_replicate hKept)
  | _ => cases h

end Segment

def opensComment (c : Char) (rest : List Char) : Bool :=
  c == '/' && (rest.head? == some '/' || rest.head? == some '*')

namespace ScanState

variable (state : ScanState)

theorem construct_text (c : Char) (rest : List Char) :
    ∃ text, (state.construct c rest).segment.text = c :: text := by
  have hAppend := state.construct_append c rest
  have hLength := state.construct_length c rest
  cases hText : (state.construct c rest).segment.text with
  | nil =>
    rw [hText, List.nil_append] at hAppend
    rw [hAppend, List.length_cons] at hLength
    omega
  | cons first text =>
    rw [hText, List.cons_append] at hAppend
    exact ⟨text, by rw [(List.cons.inj hAppend).1]⟩

/-! What a segment is -/

theorem construct_run {c : Char} (h : isBreak c = false) (rest : List Char) :
    state.construct c rest = state.codeStep (c :: rest) := by
  unfold isBreak at h
  unfold construct
  simp_all

/-- A comment leaves the state alone; the script goes on with a line break behind a line comment
and with what a block comment is replaced by behind that. -/
theorem construct_comment {c : Char} {rest : List Char} (h : opensComment c rest = true) :
    (state.construct c rest).state = state ∧
      (state.construct c rest).segment.isComment = true ∧
      (state.construct c rest).segment.nested = state.nested ∧
      ((state.construct c rest).segment.kept ≠ [] ∨ (state.construct c rest).rest = [] ∨
        (state.construct c rest).rest.head? = some '\n') := by
  obtain ⟨hSlash, hNext⟩ := (Bool.and_eq_true _ _).mp h
  obtain rfl : c = '/' := by simpa using hSlash
  cases rest with
  | nil => cases hNext
  | cons second inner =>
    obtain rfl | rfl : second = '/' ∨ second = '*' := by simpa using hNext
    · refine ⟨rfl, rfl, rfl, .inr ?_⟩
      change (('/' :: inner).dropWhile (· != '\n')) = [] ∨
        (('/' :: inner).dropWhile (· != '\n')).head? = some '\n'
      cases hLeft : ('/' :: inner).dropWhile (· != '\n') with
      | nil => exact .inl rfl
      | cons first left =>
        have hStop := List.head?_dropWhile_not (· != '\n') ('/' :: inner)
        rw [hLeft] at hStop
        exact .inr (by simpa using hStop)
    · refine ⟨rfl, rfl, rfl, .inl ?_⟩
      change (Segment.mk .blockComment (blockTail inner ['*', '/']).1 state.nested).kept ≠ []
      simp only [Segment.kept]
      split
      · simp
      · next hBreaks => simpa using hBreaks

theorem construct_slash {rest : List Char} (h : opensComment '/' rest = false) :
    state.construct '/' rest = state.slashStep rest := by
  have hLine : ∀ inner, rest ≠ '/' :: inner := by
    rintro inner rfl
    cases h
  have hBlock : ∀ inner, rest ≠ '*' :: inner := by
    rintro inner rfl
    cases h
  simp [construct]

theorem slashStep_isComment (rest : List Char) :
    (state.slashStep rest).segment.isComment = false := by
  unfold slashStep
  repeat' split
  all_goals rfl

theorem construct_isComment (c : Char) (rest : List Char) :
    (state.construct c rest).segment.isComment = opensComment c rest := by
  by_cases hSlash : (c == '/') = true
  · obtain rfl : c = '/' := by simpa using hSlash
    cases hOpens : opensComment '/' rest with
    | true => exact (state.construct_comment hOpens).2.1
    | false =>
      rw [construct_slash state hOpens]
      exact slashStep_isComment state rest
  · have hOpens : opensComment c rest = false := by simp [opensComment, hSlash]
    rw [hOpens]
    unfold construct
    repeat' split
    all_goals rfl

/-! Attempts at regular expressions -/

/-- Whether an attempt at a regular expression fails at a character. -/
def failsAt (c : Char) (rest : List Char) : Bool :=
  c == '/' && !opensComment c rest && state.regexAllowed && !state.regexBarred &&
    (regexTail false rest ['/']).isNone

theorem slashStep_regexBarred {rest : List Char} (hOpens : opensComment '/' rest = false) :
    (state.slashStep rest).state.regexBarred =
      (state.regexBarred || state.failsAt '/' rest) := by
  unfold slashStep failsAt
  rw [hOpens]
  cases hAllowed : state.regexAllowed with
  | false => simp [singleStep]
  | true =>
    cases hBarred : state.regexBarred with
    | true => simp [singleStep, hBarred]
    | false =>
      cases hTail : regexTail false rest ['/'] with
      | none => simp [singleStep]
      | some found => simp

/-- Exactly a failed attempt bars regular expressions. -/
theorem construct_regexBarred (c : Char) (rest : List Char) :
    (state.construct c rest).state.regexBarred =
      (state.regexBarred || state.failsAt c rest) := by
  by_cases hSlash : (c == '/') = true
  · obtain rfl : c = '/' := by simpa using hSlash
    cases hOpens : opensComment '/' rest with
    | true =>
      rw [(state.construct_comment hOpens).1]
      simp [failsAt, hOpens]
    | false =>
      rw [construct_slash state hOpens]
      exact slashStep_regexBarred state hOpens
  · have hFails : state.failsAt c rest = false := by simp [failsAt, hSlash]
    rw [hFails, Bool.or_false]
    unfold construct
    repeat' split
    all_goals rfl

theorem next_segment (c : Char) (rest : List Char) :
    (state.next c rest).segment = (state.construct c rest).segment := rfl

theorem next_eq {c : Char} {rest : List Char}
    (h : (state.construct c rest).state.regexBarred = false) :
    state.next c rest = state.construct c rest := by
  simp [next, afterText, h]

end ScanState

theorem slash_mem_comment {state : ScanState} {source : List Char} {segment : Segment}
    (h : segment ∈ segmentsFrom state source) (hComment : segment.isComment = true) :
    '/' ∈ segment.text := by
  fun_induction scanFrom state source [] with
  | case1 state found =>
    rw [segmentsFrom_nil] at h
    cases h
  | case2 state found c rest step _ ih =>
    rw [segmentsFrom_cons] at h
    obtain rfl | hRest := List.mem_cons.mp h
    · obtain ⟨text, hText⟩ := state.construct_text c rest
      rw [state.next_segment] at hComment ⊢
      rw [state.construct_isComment] at hComment
      obtain ⟨hSlash, _⟩ := (Bool.and_eq_true _ _).mp hComment
      rw [hText, beq_iff_eq.mp hSlash]
      exact List.mem_cons_self
    · exact ih hRest

/-- Whether no attempt at a regular expression fails while a script is scanned from a state on. -/
def neverFails (state : ScanState) (source : List Char) : Bool :=
  match source with
  | [] => true
  | c :: rest =>
    have := state.next_length c rest
    !state.failsAt c rest && neverFails (state.next c rest).state (state.next c rest).rest
termination_by source.length

theorem keptFrom_head? {source : List Char} (h : source.head? ≠ some '/') (state : ScanState) :
    (keptFrom state source).head? = source.head? := by
  cases source with
  | nil => rw [keptFrom_nil]
  | cons c rest =>
    have hOpens : opensComment c rest = false := by simp_all [opensComment]
    obtain ⟨text, hText⟩ := state.construct_text c rest
    rw [keptFrom_cons, state.next_segment,
      Segment.kept_of_not_comment ((state.construct_isComment c rest).trans hOpens), hText]
    rfl

end SubmissionGate.Script
