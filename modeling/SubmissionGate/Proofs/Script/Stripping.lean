import SubmissionGate.Proofs.Script.Lexeme
import SubmissionGate.Proofs.Script.Resumption

/-!
# Scanning what a pass leaves

Two scans are followed side by side, that of a script and that of what a pass leaves of it. The
second one is behind by the code that it has not read yet, since code goes on where a comment stood.
At the next mark it reads that code in one run, and both scans are in the same state again. So its
segments are those of the script with the comments merged into the code around them.
-/

namespace SubmissionGate.Script

def pendingCode (code : List Char) (nested : Bool) : List Segment :=
  if code.isEmpty then [] else [⟨.code, code, nested⟩]

/-- The segments of a script, and those where code and comments between two marks are one run of
code, of which a piece is still to be read. -/
inductive Merges : List Char → Bool → List Segment → List Segment → Prop where
  | done {pending nested} : Merges pending nested [] (pendingCode pending nested)
  | comment {pending nested segment rest merged} (hComment : segment.isComment = true)
      (hRest : Merges (pending ++ segment.kept) nested rest merged) :
      Merges pending nested (segment :: rest) merged
  | run {pending nested text rest merged} (hParted : Parted pending text)
      (hRest : Merges (pending ++ text) nested rest merged) :
      Merges pending nested (⟨.code, text, nested⟩ :: rest) merged
  | mark {pending nested after segment rest merged} (hMark : segment.isComment = false)
      (hRest : Merges [] after rest merged) :
      Merges pending nested (segment :: rest) (pendingCode pending nested ++ segment :: merged)

/-- A scan that is behind reads the code before a mark as one run, and then is in the same state. -/
theorem segmentsFrom_pending {state : ScanState} (hBarred : state.regexBarred = false)
    {pending source : List Char} {allowed : Bool} (hPending : ∀ c ∈ pending, isBreak c = false)
    (hAllowed : state.regexAllowed = (admitsRegex pending).getD allowed)
    (hMark : ∀ c ∈ source.head?, isBreak c = true) :
    segmentsFrom { state with regexAllowed := allowed } (pending ++ source) =
      pendingCode pending state.nested ++ segmentsFrom state source := by
  cases pending with
  | nil =>
    obtain rfl : state.regexAllowed = allowed := hAllowed
    rfl
  | cons c rest =>
    have hAll : ∀ d ∈ c :: rest, !isBreak d := by simpa using hPending
    have hTake : ((c :: rest) ++ source).takeWhile (fun d => !isBreak d) = c :: rest := by
      rw [List.takeWhile_append_of_pos hAll]
      cases source with
      | nil => rw [List.takeWhile_nil, List.append_nil]
      | cons d tail => simp [hMark d rfl]
    have hDrop : ((c :: rest) ++ source).dropWhile (fun d => !isBreak d) = source := by
      rw [List.dropWhile_append_of_pos hAll]
      cases source with
      | nil => rfl
      | cons d tail => simp [hMark d rfl]
    have hRun := ScanState.construct_run { state with regexAllowed := allowed }
      (hPending c List.mem_cons_self) (rest ++ source)
    have hNext := ScanState.next_eq _ (by rw [hRun]; exact hBarred)
    rw [List.cons_append, segmentsFrom_cons, hNext, hRun]
    unfold ScanState.codeStep
    rw [← List.cons_append, hTake, hDrop]
    simp only [← hAllowed]
    rfl

theorem Segment.separates_kept {segment : Segment} (h : segment.isComment = true) {c : Char}
    (hKept : c ∈ segment.kept) : separates c = true := by
  obtain rfl | rfl := Segment.mem_kept_comment h hKept
  · rfl
  · rfl

/-- Code that is still to be read does not join a run that the script goes on with. -/
def Meets (pending source : List Char) : Prop :=
  ∀ c ∈ source.head?, isBreak c = false → Parted pending [c]

theorem Meets.of_mark {source : List Char} (h : ∀ c ∈ source.head?, isBreak c = true)
    (pending : List Char) : Meets pending source := by
  intro c hHead hRun
  rw [h c hHead] at hRun
  cases hRun

theorem Parted.of_head {first text : List Char} {c : Char} (h : Parted first [c]) :
    Parted first (c :: text) := by
  obtain hNil | hNil | hLast | hHead := h
  · exact .inl hNil
  · cases hNil
  · exact .inr (.inr (.inl hLast))
  · exact .inr (.inr (.inr hHead))

theorem Meets.of_comment {kept source : List Char} (hBlank : ∀ c ∈ kept, separates c = true)
    (hEnd : kept ≠ [] ∨ source = [] ∨ source.head? = some '\n') (pending : List Char) :
    Meets (pending ++ kept) source := by
  intro c hHead _
  obtain hKept | rfl | hBreak := hEnd
  · refine .inr (.inr (.inl ?_))
    rw [List.getLast?_append, List.getLast?_eq_some_getLast hKept]
    exact hBlank _ (List.getLast_mem hKept)
  · cases hHead
  · rw [hBreak] at hHead
    cases hHead
    exact .inr (.inr (.inr rfl))

/-- The scan of what a pass leaves finds the segments of the script merged: `pending` is the code
that it has not read yet when the scan of the script stands at a state, and `allowed` what it took a
slash for before that code. -/
def MergesKept (state : ScanState) (source : List Char) : Prop :=
  ∀ pending allowed, (∀ c ∈ pending, isBreak c = false) →
    state.regexAllowed = (admitsRegex pending).getD allowed → Meets pending source →
    Merges pending state.nested (segmentsFrom state source)
      (segmentsFrom { state with regexAllowed := allowed } (pending ++ keptFrom state source))

theorem mergesKept_nil {state : ScanState} (hBarred : state.regexBarred = false) :
    MergesKept state [] := by
  intro pending allowed hPending hAllowed _
  rw [keptFrom_nil, segmentsFrom_pending hBarred hPending hAllowed (by simp), segmentsFrom_nil,
    List.append_nil]
  exact .done

theorem mergesKept_comment {state : ScanState} {c : Char} {rest : List Char}
    (hBarred : state.regexBarred = false) (hOpens : opensComment c rest = true)
    (hRest : MergesKept (state.construct c rest).state (state.construct c rest).rest) :
    MergesKept state (c :: rest) := by
  intro pending allowed hPending hAllowed _
  obtain ⟨hState, hComment, _, hEnd⟩ := state.construct_comment hOpens
  have hBlank : ∀ d ∈ (state.construct c rest).segment.kept, separates d = true := fun d =>
    Segment.separates_kept hComment
  have hNext : state.next c rest = state.construct c rest :=
    state.next_eq (by rw [hState]; exact hBarred)
  rw [hState] at hRest
  rw [segmentsFrom_cons, keptFrom_cons, hNext, hState, ← List.append_assoc]
  refine .comment hComment (hRest _ allowed ?_ ?_ (Meets.of_comment hBlank hEnd pending))
  · intro d hd
    obtain hd | hd := List.mem_append.mp hd
    · exact hPending d hd
    · exact isBreak_of_separates (hBlank d hd)
  · rw [admitsRegex_append_blank hBlank, hAllowed]

theorem mergesKept_run {state : ScanState} {c : Char} {rest : List Char}
    (hBarred : state.regexBarred = false) (hRun : isBreak c = false)
    (hRest : MergesKept (state.construct c rest).state (state.construct c rest).rest) :
    MergesKept state (c :: rest) := by
  intro pending allowed hPending hAllowed hMeets
  have hStep := state.construct_run hRun rest
  have hNext : state.next c rest = state.codeStep (c :: rest) := by
    rw [← hStep]
    exact state.next_eq (by rw [hStep]; exact hBarred)
  have hText : (c :: rest).takeWhile (fun d => !isBreak d) =
      c :: rest.takeWhile (fun d => !isBreak d) := by
    rw [List.takeWhile_cons, if_pos (by simp [hRun])]
  have hParted : Parted pending ((c :: rest).takeWhile (fun d => !isBreak d)) := by
    rw [hText]
    exact (hMeets c rfl hRun).of_head
  rw [hStep] at hRest
  rw [segmentsFrom_cons, keptFrom_cons, hNext, ← List.append_assoc]
  refine .run hParted (hRest _ allowed ?_ ?_ (Meets.of_mark ?_ _))
  · intro d hd
    obtain hd | hd := List.mem_append.mp hd
    · exact hPending d hd
    · simpa using List.all_eq_true.mp (List.all_takeWhile) d hd
  · change (admitsRegex _).getD state.regexAllowed = _
    rw [admitsRegex_append hParted.separate, hAllowed]
    cases admitsRegex ((c :: rest).takeWhile fun d => !isBreak d) with
    | none => rfl
    | some _ => rfl
  · intro d hd
    have hStop := List.head?_dropWhile_not (fun d => !isBreak d) (c :: rest)
    change d ∈ ((c :: rest).dropWhile fun d => !isBreak d).head? at hd
    rw [hd] at hStop
    simpa using hStop

/-- At a mark the code that is still to be read is read in one run, and the mark after it. -/
theorem mergesKept_mark {state : ScanState} {c : Char} {rest : List Char}
    (hBarred : state.regexBarred = false) (hMark : isBreak c = true)
    (hOpens : opensComment c rest = false) (hFails : state.failsAt c rest = false)
    (hRest : MergesKept (state.construct c rest).state (state.construct c rest).rest) :
    MergesKept state (c :: rest) := by
  intro pending allowed hPending hAllowed _
  have hNextBarred : (state.construct c rest).state.regexBarred = false := by
    rw [state.construct_regexBarred, hBarred, hFails]
    rfl
  have hNext := state.next_eq hNextBarred
  have hComment := (state.construct_isComment c rest).trans hOpens
  obtain ⟨tail, hTail, hAgain⟩ := state.construct_resumes hMark hOpens hBarred hFails
    (keptFrom (state.construct c rest).state (state.construct c rest).rest)
    fun hSlash => keptFrom_head? hSlash _
  have hNextAgain : state.next c tail = { state.construct c rest with
      rest := keptFrom (state.construct c rest).state (state.construct c rest).rest } := by
    rw [← hAgain]
    exact state.next_eq (by rw [hAgain]; exact hNextBarred)
  have hMerges := hRest [] (state.construct c rest).state.regexAllowed (by simp) rfl
    (fun d _ _ => .inl rfl)
  rw [keptFrom_cons, hNext, Segment.kept_of_not_comment hComment, hTail,
    segmentsFrom_pending hBarred hPending hAllowed (by simpa using hMark), segmentsFrom_cons,
    segmentsFrom_cons, hNext, hNextAgain]
  exact .mark hComment hMerges

theorem mergesKept {state : ScanState} {source : List Char}
    (h : neverFails state source = true) (hBarred : state.regexBarred = false) :
    MergesKept state source := by
  fun_induction neverFails state source with
  | case1 state => exact mergesKept_nil hBarred
  | case2 state c rest _ ih =>
    obtain ⟨hNever, hRest⟩ := (Bool.and_eq_true _ _).mp h
    have hFails : state.failsAt c rest = false := by simpa using hNever
    have hNextBarred : (state.construct c rest).state.regexBarred = false := by
      rw [state.construct_regexBarred, hBarred, hFails]
      rfl
    rw [state.next_eq hNextBarred] at hRest ih
    have hMerges := ih hRest hNextBarred
    cases hMark : isBreak c with
    | false => exact mergesKept_run hBarred hMark hMerges
    | true =>
      cases hOpens : opensComment c rest with
      | true => exact mergesKept_comment hBarred hOpens hMerges
      | false => exact mergesKept_mark hBarred hMark hOpens hFails hMerges

/-! What merging keeps -/

def Segment.isLiteral (segment : Segment) : Bool :=
  segment.kind == .string || segment.kind == .template || segment.kind == .regex

theorem Segment.isLiteral_comment {segment : Segment} (h : segment.isComment = true) :
    segment.isLiteral = false := by
  obtain ⟨kind, text, nested⟩ := segment
  cases kind with
  | lineComment => rfl
  | blockComment => rfl
  | _ => cases h

theorem mem_pendingCode {code : List Char} {nested : Bool} {segment : Segment}
    (h : segment ∈ pendingCode code nested) : segment.kind = .code := by
  unfold pendingCode at h
  split at h
  · cases h
  · obtain rfl := List.mem_singleton.mp h
    rfl

theorem filter_pendingCode (code : List Char) (nested : Bool) :
    (pendingCode code nested).filter Segment.isLiteral = [] := by
  apply List.filter_eq_nil_iff.mpr
  intro segment hSegment
  simp [Segment.isLiteral, mem_pendingCode hSegment]

theorem lexemes_pendingCode (code : List Char) (nested : Bool) :
    (pendingCode code nested).flatMap Segment.lexemes =
      (Segment.mk .code code nested).lexemes := by
  unfold pendingCode
  cases code with
  | nil =>
    rw [Segment.lexemes_code, lexemes_nil]
    cases nested <;> rfl
  | cons c rest => exact List.flatMap_singleton _ _

namespace Merges

variable {pending : List Char} {nested : Bool} {segments merged : List Segment}

theorem isComment (h : Merges pending nested segments merged) :
    ∀ segment ∈ merged, segment.isComment = false := by
  have hCode : ∀ {code nested}, ∀ segment ∈ pendingCode code nested,
      segment.isComment = false := by
    intro code nested segment hSegment
    simp [Segment.isComment, mem_pendingCode hSegment]
  induction h with
  | done => exact hCode
  | comment _ _ ih => exact ih
  | run _ _ ih => exact ih
  | mark hMark _ ih =>
    intro segment hSegment
    obtain hSegment | hSegment := List.mem_append.mp hSegment
    · exact hCode segment hSegment
    · obtain rfl | hSegment := List.mem_cons.mp hSegment
      · exact hMark
      · exact ih segment hSegment

theorem literals (h : Merges pending nested segments merged) :
    merged.filter Segment.isLiteral = segments.filter Segment.isLiteral := by
  induction h with
  | done => exact filter_pendingCode _ _
  | comment hComment _ ih =>
    rw [ih, List.filter_cons_of_neg (by simp [Segment.isLiteral_comment hComment])]
  | run _ _ ih => rw [ih, List.filter_cons_of_neg (by simp [Segment.isLiteral])]
  | mark _ _ ih =>
    rw [List.filter_append, filter_pendingCode, List.nil_append, List.filter_cons,
      List.filter_cons, ih]

theorem lexemes (h : Merges pending nested segments merged) :
    merged.flatMap Segment.lexemes =
      (Segment.mk .code pending nested).lexemes ++ segments.flatMap Segment.lexemes := by
  induction h with
  | done => rw [lexemes_pendingCode, List.flatMap_nil, List.append_nil]
  | comment hComment _ ih =>
    have hBlank := fun c => Segment.separates_kept (c := c) hComment
    rw [ih, Segment.lexemes_code_append (Parted.of_blank hBlank _),
      Segment.lexemes_code_blank hBlank, List.append_nil, List.flatMap_cons,
      Segment.lexemes_comment hComment, List.nil_append]
  | run hParted _ ih =>
    rw [ih, Segment.lexemes_code_append hParted, List.append_assoc, List.flatMap_cons]
  | @mark _ _ after _ _ _ _ _ ih =>
    have hEmpty : (Segment.mk .code [] after).lexemes = [] :=
      Segment.lexemes_code_blank (by simp) after
    rw [List.flatMap_append, lexemes_pendingCode, List.flatMap_cons, ih, hEmpty, List.nil_append,
      List.flatMap_cons]

end Merges

end SubmissionGate.Script
