import Mathlib.Data.List.TakeWhile
import SubmissionGate.Proofs.Script.Partition
import SubmissionGate.Proofs.Script.Passes
import SubmissionGate.Script.ApiUse

/-!
# Where line comments end

A line of a script ends at a line feed, a carriage return, a line separator or a paragraph
separator. The scan ends a line comment at a line feed only, so a comment may take in code of the
lines behind it. Beside it stands a scan that ends line comments at each of the four, and the two
are the same exactly where no comment goes beyond its line. Strings and regular expressions are read
alike in both; where their lines end is not asked here.
-/

namespace SubmissionGate.Script

def endsLine (c : Char) : Bool := c == '\n' || c == '\r' || c == '\u2028' || c == '\u2029'

def opensLineComment (c : Char) (rest : List Char) : Bool := c == '/' && rest.head? == some '/'

namespace ScanState

variable (state : ScanState)

/-- A step that ends a line comment at the end of its line. -/
def lineStep (c : Char) (rest : List Char) : Step :=
  if opensLineComment c rest then
    state.commentStep .lineComment (c :: rest.takeWhile (!endsLine ·))
      (rest.dropWhile (!endsLine ·))
  else state.next c rest

theorem lineStep_length (c : Char) (rest : List Char) :
    (state.lineStep c rest).rest.length ≤ rest.length := by
  unfold lineStep
  split
  · exact (List.dropWhile_sublist _).length_le
  · exact state.next_length c rest

end ScanState

/-- The segments from a state on where each line comment ends with its line. -/
def lineScanFrom (state : ScanState) (source : List Char) : List Segment :=
  match source with
  | [] => []
  | c :: rest =>
    have := state.lineStep_length c rest
    (state.lineStep c rest).segment ::
      lineScanFrom (state.lineStep c rest).state (state.lineStep c rest).rest
termination_by source.length

def lineScan (source : List Char) : List Segment := lineScanFrom .start source

/-- A segment that is no comment, or a comment that stays within its line. -/
def Segment.WithinLine (segment : Segment) : Prop :=
  segment.kind = .lineComment → ∀ c ∈ segment.text, endsLine c = false

namespace ScanState

variable (state : ScanState)

theorem construct_kind_lineComment {c : Char} {rest : List Char}
    (h : (state.construct c rest).segment.kind = .lineComment) : opensLineComment c rest = true := by
  have hShaped := state.construct_shaped c rest
  have hAppend := state.construct_append c rest
  rw [h] at hShaped
  generalize (state.construct c rest).segment.text = text at hShaped hAppend
  generalize (state.construct c rest).rest = left at hShaped hAppend
  cases hShaped with
  | lineComment =>
    obtain ⟨rfl, rfl⟩ := List.cons.inj hAppend
    rfl

theorem construct_lineComment {c : Char} {rest : List Char} (h : opensLineComment c rest = true) :
    state.construct c rest = state.commentStep .lineComment (c :: rest.takeWhile (· != '\n'))
      (rest.dropWhile (· != '\n')) := by
  obtain ⟨hSlash, hNext⟩ := (Bool.and_eq_true _ _).mp h
  obtain rfl : c = '/' := by simpa using hSlash
  obtain ⟨inner, rfl⟩ := List.head?_eq_some_iff.mp (beq_iff_eq.mp hNext)
  rfl

theorem next_lineComment {c : Char} {rest : List Char} (h : opensLineComment c rest = true) :
    state.next c rest = state.commentStep .lineComment (c :: rest.takeWhile (· != '\n'))
      (rest.dropWhile (· != '\n')) := by
  have hStep := state.construct_lineComment h
  have hSlash : '\n' ≠ c := by
    rintro rfl
    cases h
  have hText : '\n' ∉ rest.takeWhile (· != '\n') := by
    intro hMem
    simpa using List.all_eq_true.mp List.all_takeWhile _ hMem
  simp [next, hStep, commentStep, afterText, hSlash, hText]

end ScanState

theorem takeWhile_endsLine {rest : List Char}
    (h : ∀ c ∈ rest.takeWhile (· != '\n'), endsLine c = false) :
    rest.takeWhile (!endsLine ·) = rest.takeWhile (· != '\n') := by
  have hStricter : ∀ c, decide ((!endsLine c) = true ∧ (c != '\n') = true) = !endsLine c := by
    intro c
    by_cases hBreak : c = '\n'
    · subst hBreak
      rfl
    · simp [hBreak]
  calc
    rest.takeWhile (!endsLine ·) = (rest.takeWhile (· != '\n')).takeWhile (!endsLine ·) := by
      rw [List.takeWhile_takeWhile, funext hStricter]
    _ = rest.takeWhile (· != '\n') := by
      rw [List.takeWhile_eq_self_iff]
      intro c hc
      rw [h c hc]
      rfl

theorem dropWhile_endsLine {rest : List Char}
    (h : ∀ c ∈ rest.takeWhile (· != '\n'), endsLine c = false) :
    rest.dropWhile (!endsLine ·) = rest.dropWhile (· != '\n') := by
  have hSame := List.takeWhile_append_dropWhile (p := (!endsLine ·)) (l := rest)
  rw [takeWhile_endsLine h] at hSame
  exact List.append_cancel_left (hSame.trans List.takeWhile_append_dropWhile.symm)

namespace ScanState

variable (state : ScanState)

/-- The two scans make the same step where no comment goes beyond its line. -/
theorem lineStep_eq_next {c : Char} {rest : List Char}
    (h : (state.next c rest).segment.WithinLine) : state.lineStep c rest = state.next c rest := by
  unfold lineStep
  split
  · next hOpens =>
    rw [state.next_lineComment hOpens] at h ⊢
    have hLine : ∀ d ∈ rest.takeWhile (· != '\n'), endsLine d = false := fun d hd =>
      h rfl d (List.mem_cons_of_mem c hd)
    rw [takeWhile_endsLine hLine, dropWhile_endsLine hLine]
  · rfl

theorem lineStep_withinLine (c : Char) (rest : List Char) :
    (state.lineStep c rest).segment.WithinLine := by
  unfold lineStep
  split
  · next hOpens =>
    intro _ d hd
    obtain rfl | hd := List.mem_cons.mp hd
    · obtain ⟨hSlash, _⟩ := (Bool.and_eq_true _ _).mp hOpens
      rw [beq_iff_eq.mp hSlash]
      rfl
    · simpa using List.all_eq_true.mp List.all_takeWhile d hd
  · next hOpens =>
    intro hKind
    exact absurd (state.construct_kind_lineComment hKind) hOpens

end ScanState

theorem lineScanFrom_withinLine (state : ScanState) (source : List Char) :
    ∀ segment ∈ lineScanFrom state source, segment.WithinLine := by
  fun_induction lineScanFrom state source with
  | case1 => simp
  | case2 state c rest _ ih =>
    intro segment hSegment
    obtain rfl | hRest := List.mem_cons.mp hSegment
    · exact state.lineStep_withinLine c rest
    · exact ih segment hRest

theorem lineScanFrom_eq {state : ScanState} {source : List Char}
    (h : ∀ segment ∈ segmentsFrom state source, segment.WithinLine) :
    lineScanFrom state source = segmentsFrom state source := by
  fun_induction lineScanFrom state source with
  | case1 => rw [segmentsFrom_nil]
  | case2 state c rest _ ih =>
    rw [segmentsFrom_cons] at h ⊢
    have hStep := state.lineStep_eq_next (h _ List.mem_cons_self)
    rw [hStep] at ih ⊢
    rw [ih fun segment hSegment => h segment (List.mem_cons_of_mem _ hSegment)]

theorem lineComment_extent {source : List Char} {index : Nat} (h : index < (scan source).length)
    (hKind : (scan source)[index].kind = .lineComment) :
    '\n' ∉ (scan source)[index].text ∧
      ∀ c ∈ (source.drop (startOf (scan source) (index + 1))).head?, c = '\n' := by
  obtain ⟨_, hShaped⟩ := scan_shaped source h
  rw [hKind] at hShaped
  generalize (scan source)[index].text = text at hShaped
  cases hShaped with
  | lineComment hInner hEnd => exact ⟨by simpa using hInner, hEnd⟩

/-! Scripts in which every line ends with a line feed -/

def OnlyFeeds (source : List Char) : Prop := ∀ c ∈ source, endsLine c = true → c = '\n'

theorem mem_of_mem_segment {source : List Char} {segment : Segment} (h : segment ∈ scan source)
    {c : Char} (hc : c ∈ segment.text) : c ∈ source := by
  rw [← scan_spell source]
  exact List.mem_flatMap.mpr ⟨segment, h, hc⟩

namespace OnlyFeeds

variable {source : List Char}

theorem withinLine (h : OnlyFeeds source) : ∀ segment ∈ scan source, segment.WithinLine := by
  intro segment hSegment hKind c hc
  obtain ⟨index, hIndex, rfl⟩ := List.getElem_of_mem hSegment
  refine Bool.eq_false_iff.mpr ?_
  intro hEnds
  rw [h c (mem_of_mem_segment hSegment hc) hEnds] at hc
  exact (lineComment_extent hIndex hKind).1 hc

theorem pass (h : OnlyFeeds source) : OnlyFeeds (stripPass source) := by
  intro c hc hEnds
  obtain ⟨segment, hSegment, hKept⟩ := List.mem_flatMap.mp hc
  cases hComment : segment.isComment with
  | true =>
    obtain rfl | hFeed := Segment.mem_kept_comment hComment hKept
    · cases hEnds
    · exact hFeed
  | false =>
    rw [Segment.kept_of_not_comment hComment] at hKept
    exact h c (mem_of_mem_segment hSegment hKept) hEnds

theorem passes (h : OnlyFeeds source) (count : Nat) : OnlyFeeds (stripWithin count source) := by
  induction count generalizing source with
  | zero => exact h
  | succ count ih =>
    rw [stripWithin_succ]
    exact ih h.pass

end OnlyFeeds

/-- A line comment runs to the next line feed, so comments stay within their lines exactly where the
scan is the one that ends a comment with its line. In a script in which every line ends with a line
feed they do, in each pass. -/
theorem lineComments_withinLine_iff (source : List Char) :
    (∀ index (h : index < (scan source).length), (scan source)[index].kind = .lineComment →
      '\n' ∉ (scan source)[index].text ∧
        ∀ c ∈ (source.drop (startOf (scan source) (index + 1))).head?, c = '\n') ∧
    ((∀ segment ∈ scan source, segment.WithinLine) ↔ scan source = lineScan source) ∧
    (OnlyFeeds source → ∀ passes, ∀ segment ∈ scan (stripWithin passes source),
      segment.WithinLine) := by
  refine ⟨fun _ => lineComment_extent, ⟨?_, ?_⟩, fun h passes => (h.passes passes).withinLine⟩
  · intro hWithin
    exact (lineScanFrom_eq hWithin).symm
  · intro hSame
    rw [hSame]
    exact lineScanFrom_withinLine .start source

def overrunScript : List Char := "//\rfetch(1)".toList

/-- The comment takes in the call, and no rule finds it in what is left. -/
theorem lineComment_overruns :
    ¬(∀ segment ∈ scan overrunScript, segment.WithinLine) ∧
      stripComments overrunScript = [] ∧
      forbiddenUses (Text.collapse overrunScript) Rules.forbiddenTokens = [⟨"fetch(", "network"⟩] ∧
      forbiddenUses (Text.collapse (stripComments overrunScript)) Rules.forbiddenTokens = [] := by
  have hScan : scan overrunScript = [⟨.lineComment, overrunScript, false⟩] := by decide +kernel
  refine ⟨?_, by decide +kernel, by decide +kernel, by decide +kernel⟩
  rw [hScan]
  intro hWithin
  have hCarriage := hWithin _ List.mem_cons_self rfl '\r' (by decide)
  cases hCarriage

end SubmissionGate.Script
