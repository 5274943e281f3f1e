import SubmissionGate.Proofs.Script.Escape
import SubmissionGate.Proofs.Script.Scan

/-!
# The shape of segments

What a segment of each kind looks like is said without its reader: how it starts, what it does not
contain, and where it ends in the script. The reader of a literal takes one character or one escaped
pair at a time, so its shape follows from the rest of the text by the same two steps.
-/

namespace SubmissionGate.Script

/-- What a segment of a kind looks like in front of what is left of the script, with one rule for
each way of ending. -/
inductive Shaped : SegmentKind → List Char → List Char → Prop where
  | run {text left} (hRun : ∀ c ∈ text, isBreak c = false) : Shaped .code text left
  | single {c left} (hSingle : c = '/' ∨ c = '\x7b' ∨ c = '\x7d') : Shaped .code [c] left
  | closedString {quote inner left} (hQuote : quote = '"' ∨ quote = '\'')
      (hInner : Lacks [[quote], ['\n']] inner) (hPlain : ¬Escapes inner) :
      Shaped .string (quote :: inner ++ [quote]) left
  | brokenString {quote inner left} (hQuote : quote = '"' ∨ quote = '\'')
      (hInner : Lacks [[quote], ['\n']] inner) (hPlain : ¬Escapes inner) :
      Shaped .string (quote :: inner) ('\n' :: left)
  | openString {quote inner} (hQuote : quote = '"' ∨ quote = '\'')
      (hInner : Lacks [[quote], ['\n']] inner) : Shaped .string (quote :: inner) []
  | closedTemplate {opener inner closer left} (hOpener : opener = '`' ∨ opener = '\x7d')
      (hInner : Lacks [['`'], ['$', '\x7b']] inner) (hPlain : ¬Escapes inner)
      (hCloser : closer = ['`'] ∨ closer = ['$', '\x7b']) :
      Shaped .template (opener :: inner ++ closer) left
  | openTemplate {opener inner} (hOpener : opener = '`' ∨ opener = '\x7d')
      (hInner : Lacks [['`'], ['$', '\x7b']] inner) : Shaped .template (opener :: inner) []
  | regex {inner left} (hOpens : ∀ c ∈ (inner ++ ['/']).head?, c ≠ '/' ∧ c ≠ '*')
      (hLine : Lacks [['\n'], ['\r']] inner)
      (hFirst : ∀ before after, inner = before ++ '/' :: after → Escapes before ∨ InClass before)
      (hPlain : ¬Escapes inner) (hOutside : ¬InClass inner) :
      Shaped .regex ('/' :: inner ++ ['/']) left
  | lineComment {inner left} (hInner : '\n' ∉ inner) (hEnd : ∀ c ∈ left.head?, c = '\n') :
      Shaped .lineComment ('/' :: '/' :: inner) left
  | closedBlock {inner left} (hInner : ¬['*', '/'] <:+: inner) :
      Shaped .blockComment ('/' :: '*' :: inner ++ ['*', '/']) left
  | openBlock {inner} (hInner : ¬['*', '/'] <:+: inner) :
      Shaped .blockComment ('/' :: '*' :: inner) []

/-! What each reader takes -/

/-- A literal is read behind `taken`: up to a place that is not escaped where it ends, or up to the
end of the script, with none of the marks in front of that place. -/
def Reads (marks : List (List Char)) (ends : List Char → List Char → Prop)
    (source taken text left : List Char) : Prop :=
  ∃ inner closer, source = inner ++ closer ++ left ∧ text = taken.reverse ++ inner ++ closer ∧
    Lacks marks inner ∧ (closer = [] ∧ left = [] ∨ ¬Escapes inner ∧ ends closer left)

namespace Reads

variable {marks : List (List Char)} {ends : List Char → List Char → Prop}
  {source taken text left : List Char}

theorem done (hMarks : [] ∉ marks) (taken : List Char) :
    Reads marks ends [] taken taken.reverse [] :=
  ⟨[], [], rfl, by simp, Lacks.nil hMarks, .inl ⟨rfl, rfl⟩⟩

theorem stop (hMarks : [] ∉ marks) {closer : List Char} (hEnds : ends closer left)
    (hSource : source = closer ++ left) (hText : text = taken.reverse ++ closer) :
    Reads marks ends source taken text left :=
  ⟨[], closer, hSource, by simp [hText], Lacks.nil hMarks, .inr ⟨not_escapes_nil, hEnds⟩⟩

theorem pair (hMarks : ∀ mark ∈ marks, ∃ first rest, mark = first :: rest ∧ first ≠ '\\')
    {c : Char} (h : Reads marks ends source (c :: '\\' :: taken) text left) :
    Reads marks ends ('\\' :: c :: source) taken text left := by
  obtain ⟨inner, closer, rfl, rfl, hInner, hEnd⟩ := h
  refine ⟨'\\' :: c :: inner, closer, by simp, by simp, hInner.pair hMarks c, ?_⟩
  rwa [escapes_pair]

theorem cons {c : Char} (hEscape : ∀ second inner, c = '\\' → source = second :: inner → False)
    (hHead : ∀ mark ∈ marks, ¬mark <+: c :: source)
    (h : Reads marks ends source (c :: taken) text left) :
    Reads marks ends (c :: source) taken text left := by
  obtain ⟨inner, closer, rfl, rfl, hInner, hEnd⟩ := h
  have hNil : c = '\\' → inner ++ closer ++ left = [] := by
    intro hBackslash
    cases hRest : inner ++ closer ++ left with
    | nil => rfl
    | cons second rest => exact (hEscape second rest hBackslash hRest).elim
  refine ⟨c :: inner, closer, by simp, by simp, hInner.cons ?_ ?_, ?_⟩
  · intro hBackslash
    exact (List.append_eq_nil_iff.mp (List.append_eq_nil_iff.mp (hNil hBackslash)).1).1
  · intro mark hMark hStarts
    exact hHead mark hMark (hStarts.trans ⟨closer ++ left, by simp⟩)
  · by_cases hBackslash : c = '\\'
    · obtain ⟨hRead, hLeft⟩ := List.append_eq_nil_iff.mp (hNil hBackslash)
      exact .inl ⟨(List.append_eq_nil_iff.mp hRead).2, hLeft⟩
    · rwa [escapes_cons hBackslash]

end Reads

/-- A string ends at its quote or in front of the end of its line. -/
def StringEnds (quote : Char) (closer left : List Char) : Prop :=
  closer = [quote] ∨ closer = [] ∧ left.head? = some '\n'

theorem stringTail_reads {quote : Char} (hQuote : quote ≠ '\\') (source taken : List Char) :
    Reads [[quote], ['\n']] (StringEnds quote) source taken
      (stringTail quote source taken).1 (stringTail quote source taken).2 := by
  fun_induction stringTail quote source taken with
  | case1 taken => exact Reads.done (by simp) taken
  | case2 c rest taken ih => exact ih.pair (by simp [hQuote])
  | case3 c rest taken hEscape hCloses =>
    obtain rfl : c = quote := by simpa using hCloses
    exact Reads.stop (by simp) (.inl rfl) rfl (List.reverse_cons)
  | case4 c rest taken hEscape hCloses hBreak =>
    obtain rfl : c = '\n' := by simpa using hBreak
    exact Reads.stop (by simp) (.inr ⟨rfl, rfl⟩) rfl (List.append_nil _).symm
  | case5 c rest taken hEscape hCloses hBreak ih =>
    refine ih.cons hEscape ?_
    have hQuoted : quote ≠ c := Ne.symm (by simpa using hCloses)
    have hBroken : '\n' ≠ c := Ne.symm (by simpa using hBreak)
    simp [List.cons_prefix_cons, hQuoted, hBroken]

/-- Template text ends at its backtick or at the opener of an interpolation. -/
def TemplateEnds (opened : Bool) (closer _left : List Char) : Prop :=
  closer = if opened then ['$', '\x7b'] else ['`']

theorem templateTail_reads (source taken : List Char) :
    Reads [['`'], ['$', '\x7b']] (TemplateEnds (templateTail source taken).2.2) source taken
      (templateTail source taken).1 (templateTail source taken).2.1 := by
  fun_induction templateTail source taken with
  | case1 taken => exact Reads.done (by simp) taken
  | case2 c rest taken ih => exact ih.pair (by simp)
  | case3 rest taken => exact Reads.stop (by simp) rfl rfl (by simp)
  | case4 c rest taken hEscape hOpens hCloses =>
    obtain rfl : c = '`' := by simpa using hCloses
    exact Reads.stop (by simp) rfl rfl (List.reverse_cons)
  | case5 c rest taken hEscape hOpens hCloses ih =>
    refine ih.cons hEscape ?_
    have hTick : '`' ≠ c := Ne.symm (by simpa using hCloses)
    have hPlain : '$' = c → ¬['\x7b'] <+: rest := by
      rintro rfl ⟨inner, rfl⟩
      exact hOpens inner rfl rfl
    simpa [List.cons_prefix_cons, hTick] using hPlain

theorem blockTail_reads (source taken : List Char) :
    ∃ inner closer, source = inner ++ closer ++ (blockTail source taken).2 ∧
      (blockTail source taken).1 = taken.reverse ++ inner ++ closer ∧ ¬['*', '/'] <:+: inner ∧
      (closer = ['*', '/'] ∨ closer = [] ∧ (blockTail source taken).2 = []) := by
  fun_induction blockTail source taken with
  | case1 taken => exact ⟨[], [], rfl, by simp, by simp, .inr ⟨rfl, rfl⟩⟩
  | case2 rest taken => exact ⟨[], ['*', '/'], rfl, by simp, by simp, .inl rfl⟩
  | case3 c rest taken hOpen ih =>
    obtain ⟨inner, closer, hSource, hText, hInner, hEnd⟩ := ih
    refine ⟨c :: inner, closer, by simp [← hSource], by simp [hText], ?_, hEnd⟩
    rw [List.infix_cons_iff]
    rintro (⟨after, hAfter⟩ | hLater)
    · obtain ⟨rfl, rfl⟩ := List.cons.inj hAfter
      exact hOpen _ rfl (by rw [hSource]; rfl)
    · exact hInner hLater

theorem regexTail_reads {inClass : Bool} {source taken text left : List Char}
    (h : regexTail inClass source taken = some (text, left)) :
    ∃ inner, source = inner ++ '/' :: left ∧ text = taken.reverse ++ inner ++ ['/'] ∧
      Lacks [['\n'], ['\r']] inner ∧ ¬Escapes inner ∧ ¬InClassFrom inClass inner ∧
      ∀ before after, inner = before ++ '/' :: after → Escapes before ∨ InClassFrom inClass before := by
  fun_induction regexTail inClass source taken with
  | case1 => cases h
  | case2 inClass c rest taken ih =>
    obtain ⟨inner, rfl, rfl, hLine, hPlain, hOutside, hFirst⟩ := ih h
    refine ⟨'\\' :: c :: inner, rfl, by simp, hLine.pair (by simp) c, ?_, ?_, ?_⟩
    · rwa [escapes_pair]
    · rwa [inClassFrom_pair]
    · intro before after hInner
      by_cases hEscaped : Escapes before
      · exact .inl hEscaped
      · obtain ⟨between, rfl, rfl, hBetween⟩ := append_eq_pair hInner (by simp) hEscaped
        rw [inClassFrom_pair]
        exact .inr ((hFirst between after rfl).resolve_left hBetween)
  | case3 => cases h
  | case4 inClass c rest taken hEscape hBreak hCloses =>
    obtain ⟨rfl, rfl⟩ := Prod.mk.inj (Option.some.inj h)
    obtain ⟨hSlash, hClass⟩ := (Bool.and_eq_true _ _).mp hCloses
    obtain rfl : c = '/' := by simpa using hSlash
    refine ⟨[], rfl, by simp, Lacks.nil (by simp), not_escapes_nil, ?_, by simp⟩
    simpa [inClassFrom_nil] using hClass
  | case5 inClass c rest taken hEscape hBreak hCloses _ ih =>
    have hBackslash : c ≠ '\\' := by
      intro hBackslash
      cases rest with
      | nil => cases h
      | cons second tail => exact hEscape second tail hBackslash rfl
    obtain ⟨inner, rfl, rfl, hLine, hPlain, hOutside, hFirst⟩ := ih h
    obtain ⟨hFeed, hReturn⟩ : c ≠ '\n' ∧ c ≠ '\r' := by simpa using hBreak
    refine ⟨c :: inner, rfl, by simp, hLine.cons (absurd · hBackslash) ?_, ?_, ?_, ?_⟩
    · simp [List.cons_prefix_cons, hFeed.symm, hReturn.symm]
    · rwa [escapes_cons hBackslash]
    · rwa [inClassFrom_cons hBackslash]
    · intro before after hInner
      cases before with
      | nil =>
        obtain rfl := (List.cons.inj hInner).1
        exact .inr ((inClassFrom_nil inClass).mpr (by simpa using hCloses))
      | cons b before =>
        obtain ⟨rfl, hTail⟩ := List.cons.inj hInner
        rw [escapes_cons hBackslash, inClassFrom_cons hBackslash]
        exact hFirst before after hTail

/-! What each step finds -/

namespace ScanState

variable (state : ScanState)

theorem stringStep_shaped {quote : Char} (hQuote : quote = '"' ∨ quote = '\'')
    (rest : List Char) :
    Shaped .string (state.stringStep quote rest).segment.text
      (state.stringStep quote rest).rest := by
  have hEscape : quote ≠ '\\' := by
    rintro rfl
    simp at hQuote
  change Shaped .string (stringTail quote rest [quote]).1 (stringTail quote rest [quote]).2
  obtain ⟨inner, closer, _, hText, hInner, hEnd⟩ := stringTail_reads hEscape rest [quote]
  rw [hText]
  obtain ⟨rfl, hLeft⟩ | ⟨hPlain, rfl | ⟨rfl, hLeft⟩⟩ := hEnd
  · rw [hLeft, List.append_nil]
    exact .openString hQuote hInner
  · exact .closedString hQuote hInner hPlain
  · obtain ⟨left, hLeft⟩ := List.head?_eq_some_iff.mp hLeft
    rw [hLeft, List.append_nil]
    exact .brokenString hQuote hInner hPlain

theorem templateStep_shaped {opener : Char} (hOpener : opener = '`' ∨ opener = '\x7d')
    (rest : List Char) :
    Shaped .template (state.templateStep opener rest).segment.text
      (state.templateStep opener rest).rest := by
  change Shaped .template (templateTail rest [opener]).1 (templateTail rest [opener]).2.1
  obtain ⟨inner, closer, _, hText, hInner, hEnd⟩ := templateTail_reads rest [opener]
  rw [hText]
  obtain ⟨rfl, hLeft⟩ | ⟨hPlain, hCloser⟩ := hEnd
  · rw [hLeft, List.append_nil]
    exact .openTemplate hOpener hInner
  · refine .closedTemplate hOpener hInner hPlain ?_
    rw [hCloser]
    split
    · exact .inr rfl
    · exact .inl rfl

theorem slashStep_shaped {rest : List Char} (hOpens : opensComment '/' rest = false) :
    Shaped (state.slashStep rest).segment.kind (state.slashStep rest).segment.text
      (state.slashStep rest).rest := by
  unfold slashStep
  split
  · split
    · next text left hTail =>
      obtain ⟨inner, rfl, rfl, hLine, hPlain, hOutside, hFirst⟩ := regexTail_reads hTail
      simp only [inClassFrom_outside] at hOutside hFirst
      refine .regex ?_ hLine hFirst hPlain hOutside
      intro c hHead
      have hStart : (inner ++ '/' :: left).head? = some c := by
        rw [← hHead]
        cases inner <;> rfl
      constructor
      · rintro rfl
        simp [opensComment, hStart] at hOpens
      · rintro rfl
        simp [opensComment, hStart] at hOpens
    · exact .single (.inl rfl)
  · exact .single (.inl rfl)

theorem comment_shaped {rest : List Char} (hOpens : opensComment '/' rest = true) :
    Shaped (state.construct '/' rest).segment.kind (state.construct '/' rest).segment.text
      (state.construct '/' rest).rest := by
  obtain ⟨_, hNext⟩ := (Bool.and_eq_true _ _).mp hOpens
  cases rest with
  | nil => cases hNext
  | cons second inner =>
    obtain rfl | rfl : second = '/' ∨ second = '*' := by simpa using hNext
    · change Shaped .lineComment ('/' :: '/' :: inner.takeWhile (· != '\n'))
        (inner.dropWhile (· != '\n'))
      refine .lineComment ?_ ?_
      · intro hMem
        simpa using List.all_eq_true.mp List.all_takeWhile _ hMem
      · intro c hHead
        have hStop := List.head?_dropWhile_not (· != '\n') inner
        rw [hHead] at hStop
        simpa using hStop
    · change Shaped .blockComment (blockTail inner ['*', '/']).1 (blockTail inner ['*', '/']).2
      obtain ⟨body, closer, _, hText, hBody, rfl | ⟨rfl, hLeft⟩⟩ := blockTail_reads inner ['*', '/']
      · rw [hText]
        exact .closedBlock hBody
      · rw [hText, hLeft, List.append_nil]
        exact .openBlock hBody

/-- A step finds a segment of the shape of its kind, whatever the state. -/
theorem construct_shaped (c : Char) (rest : List Char) :
    Shaped (state.construct c rest).segment.kind (state.construct c rest).segment.text
      (state.construct c rest).rest := by
  by_cases hSlash : c = '/'
  · subst hSlash
    cases hOpens : opensComment '/' rest with
    | true => exact state.comment_shaped hOpens
    | false =>
      rw [construct_slash state hOpens]
      exact state.slashStep_shaped hOpens
  unfold construct
  split
  · next hQuote => exact state.stringStep_shaped (by simpa using hQuote) rest
  split
  · next hTick => exact state.templateStep_shaped (.inl (by simpa using hTick)) rest
  split
  · next hClose =>
    have hClose : c = '\x7d' := by simpa using hClose
    split
    · split
      · exact templateStep_shaped _ (.inr hClose) rest
      · exact .single (.inr (.inr hClose))
    · exact .single (.inr (.inr hClose))
  split
  · next hOpen => exact .single (.inr (.inl (by simpa using hOpen)))
  split
  · next hSlashes => exact absurd (by simpa using hSlashes) hSlash
  · refine .run ?_
    intro d hd
    simpa using List.all_eq_true.mp List.all_takeWhile d hd

end ScanState

/-! What the segments of a script look like -/

def startOf (segments : List Segment) (index : Nat) : Nat :=
  ((segments.take index).flatMap (·.text)).length

/-- Segments that lie one behind another from the start of a script to its end, each of the shape of
its kind in front of what follows it. -/
structure Partition (source : List Char) (segments : List Segment) : Prop where
  first : startOf segments 0 = 0
  last : startOf segments segments.length = source.length
  nonempty : ∀ index < segments.length, startOf segments index < startOf segments (index + 1)
  text : ∀ index (h : index < segments.length), segments[index].text =
    source.extract (startOf segments index) (startOf segments (index + 1))
  shaped : ∀ index (h : index < segments.length),
    Shaped segments[index].kind segments[index].text (source.drop (startOf segments (index + 1)))

theorem segmentsFrom_shaped (state : ScanState) (source : List Char) :
    ∀ before segment after, segmentsFrom state source = before ++ segment :: after →
      segment.text ≠ [] ∧ Shaped segment.kind segment.text (after.flatMap (·.text)) := by
  fun_induction scanFrom state source [] with
  | case1 state found =>
    intro before segment after h
    rw [segmentsFrom_nil] at h
    cases before <;> cases h
  | case2 state found c rest step _ ih =>
    intro before segment after h
    rw [segmentsFrom_cons] at h
    cases before with
    | nil =>
      obtain ⟨rfl, rfl⟩ := List.cons.inj h
      obtain ⟨text, hText⟩ := state.construct_text c rest
      rw [segmentsFrom_spell]
      refine ⟨?_, state.construct_shaped c rest⟩
      rw [state.next_segment, hText]
      exact List.cons_ne_nil _ _
    | cons first before => exact ih before segment after (List.cons.inj h).2

section Positions

variable {segments : List Segment} {index : Nat}

theorem startOf_succ (h : index < segments.length) :
    startOf segments (index + 1) = startOf segments index + segments[index].text.length := by
  unfold startOf
  rw [← List.take_append_getElem h, List.flatMap_append, List.length_append, List.flatMap_singleton]

theorem split_at (h : index < segments.length) :
    segments = segments.take index ++ segments[index] :: segments.drop (index + 1) := by
  rw [List.getElem_cons_drop, List.take_append_drop]

theorem drop_startOf (h : index < segments.length) :
    (segments.flatMap (·.text)).drop (startOf segments index) =
      segments[index].text ++ (segments.drop (index + 1)).flatMap (·.text) := by
  have hSpell : segments.flatMap (·.text) = (segments.take index).flatMap (·.text) ++
      (segments[index].text ++ (segments.drop (index + 1)).flatMap (·.text)) := by
    rw [← List.flatMap_cons, ← List.flatMap_append, ← split_at h]
  rw [startOf, hSpell, List.drop_left]

theorem drop_startOf_succ (h : index < segments.length) :
    (segments.flatMap (·.text)).drop (startOf segments (index + 1)) =
      (segments.drop (index + 1)).flatMap (·.text) := by
  rw [startOf_succ h, ← List.drop_drop, drop_startOf h, List.drop_left]

theorem scan_shaped (source : List Char) (h : index < (scan source).length) :
    (scan source)[index].text ≠ [] ∧ Shaped (scan source)[index].kind (scan source)[index].text
      (source.drop (startOf (scan source) (index + 1))) := by
  have hDrop := drop_startOf_succ h
  rw [scan_spell] at hDrop
  rw [hDrop]
  exact segmentsFrom_shaped .start source _ _ _ (split_at h)

end Positions

/-- The segments of a script are an exact partition of it, and each has the shape of its kind. A
step takes at least one character in every state. -/
theorem scan_partition (source : List Char) :
    Partition source (scan source) ∧ (scan source = [] ↔ source = []) ∧
      ∀ (state : ScanState) (c : Char) (rest : List Char),
        (state.next c rest).rest.length < (c :: rest).length := by
  refine ⟨?_, ?_, fun state c rest => Nat.lt_succ_of_le (state.next_length c rest)⟩
  · exact {
      first := rfl
      last := by rw [startOf, List.take_length, scan_spell]
      nonempty := by
        intro index h
        have hText := List.length_pos_iff.mpr (scan_shaped source h).1
        rw [startOf_succ h]
        omega
      text := by
        intro index h
        have hDrop := drop_startOf h
        rw [scan_spell] at hDrop
        rw [List.extract_eq_take_drop, hDrop, startOf_succ h, Nat.add_sub_cancel_left,
          List.take_left]
      shaped := fun index h => (scan_shaped source h).2 }
  · constructor
    · intro hNone
      rw [← scan_spell source, hNone, List.flatMap_nil]
    · rintro rfl
      exact segmentsFrom_nil .start

end SubmissionGate.Script
