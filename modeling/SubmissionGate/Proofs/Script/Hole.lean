import SubmissionGate.Proofs.Script.Partition
import SubmissionGate.Proofs.Script.Place

/-!
# Holes in templates

The text of a template is interrupted by holes: one opens where the text ends at an opener, and the
closer that ends it resumes the template. A step leaves the hole whose template its segment resumes,
finds the segment in the holes that are left and enters the one that the segment opens. `Moves` says
so once for segments of every kind, with what the step does to the depth; the rest of what is said
about holes follows from that.
-/

namespace SubmissionGate.Script

namespace Segment

/-- Template text that ends at the opener of a hole, with no escape in front of it. -/
def OpensHole (segment : Segment) : Prop :=
  segment.kind = .template ∧ ∃ before, segment.text = before ++ ['$', '\x7b'] ∧ ¬Escapes before

def StartsTemplate (segment : Segment) : Prop :=
  segment.kind = .template ∧ segment.text.head? = some '`'

def ResumesTemplate (segment : Segment) : Prop :=
  segment.kind = .template ∧ segment.text.head? = some '\x7d'

def IsBrace (brace : Char) (segment : Segment) : Prop :=
  segment.kind = .code ∧ segment.text = [brace]

/-- A closer in code position starts a segment: inside of one it belongs to a literal or comment. -/
def StartsAtCloser (segment : Segment) : Prop := segment.text.head? = some '\x7d'

theorem opensHole_iff (segment : Segment) :
    segment.OpensHole ↔ segment.kind = .template ∧ ['$', '\x7b'] <:+ segment.text ∧
      ¬Escapes segment.text.dropLast.dropLast := by
  have hFront : ∀ before, (before ++ ['$', '\x7b']).dropLast.dropLast = before := by
    intro before
    rw [List.append_cons, List.dropLast_concat, List.dropLast_concat]
  apply and_congr_right
  rintro -
  constructor
  · rintro ⟨before, hText, hPlain⟩
    exact ⟨⟨before, hText.symm⟩, by rwa [hText, hFront]⟩
  · rintro ⟨⟨before, hText⟩, hPlain⟩
    exact ⟨before, hText.symm, by rwa [← hText, hFront] at hPlain⟩

instance : DecidablePred OpensHole := fun segment =>
  decidable_of_iff' _ segment.opensHole_iff

instance : DecidablePred ResumesTemplate := fun segment =>
  inferInstanceAs (Decidable (segment.kind = .template ∧ _))

instance (brace : Char) : DecidablePred (IsBrace brace) := fun segment =>
  inferInstanceAs (Decidable (segment.kind = .code ∧ _))

instance : DecidablePred StartsAtCloser := fun segment =>
  inferInstanceAs (Decidable (segment.text.head? = _))

namespace IsBrace

variable {brace : Char} {segment : Segment}

theorem unique {other : Char} (h : segment.IsBrace brace) (hOther : segment.IsBrace other) :
    brace = other := List.singleton_inj.mp (h.2.symm.trans hOther.2)

theorem not_resumesTemplate (h : segment.IsBrace brace) : ¬segment.ResumesTemplate := by
  rintro ⟨hKind, -⟩
  rw [h.1] at hKind
  cases hKind

theorem startsAtCloser (h : segment.IsBrace '\x7d') : segment.StartsAtCloser := by
  rw [StartsAtCloser, h.2]
  rfl

end IsBrace

end Segment

theorem templateTail_opened {source taken : List Char}
    (h : (templateTail source taken).2.2 = true) :
    ∃ inner, (templateTail source taken).1 = taken.reverse ++ inner ++ ['$', '\x7b'] ∧
      ¬Escapes inner := by
  fun_induction templateTail source taken with
  | case1 => cases h
  | case2 c rest taken ih =>
    obtain ⟨inner, hText, hPlain⟩ := ih h
    refine ⟨'\\' :: c :: inner, by simp [hText], ?_⟩
    rwa [escapes_pair]
  | case3 rest taken => exact ⟨[], by simp, not_escapes_nil⟩
  | case4 => cases h
  | case5 c rest taken hEscape hOpens hCloses ih =>
    obtain ⟨inner, hText, hPlain⟩ := ih h
    refine ⟨c :: inner, by simp [hText], ?_⟩
    have hBackslash : c ≠ '\\' := by
      rintro rfl
      cases rest with
      | nil => cases h
      | cons second rest => exact hEscape second rest rfl rfl
    rwa [escapes_cons hBackslash]

theorem opensHole_templateTail {opener : Char} (hOpener : opener = '`' ∨ opener = '\x7d')
    (rest : List Char) (nested : Bool) :
    (Segment.mk .template (templateTail rest [opener]).1 nested).OpensHole ↔
      (templateTail rest [opener]).2.2 = true := by
  have hEscape : opener ≠ '\\' := by
    rintro rfl
    simp at hOpener
  constructor
  · rintro ⟨-, before, hBefore, hPlain⟩
    obtain ⟨inner, closer, -, hText, hInner, ⟨rfl, -⟩ | ⟨-, hCloser⟩⟩ :=
      templateTail_reads rest [opener]
    · -- No opener stands in text that the end of the script cuts off.
      have hSame : before ++ ['$', '\x7b'] = opener :: inner := by
        rw [← hBefore, hText]
        simp
      obtain ⟨rfl, hFirst⟩ | ⟨inside, rfl, rfl⟩ := List.append_eq_cons_iff.mp hSame
      · obtain rfl := (List.cons.inj hFirst).1
        simp at hOpener
      · rw [escapes_cons hEscape] at hPlain
        exact absurd ⟨inside, [], by simp, hPlain⟩ (hInner ['$', '\x7b'] (by simp))
    · cases hOpened : (templateTail rest [opener]).2.2 with
      | true => rfl
      | false =>
        rw [hOpened] at hCloser
        obtain rfl : closer = ['`'] := hCloser
        have hLast := congrArg List.getLast? (hBefore.symm.trans hText)
        rw [List.append_cons, List.getLast?_concat, List.getLast?_concat] at hLast
        cases hLast
  · intro hOpened
    obtain ⟨inner, hText, hPlain⟩ := templateTail_opened hOpened
    exact ⟨rfl, opener :: inner, by simp [hText], by rwa [escapes_cons hEscape]⟩

/-! What a step does -/

/-- What a step does to the depth and the holes, told by its segment. The segment lies in the holes
`around` it. -/
structure Moves (state : ScanState) (segment : Segment) (around : List Nat) (after : ScanState) :
    Prop where
  left : state.holes = if segment.ResumesTemplate then state.depth :: around else around
  nested : segment.nested = !around.isEmpty
  entered : after.holes = if segment.OpensHole then after.depth :: around else around
  depth : after.depth =
    if segment.IsBrace '\x7b' then state.depth + 1
    else if segment.IsBrace '\x7d' then state.depth - 1 else state.depth
  resumes : segment.StartsAtCloser → state.holes.head? = some state.depth →
    segment.ResumesTemplate
  closes : segment.StartsAtCloser → state.holes.head? ≠ some state.depth → segment.IsBrace '\x7d'

namespace ScanState

variable (state : ScanState)

structure Still (step : Step) : Prop where
  kind : step.segment.kind ≠ .template
  nested : step.segment.nested = state.nested
  depth : step.state.depth = state.depth
  holes : step.state.holes = state.holes

theorem Still.moves {state : ScanState} {step : Step} (h : state.Still step) {c : Char}
    {text : List Char} (hText : step.segment.text = c :: text) (hOpen : c ≠ '\x7b')
    (hClose : c ≠ '\x7d') : Moves state step.segment state.holes step.state := by
  have hResumes : ¬step.segment.ResumesTemplate := fun hTemplate => h.kind hTemplate.1
  have hOpens : ¬step.segment.OpensHole := fun hTemplate => h.kind hTemplate.1
  have hBrace : ∀ brace, step.segment.IsBrace brace → c = brace := by
    rintro brace ⟨-, hBrace⟩
    rw [hText] at hBrace
    exact (List.cons.inj hBrace).1
  have hStarts : ¬step.segment.StartsAtCloser := by
    simpa [Segment.StartsAtCloser, hText] using hClose
  exact {
    left := by rw [if_neg hResumes]
    nested := h.nested
    entered := by rw [if_neg hOpens, h.holes]
    depth := by
      rw [if_neg fun hOpener => hOpen (hBrace _ hOpener),
        if_neg fun hCloser => hClose (hBrace _ hCloser), h.depth]
    resumes := fun hCloser => absurd hCloser hStarts
    closes := fun hCloser => absurd hCloser hStarts }

theorem templateStep_text (c : Char) (rest : List Char) :
    ∃ text, (state.templateStep c rest).segment.text = c :: text := by
  obtain ⟨inner, closer, -, hText, -⟩ := templateTail_reads rest [c]
  exact ⟨inner ++ closer, by simp [templateStep, hText]⟩

/-- Template text is found in the holes that are left once its closer has ended one. -/
theorem templateStep_moves {c : Char} {around : List Nat}
    (h : c = '`' ∧ state.holes = around ∨ c = '\x7d' ∧ state.holes = state.depth :: around)
    (rest : List Char) :
    let step := { state with holes := around }.templateStep c rest
    Moves state step.segment around step.state := by
  intro step
  obtain ⟨text, hText⟩ : ∃ text, step.segment.text = c :: text := templateStep_text _ c rest
  have hKind : step.segment.kind = .template := rfl
  have hBrace : ∀ brace, ¬step.segment.IsBrace brace := fun brace h => absurd h.1 (by simp [hKind])
  have hOpens : step.segment.OpensHole ↔ (templateTail rest [c]).2.2 = true :=
    opensHole_templateTail (h.imp And.left And.left) rest _
  have hResumes : step.segment.ResumesTemplate ↔ c = '\x7d' := by
    simp [Segment.ResumesTemplate, hKind, hText]
  have hStarts : step.segment.StartsAtCloser ↔ c = '\x7d' := by
    simp [Segment.StartsAtCloser, hText]
  exact {
    left := by
      obtain ⟨rfl, hHoles⟩ | ⟨rfl, hHoles⟩ := h
      · rw [if_neg (by simp [hResumes]), hHoles]
      · rw [if_pos (hResumes.mpr rfl), hHoles]
    nested := rfl
    entered := by simp only [hOpens]; rfl
    depth := by rw [if_neg (hBrace _), if_neg (hBrace _)]; rfl
    resumes := fun hCloser _ => hResumes.mpr (hStarts.mp hCloser)
    closes := by
      intro hCloser hOther
      obtain ⟨rfl, -⟩ | ⟨-, hHoles⟩ := h
      · simp [hStarts] at hCloser
      · simp [hHoles] at hOther }

theorem singleStep_moves_opener (rest : List Char) :
    let step := { state with depth := state.depth + 1 }.singleStep '\x7b' rest
    Moves state step.segment state.holes step.state := by
  intro step
  have hStarts : ¬step.segment.StartsAtCloser := by simp [step, Segment.StartsAtCloser, singleStep]
  exact {
    left := rfl
    nested := rfl
    entered := rfl
    depth := rfl
    resumes := fun h => absurd h hStarts
    closes := fun h => absurd h hStarts }

theorem singleStep_moves_closer (hOther : state.holes.head? ≠ some state.depth)
    (rest : List Char) :
    let step := { state with depth := state.depth - 1 }.singleStep '\x7d' rest
    Moves state step.segment state.holes step.state := by
  exact {
    left := rfl
    nested := rfl
    entered := rfl
    depth := rfl
    resumes := fun _ h => absurd h hOther
    closes := fun _ _ => ⟨rfl, rfl⟩ }

theorem slashStep_still (rest : List Char) : state.Still (state.slashStep rest) := by
  unfold slashStep
  repeat' split
  all_goals exact ⟨by simp [singleStep], rfl, rfl, rfl⟩

theorem construct_still {c : Char} (hOpen : c ≠ '\x7b') (hClose : c ≠ '\x7d') (hTick : c ≠ '`')
    (rest : List Char) : state.Still (state.construct c rest) := by
  unfold construct
  split
  · exact ⟨by simp [stringStep], rfl, rfl, rfl⟩
  rw [if_neg (by simpa using hTick), if_neg (by simpa using hClose), if_neg (by simpa using hOpen)]
  split
  · split
    · exact ⟨by simp [commentStep], rfl, rfl, rfl⟩
    · exact ⟨by simp [commentStep], rfl, rfl, rfl⟩
    · exact state.slashStep_still rest
  · exact ⟨by simp [codeStep], rfl, rfl, rfl⟩

theorem construct_closer_ends {outer : List Nat} (hHoles : state.holes = state.depth :: outer)
    (rest : List Char) :
    state.construct '\x7d' rest = { state with holes := outer }.templateStep '\x7d' rest := by
  simp [construct, hHoles]

theorem construct_closer_lowers (hOther : state.holes.head? ≠ some state.depth)
    (rest : List Char) :
    state.construct '\x7d' rest =
      { state with depth := state.depth - 1 }.singleStep '\x7d' rest := by
  cases hHoles : state.holes with
  | nil => simp [construct, hHoles]
  | cons hole outer =>
    have hDepth : hole ≠ state.depth := by simpa [hHoles] using hOther
    simp [construct, hHoles, hDepth]

theorem construct_moves (c : Char) (rest : List Char) :
    ∃ around, Moves state (state.construct c rest).segment around
      (state.construct c rest).state := by
  by_cases hOpen : c = '\x7b'
  · subst hOpen
    exact ⟨state.holes, state.singleStep_moves_opener rest⟩
  by_cases hClose : c = '\x7d'
  · subst hClose
    by_cases hHead : state.holes.head? = some state.depth
    · obtain ⟨outer, hHoles⟩ := List.head?_eq_some_iff.mp hHead
      rw [state.construct_closer_ends hHoles]
      exact ⟨outer, state.templateStep_moves (.inr ⟨rfl, hHoles⟩) rest⟩
    · rw [state.construct_closer_lowers hHead]
      exact ⟨state.holes, state.singleStep_moves_closer hHead rest⟩
  by_cases hTick : c = '`'
  · subst hTick
    exact ⟨state.holes, state.templateStep_moves (.inl ⟨rfl, rfl⟩) rest⟩
  · obtain ⟨text, hText⟩ := state.construct_text c rest
    exact ⟨state.holes, (state.construct_still hOpen hClose hTick rest).moves hText hOpen hClose⟩

theorem afterText_depth (text : List Char) : (state.afterText text).depth = state.depth := by
  unfold afterText
  split <;> rfl

theorem afterText_holes (text : List Char) : (state.afterText text).holes = state.holes := by
  unfold afterText
  split <;> rfl

theorem next_moves (c : Char) (rest : List Char) :
    ∃ around, Moves state (state.next c rest).segment around (state.next c rest).state := by
  obtain ⟨around, hMoves⟩ := state.construct_moves c rest
  refine ⟨around, { hMoves with entered := ?_, depth := ?_ }⟩
  · simp only [next, afterText_depth, afterText_holes]
    exact hMoves.entered
  · simp only [next, afterText_depth]
    exact hMoves.depth

theorem next_startsAtCloser (rest : List Char) :
    (state.next '\x7d' rest).segment.StartsAtCloser := by
  obtain ⟨text, hText⟩ := state.construct_text '\x7d' rest
  rw [Segment.StartsAtCloser, next_segment, hText, List.head?_cons]

/-! What every step keeps -/

/-- The depths at which the open holes began do not fall from the outermost to the innermost, and
none of them lies above the depth of the scan. -/
structure HolesNest : Prop where
  sorted : state.holes.Pairwise (· ≥ ·)
  bounded : ∀ hole ∈ state.holes, hole ≤ state.depth

theorem holesNest_iff : state.HolesNest ↔ (state.depth :: state.holes).Pairwise (· ≥ ·) := by
  rw [List.pairwise_cons]
  exact ⟨fun h => ⟨h.bounded, h.sorted⟩, fun h => ⟨h.2, h.1⟩⟩

theorem start_holesNest : start.HolesNest := ⟨.nil, by simp [start]⟩

end ScanState

namespace Moves

variable {state after : ScanState} {segment : Segment} {around : List Nat}

theorem head?_ne_depth (h : Moves state segment around after) (hBrace : segment.IsBrace '\x7d') :
    state.holes.head? ≠ some state.depth := by
  intro hHead
  exact hBrace.not_resumesTemplate (h.resumes hBrace.startsAtCloser hHead)

theorem lt_depth (h : Moves state segment around after) (hNest : state.HolesNest)
    (hBrace : segment.IsBrace '\x7d') : ∀ hole ∈ state.holes, hole < state.depth := by
  have hOther := h.head?_ne_depth hBrace
  obtain ⟨hSorted, hBounded⟩ := hNest
  cases hHoles : state.holes with
  | nil => simp
  | cons inner outer =>
    rw [hHoles] at hOther hSorted hBounded
    have hInner : inner < state.depth :=
      Nat.lt_of_le_of_ne (hBounded inner List.mem_cons_self) (by simpa using hOther)
    intro hole hHole
    obtain rfl | hHole := List.mem_cons.mp hHole
    · exact hInner
    · exact Nat.lt_of_le_of_lt (List.rel_of_pairwise_cons hSorted hHole) hInner

theorem length_left (h : Moves state segment around after) :
    state.holes.length = around.length + if segment.ResumesTemplate then 1 else 0 := by
  rw [h.left]
  split <;> rfl

theorem length_entered (h : Moves state segment around after) :
    after.holes.length = around.length + if segment.OpensHole then 1 else 0 := by
  rw [h.entered]
  split <;> rfl

theorem around_suffix (h : Moves state segment around after) : around <:+ state.holes := by
  rw [h.left]
  split
  · exact List.suffix_cons _ _
  · exact List.suffix_refl _

theorem le_depth (h : Moves state segment around after) (hNest : state.HolesNest) :
    ∀ hole ∈ around, hole ≤ after.depth := by
  intro hole hHole
  have hOld := h.around_suffix.subset hHole
  have hBounded := hNest.bounded hole hOld
  rw [h.depth]
  split
  · exact Nat.le_succ_of_le hBounded
  split
  · next hBrace => exact Nat.le_sub_one_of_lt (h.lt_depth hNest hBrace hole hOld)
  · exact hBounded

theorem holesNest (h : Moves state segment around after) (hNest : state.HolesNest) :
    after.HolesNest := by
  have hSorted : around.Pairwise (· ≥ ·) := hNest.sorted.sublist h.around_suffix.sublist
  have hBounded := h.le_depth hNest
  rw [ScanState.holesNest_iff, h.entered]
  split
  · simpa using ⟨hBounded, hSorted⟩
  · exact List.pairwise_cons.mpr ⟨hBounded, hSorted⟩

/-- Inside a hole a closer resumes the template or lowers the depth by one: the depth is not at zero
there. -/
theorem resumes_or_lowers (h : Moves state segment around after) (hNest : state.HolesNest)
    (hInside : state.holes ≠ []) (hStarts : segment.StartsAtCloser) :
    segment.ResumesTemplate ∨ segment.IsBrace '\x7d' ∧ after.depth + 1 = state.depth := by
  by_cases hHead : state.holes.head? = some state.depth
  · exact .inl (h.resumes hStarts hHead)
  · have hBrace := h.closes hStarts hHead
    have hOpener : ¬segment.IsBrace '\x7b' := fun h => absurd (h.unique hBrace) (by decide)
    obtain ⟨hole, hHole⟩ := List.exists_mem_of_ne_nil _ hInside
    have hLower := h.lt_depth hNest hBrace hole hHole
    refine .inr ⟨hBrace, ?_⟩
    rw [h.depth, if_neg hOpener, if_pos hBrace]
    omega

end Moves

theorem ComesTo.holesNest {start state : ScanState} {source left : List Char}
    {before : List Segment} (hStart : start.HolesNest)
    (h : ComesTo start source before state left) : state.HolesNest := by
  induction h with
  | here => exact hStart
  | @next before state c rest _ ih =>
    obtain ⟨around, hMoves⟩ := state.next_moves c rest
    exact hMoves.holesNest ih

end SubmissionGate.Script
