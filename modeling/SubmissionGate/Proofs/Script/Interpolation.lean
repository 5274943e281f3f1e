import Mathlib.Logic.Relation
import Mathlib.Order.Bounds.Defs
import SubmissionGate.Proofs.Script.HoleLevel

/-!
# Interpolations and their braces

All braces of a script share one depth, yet every interpolation is ended by a closer of its own: the
first one in code position at which its own braces balance. While a hole is open the depths of the
holes show how many of its braces are, whatever holes were opened inside it (`Gauge`), so the depth
at a closer tells whether they balance.
-/

namespace SubmissionGate.Script

/-! ## The braces of one hole -/

/-- How many braces of a kind stand in a hole in front of an index, those in holes inside it left
out. -/
def ownBraces (segments : List Segment) (brace : Char) (opener index : Nat) : Nat :=
  Nat.count (fun inner => opener < inner ∧ At segments (Segment.IsBrace brace) inner ∧
    Settled segments opener inner) index

/-- A closer in code position, in no hole inside the one that opens at `opener`, at which the braces
of that hole balance. -/
def BalancesAt (segments : List Segment) (opener closer : Nat) : Prop :=
  opener < closer ∧ At segments Segment.StartsAtCloser closer ∧ Settled segments opener closer ∧
    ownBraces segments '\x7b' opener closer = ownBraces segments '\x7d' opener closer

instance (segments : List Segment) (opener closer : Nat) :
    Decidable (BalancesAt segments opener closer) :=
  inferInstanceAs (Decidable (_ ∧ _ ∧ _ ∧ _))

/-- The depth of a scan on top of the depths at which its holes began shows how many braces are open
in one of the holes. The `holes` are those from that one outwards, and `inner` others are inside. -/
inductive Gauge (holes : List Nat) : List Nat → Nat → Nat → Prop where
  | own {depth base braces : Nat} {outer : List Nat} (hHoles : holes = base :: outer)
      (hDepth : depth = base + braces) : Gauge holes (depth :: holes) 0 braces
  | inside {depths : List Nat} {inner braces : Nat} (depth : Nat)
      (h : Gauge holes depths inner braces) : Gauge holes (depth :: depths) (inner + 1) braces

theorem Gauge.innermost {holes depths : List Nat} {depth braces : Nat}
    (h : Gauge holes (depth :: depths) 0 braces) :
    depths = holes ∧ ∃ base outer, holes = base :: outer ∧ depth = base + braces := by
  cases h with
  | own hHoles hDepth => exact ⟨rfl, _, _, hHoles, hDepth⟩

namespace Moves

variable {state after : ScanState} {segment : Segment} {around holes : List Nat}
  {inner braces : Nat}

theorem gauge_around (h : Moves state segment around after)
    (hGauge : Gauge holes (state.depth :: state.holes)
      (inner + if segment.ResumesTemplate then 1 else 0) braces) :
    Gauge holes (state.depth :: around) inner braces := by
  rw [h.left] at hGauge
  split at hGauge
  · cases hGauge with
    | inside _ hGauge => exact hGauge
  · exact hGauge

theorem gauge_depth (h : Moves state segment around after)
    (hGauge : Gauge holes (state.depth :: around) inner braces) :
    ∃ left, Gauge holes (after.depth :: around) inner left ∧
      left + (if segment.IsBrace '\x7d' ∧ inner = 0 then 1 else 0) =
        braces + if segment.IsBrace '\x7b' ∧ inner = 0 then 1 else 0 := by
  cases hGauge with
  | inside _ hGauge => exact ⟨braces, .inside _ hGauge, by simp⟩
  | @own _ base _ outer hHoles hDepth =>
    have hAfter := h.depth
    by_cases hOpener : segment.IsBrace '\x7b'
    · have hCloser : ¬segment.IsBrace '\x7d' := fun hCloser =>
        absurd (hOpener.unique hCloser) (by decide)
      rw [if_pos hOpener] at hAfter
      exact ⟨braces + 1, .own hHoles (by omega), by simp [hOpener, hCloser]⟩
    · by_cases hCloser : segment.IsBrace '\x7d'
      · rw [if_neg hOpener, if_pos hCloser] at hAfter
        have hOther := h.head?_ne_depth hCloser
        rw [h.left, if_neg hCloser.not_resumesTemplate, hHoles, List.head?_cons] at hOther
        have hBraces : braces ≠ 0 := by
          rintro rfl
          exact hOther (by rw [hDepth, Nat.add_zero])
        exact ⟨braces - 1, .own hHoles (by omega), by simp [hOpener, hCloser]; omega⟩
      · rw [if_neg hOpener, if_neg hCloser] at hAfter
        exact ⟨braces, .own hHoles (by omega), by simp [hOpener, hCloser]⟩

theorem gauge (h : Moves state segment around after)
    (hGauge : Gauge holes (state.depth :: state.holes)
      (inner + if segment.ResumesTemplate then 1 else 0) braces) :
    ∃ left, Gauge holes (after.depth :: after.holes)
        (inner + if segment.OpensHole then 1 else 0) left ∧
      left + (if segment.IsBrace '\x7d' ∧ inner = 0 then 1 else 0) =
        braces + if segment.IsBrace '\x7b' ∧ inner = 0 then 1 else 0 := by
  obtain ⟨left, hLeft, hBraces⟩ := h.gauge_depth (h.gauge_around hGauge)
  refine ⟨left, ?_, hBraces⟩
  rw [h.entered]
  split
  · exact .inside _ hLeft
  · exact hLeft

end Moves

/-! ## Along a scan -/

theorem at_length (before : List Segment) (segment : Segment) (after : List Segment)
    (property : Segment → Prop) :
    At (before ++ segment :: after) property before.length ↔ property segment := by
  simp [At]

theorem segmentsFrom_eq_cons {start : ScanState} {source : List Char} {segment : Segment}
    {after : List Segment} (h : segmentsFrom start source = segment :: after) :
    ∃ c rest, source = c :: rest ∧ segment = (start.next c rest).segment ∧
      after = segmentsFrom (start.next c rest).state (start.next c rest).rest := by
  cases source with
  | nil => simp [segmentsFrom_nil] at h
  | cons c rest =>
    rw [segmentsFrom_cons] at h
    obtain ⟨hSegment, hAfter⟩ := List.cons.inj h
    exact ⟨c, rest, rfl, hSegment.symm, hAfter.symm⟩

theorem exists_place {start : ScanState} {source : List Char} {before after : List Segment}
    {segment : Segment} (h : segmentsFrom start source = before ++ segment :: after) :
    ∃ state c rest, ComesTo start source before state (c :: rest) := by
  induction before generalizing start source with
  | nil =>
    obtain ⟨c, rest, rfl, -⟩ := segmentsFrom_eq_cons h
    exact ⟨start, c, rest, .here⟩
  | cons first before ih =>
    obtain ⟨c, rest, rfl, rfl, hAfter⟩ := segmentsFrom_eq_cons h
    obtain ⟨state, c', rest', hPlace⟩ := ih hAfter.symm
    exact ⟨state, c', rest', hPlace.behind⟩

theorem exists_place_at {source : List Char} {property : Segment → Prop} {index : Nat}
    (h : At (scan source) property index) :
    ∃ before state c rest, ComesTo .start source before state (c :: rest) ∧
      before.length = index := by
  obtain ⟨hIndex, -⟩ := h
  have hSplit : segmentsFrom .start source = _ := split_at hIndex
  obtain ⟨state, c, rest, hPlace⟩ := exists_place hSplit
  exact ⟨_, state, c, rest, hPlace, List.length_take_of_le (Nat.le_of_lt hIndex)⟩

namespace ComesTo

variable {source left rest : List Char} {before : List Segment} {state : ScanState} {c : Char}
  {opener : Nat}

theorem unique_length {front : List Segment} {other : ScanState} {behind : List Char}
    (h : ComesTo .start source before state left)
    (hOther : ComesTo .start source front other behind) (hLength : before.length = front.length) :
    before = front ∧ state = other ∧ left = behind := by
  obtain rfl : before = front :=
    (List.append_inj (h.segmentsFrom_eq.symm.trans hOther.segmentsFrom_eq) hLength).1
  exact ⟨rfl, h.unique hOther⟩

theorem at_iff (h : ComesTo .start source before state (c :: rest))
    (property : Segment → Prop) :
    At (scan source) property before.length ↔ property (state.next c rest).segment := by
  have hScan : scan source = before ++ segmentsFrom state (c :: rest) := h.segmentsFrom_eq
  rw [hScan, segmentsFrom_cons, at_length]

theorem holes_count (h : ComesTo .start source before state left) :
    state.holes.length + Nat.count (At (scan source) Segment.ResumesTemplate) before.length =
      Nat.count (At (scan source) Segment.OpensHole) before.length := by
  induction h with
  | here => rfl
  | @next before state c rest h ih =>
    obtain ⟨around, hMoves⟩ := state.next_moves c rest
    have hLeft := hMoves.length_left
    have hEntered := hMoves.length_entered
    rw [List.length_append, List.length_singleton, Nat.count_succ, Nat.count_succ]
    simp only [h.at_iff]
    omega

end ComesTo

theorem scan_interrupted (source : List Char) : Interrupted (scan source) := by
  intro index hResumes
  obtain ⟨before, state, c, rest, hPlace, rfl⟩ := exists_place_at hResumes
  obtain ⟨around, hMoves⟩ := state.next_moves c rest
  have hCount := hPlace.holes_count
  have hLeft := hMoves.length_left
  rw [if_pos ((hPlace.at_iff _).mp hResumes)] at hLeft
  omega

theorem Interrupted.ownBraces_succ {segments : List Segment} (h : Interrupted segments)
    {opener index : Nat} (hOpens : At segments Segment.OpensHole opener) (hOrder : opener < index)
    (hOpen : StaysOpen segments opener index) (brace : Char) :
    ownBraces segments brace opener (index + 1) = ownBraces segments brace opener index +
      if At segments (Segment.IsBrace brace) index ∧
        level segments index = level segments opener + 1 then 1 else 0 := by
  unfold ownBraces
  rw [Nat.count_succ]
  congr 1
  apply if_congr _ rfl rfl
  rw [h.settled_iff hOpens hOrder hOpen, h.openHoles_eq, and_iff_right hOrder]
  apply and_congr_right
  rintro ⟨_, hBrace⟩
  have hResumes : ¬At segments Segment.ResumesTemplate index := by
    rintro ⟨_, hResumes⟩
    exact hBrace.not_resumesTemplate hResumes
  rw [if_neg hResumes, Nat.add_zero]

theorem ownBraces_opener (segments : List Segment) (brace : Char) (opener : Nat) :
    ownBraces segments brace opener (opener + 1) = 0 := by
  apply Nat.count_of_forall_not
  rintro inner hInner ⟨hBehind, -⟩
  omega

namespace ComesTo

variable {source left rest : List Char} {before : List Segment} {state : ScanState} {c : Char}
  {opener : Nat}

theorem openHoles_eq (h : ComesTo .start source before state left) :
    openHoles (scan source) before.length = state.holes.length := by
  have hCount := h.holes_count
  unfold openHoles
  omega

theorem length_around (h : ComesTo .start source before state (c :: rest)) {around : List Nat}
    (hMoves : Moves state (state.next c rest).segment around (state.next c rest).state) :
    around.length = level (scan source) before.length := by
  have hOpen := h.openHoles_eq
  rw [(scan_interrupted source).openHoles_eq, hMoves.length_left] at hOpen
  simp only [h.at_iff] at hOpen
  omega

section Hole

variable {front : List Segment} {hole : ScanState} {d : Char} {behind : List Char}
  (hHole : ComesTo .start source front hole (d :: behind))
  (hOpens : At (scan source) Segment.OpensHole front.length)

include hHole hOpens

/-- Wherever a hole is open, the depths show how many braces of its own are, and the holes around it
are the same as behind its opener. -/
theorem gauge (h : ComesTo .start source before state left) (hOrder : front.length < before.length)
    (hOpen : StaysOpen (scan source) front.length before.length) :
    ∃ inner braces,
      Gauge (hole.next d behind).state.holes (state.depth :: state.holes) inner braces ∧
      openHoles (scan source) before.length = level (scan source) front.length + 1 + inner ∧
      ownBraces (scan source) '\x7b' front.length before.length =
        ownBraces (scan source) '\x7d' front.length before.length + braces := by
  have hScan := scan_interrupted source
  induction h with
  | here => cases hOrder
  | @next before state c rest h ih =>
    obtain ⟨around, hMoves⟩ := state.next_moves c rest
    rw [List.length_append, List.length_singleton] at hOrder hOpen ⊢
    rw [hScan.openHoles_succ]
    obtain hBehind | hSame := Nat.lt_succ_iff_lt_or_eq.mp hOrder
    · obtain ⟨hBefore, hLevel⟩ := (staysOpen_succ _).mp hOpen
      obtain ⟨inner, braces, hGauge, hInner, hOwn⟩ := ih hBehind hBefore
      obtain ⟨deeper, hDeeper⟩ := Nat.exists_eq_add_of_le (hLevel hBehind)
      simp only [hScan.openHoles_eq, h.at_iff, hDeeper] at hInner
      obtain rfl : inner =
          deeper + if (state.next c rest).segment.ResumesTemplate then 1 else 0 := by omega
      obtain ⟨left, hLeft, hBraces⟩ := hMoves.gauge hGauge
      refine ⟨_, left, hLeft, by simp only [hDeeper, h.at_iff]; omega, ?_⟩
      have hOwnLevel : level (scan source) before.length =
          level (scan source) front.length + 1 ↔ deeper = 0 := by omega
      simp only [hScan.ownBraces_succ hOpens hBehind hBefore, h.at_iff, hOwnLevel]
      omega
    · -- The hole has just been opened.
      obtain ⟨rfl, rfl, hLeft⟩ := hHole.unique_length h hSame
      obtain ⟨rfl, rfl⟩ := List.cons.inj hLeft
      refine ⟨0, 0, ?_, by rw [if_pos hOpens], by rw [ownBraces_opener, ownBraces_opener]⟩
      exact .own (by rw [hMoves.entered, if_pos ((h.at_iff _).mp hOpens)]) rfl

/-- At a place where a hole is open its own braces balance in front of a closer exactly if the
closer resumes the template. -/
theorem balancesAt_iff (h : ComesTo .start source before state (c :: rest))
    (hOrder : front.length < before.length)
    (hOpen : StaysOpen (scan source) front.length before.length) :
    BalancesAt (scan source) front.length before.length ↔
      Resumes (scan source) front.length before.length := by
  have hScan := scan_interrupted source
  have hLevels := hScan.openHoles_eq before.length
  have hSettled := hScan.settled_iff hOpens hOrder hOpen
  obtain ⟨around, hMoves⟩ := state.next_moves c rest
  obtain ⟨inner, braces, hGauge, hInner, hOwn⟩ := hHole.gauge hOpens h hOrder hOpen
  constructor
  · rintro ⟨-, hStarts, hInnermost, hBalance⟩
    have hNone := hSettled.mp hInnermost
    obtain rfl : inner = 0 := by omega
    obtain rfl : braces = 0 := by omega
    obtain ⟨hSame, base, outer, hHoles, hDepth⟩ := hGauge.innermost
    have hHead : state.holes.head? = some state.depth := by
      rw [hSame, hHoles, hDepth]
      rfl
    have hResumes := (h.at_iff _).mpr (hMoves.resumes ((h.at_iff _).mp hStarts) hHead)
    rw [if_pos hResumes] at hLevels
    exact ⟨hOpens, hResumes, hOrder, hOpen, by omega⟩
  · rintro ⟨-, hResumes, -, -, hLevel⟩
    rw [if_pos hResumes] at hLevels
    have hSegment := (h.at_iff _).mp hResumes
    obtain rfl : inner = 0 := by omega
    obtain ⟨hSame, base, outer, hHoles, hDepth⟩ := hGauge.innermost
    rw [← hSame, hMoves.left, if_pos hSegment] at hHoles
    have hBase := (List.cons.inj hHoles).1
    exact ⟨hOrder, (h.at_iff _).mpr hSegment.2, hSettled.mpr (by omega), by omega⟩

end Hole

theorem holes_eq {front : List Segment} {hole : ScanState} {d : Char} {behind : List Char}
    (hHole : ComesTo .start source front hole (d :: behind))
    (h : ComesTo .start source before state left)
    (hResumes : Resumes (scan source) front.length before.length) :
    state.holes = (hole.next d behind).state.holes := by
  obtain ⟨hOpens, hCloser, hOrder, hOpen, hLevel⟩ := hResumes
  obtain ⟨inner, braces, hGauge, hInner, -⟩ := hHole.gauge hOpens h hOrder hOpen
  rw [(scan_interrupted source).openHoles_eq, if_pos hCloser] at hInner
  obtain rfl : inner = 0 := by omega
  exact hGauge.innermost.1

end ComesTo

/-! ## The interpolations of a script -/

theorem Shaped.template_head? {text left : List Char} (h : Shaped .template text left) :
    text.head? = some '`' ∨ text.head? = some '\x7d' := by
  cases h with
  | closedTemplate hOpener | openTemplate hOpener => simpa using hOpener

section Scan

variable {source : List Char} {opener index : Nat}

theorem balancesAt_iff_resumes (hOpens : At (scan source) Segment.OpensHole opener)
    (hOrder : opener < index) (hOpen : StaysOpen (scan source) opener index) :
    BalancesAt (scan source) opener index ↔ Resumes (scan source) opener index := by
  obtain ⟨front, hole, d, behind, hHole, rfl⟩ := exists_place_at hOpens
  constructor
  · intro hBalances
    obtain ⟨before, state, c, rest, hPlace, rfl⟩ := exists_place_at hBalances.2.1
    exact (hHole.balancesAt_iff hOpens hPlace hOrder hOpen).mp hBalances
  · intro hResumes
    obtain ⟨before, state, c, rest, hPlace, rfl⟩ := exists_place_at hResumes.2.1
    exact (hHole.balancesAt_iff hOpens hPlace hOrder hOpen).mpr hResumes

/-- A template is resumed at the first closer at which the braces of the hole balance. -/
theorem resumes_iff (opener closer : Nat) :
    Resumes (scan source) opener closer ↔ At (scan source) Segment.OpensHole opener ∧
      IsLeast {index | BalancesAt (scan source) opener index} closer := by
  constructor
  · intro hResumes
    obtain ⟨hOpens, -, hOrder, hOpen, -⟩ := id hResumes
    refine ⟨hOpens, (balancesAt_iff_resumes hOpens hOrder hOpen).mpr hResumes, ?_⟩
    intro index hBalances
    by_contra hEarlier
    have hBefore : index < closer := Nat.lt_of_not_le hEarlier
    obtain ⟨-, -, hBehind, -, hLevel⟩ :=
      (balancesAt_iff_resumes hOpens hBalances.1 (hOpen.mono hBefore.le)).mp hBalances
    have := hOpen.le_of_level_le hBefore hLevel.le
    omega
  · rintro ⟨hOpens, hBalances, hFirst⟩
    have hOpen : StaysOpen (scan source) opener closer := by
      by_contra hOver
      obtain ⟨index, hIndex, hResumes⟩ := (scan_interrupted source).exists_resumes hOpens hOver
      obtain ⟨-, -, hBehind, hStays, -⟩ := id hResumes
      have := hFirst ((balancesAt_iff_resumes hOpens hBehind hStays).mpr hResumes)
      omega
    exact (balancesAt_iff_resumes hOpens hBalances.1 hOpen).mp hBalances

/-- At the second closer the braces of the inner hole still balance; the first one has ended it. -/
example :
    let segments : List Segment := [⟨.template, ['`', '$', '\x7b'], false⟩,
      ⟨.code, ['\x7b'], true⟩, ⟨.template, ['`', '$', '\x7b'], true⟩, ⟨.code, ['a'], true⟩,
      ⟨.template, ['\x7d', '`'], true⟩, ⟨.code, ['\x7d'], true⟩, ⟨.template, ['\x7d', '`'], false⟩]
    BalancesAt segments 2 4 ∧ BalancesAt segments 2 5 ∧ Resumes segments 2 4 ∧
      ¬Resumes segments 2 5 ∧ Resumes segments 0 6 := by decide

theorem nested_iff (h : index < (scan source).length) :
    (scan source)[index].nested = true ↔ ∃ opener, Surrounds (scan source) opener index := by
  have hNested : (scan source)[index].nested = true ↔ At (scan source) (·.nested = true) index :=
    ⟨fun hSegment => ⟨h, hSegment⟩, fun ⟨_, hSegment⟩ => hSegment⟩
  have hHere : At (scan source) (fun _ => True) index := ⟨h, trivial⟩
  obtain ⟨before, state, c, rest, hPlace, rfl⟩ := exists_place_at hHere
  obtain ⟨around, hMoves⟩ := state.next_moves c rest
  rw [← (scan_interrupted source).level_pos_iff, hNested, hPlace.at_iff, hMoves.nested,
    ← hPlace.length_around hMoves, List.length_pos_iff]
  simp

theorem exists_head (hTemplate : At (scan source) (·.kind = .template) index) :
    ∃ head, At (scan source) Segment.StartsTemplate head ∧
      Relation.ReflTransGen (Resumes (scan source)) head index ∧
      ∀ outer, Surrounds (scan source) outer index ↔ Surrounds (scan source) outer head := by
  induction index using Nat.strong_induction_on with
  | _ index ih =>
    obtain ⟨hIndex, hKind⟩ := hTemplate
    have hShaped := (scan_shaped source hIndex).2
    rw [hKind] at hShaped
    obtain hTick | hCloser := hShaped.template_head?
    · exact ⟨index, ⟨hIndex, hKind, hTick⟩, .refl, fun outer => Iff.rfl⟩
    · have hScan := scan_interrupted source
      obtain ⟨opener, hResumes, -⟩ := hScan.existsUnique_opener ⟨hIndex, hKind, hCloser⟩
      obtain ⟨⟨hOpener, hOpens⟩, -, hOrder, -⟩ := id hResumes
      obtain ⟨head, hHead, hChain, hSame⟩ := ih opener hOrder ⟨hOpener, hOpens.1⟩
      exact ⟨head, hHead, hChain.tail hResumes,
        fun outer => (hScan.surrounds_resumed hResumes outer).trans (hSame outer)⟩

end Scan

/-- What the depth, the holes and the braces of a script have to do with each other: at every place
(`nest`, `holes`), at a closer in a hole (`lowers`), for the segments that resume a template
(`interrupted`, `kept`, `first`), and for all segments (`nested`, `template`). -/
structure Interpolated (source : List Char) : Prop where
  nest : ∀ before state left, ComesTo .start source before state left → state.HolesNest
  holes : ∀ before state left, ComesTo .start source before state left →
    state.holes.length = openHoles (scan source) before.length
  lowers : ∀ before state rest, ComesTo .start source before state ('\x7d' :: rest) →
    state.holes ≠ [] → (state.next '\x7d' rest).segment.ResumesTemplate ∨
      (state.next '\x7d' rest).segment.IsBrace '\x7d' ∧
        (state.next '\x7d' rest).state.depth + 1 = state.depth
  interrupted : ∀ closer, At (scan source) Segment.ResumesTemplate closer →
    ∃! opener, Resumes (scan source) opener closer
  kept : ∀ front hole c rest, ComesTo .start source front hole (c :: rest) →
    ∀ before state left, ComesTo .start source before state left →
      Resumes (scan source) front.length before.length →
        state.holes = (hole.next c rest).state.holes
  first : ∀ opener closer, Resumes (scan source) opener closer ↔
    At (scan source) Segment.OpensHole opener ∧
      IsLeast {index | BalancesAt (scan source) opener index} closer
  nested : ∀ index (h : index < (scan source).length), (scan source)[index].nested = true ↔
    ∃ opener, Surrounds (scan source) opener index
  template : ∀ index, At (scan source) (·.kind = .template) index →
    ∃ head, At (scan source) Segment.StartsTemplate head ∧
      Relation.ReflTransGen (Resumes (scan source)) head index ∧
      ∀ outer, Surrounds (scan source) outer index ↔ Surrounds (scan source) outer head

/-- Interpolations are matched with their own braces, however they are nested and whatever closers
stand outside of them. -/
theorem scan_interpolated (source : List Char) : Interpolated source where
  nest := fun before state left hPlace => hPlace.holesNest ScanState.start_holesNest
  holes := fun before state left hPlace => hPlace.openHoles_eq.symm
  lowers := by
    intro before state rest hPlace hInside
    have hNest := hPlace.holesNest ScanState.start_holesNest
    obtain ⟨around, hMoves⟩ := state.next_moves '\x7d' rest
    exact hMoves.resumes_or_lowers hNest hInside (state.next_startsAtCloser rest)
  interrupted := fun closer hResumes => (scan_interrupted source).existsUnique_opener hResumes
  kept := fun front hole c rest hHole before state left hPlace => hHole.holes_eq hPlace
  first := resumes_iff
  nested := fun index h => nested_iff h
  template := fun index hTemplate => exists_head hTemplate

end SubmissionGate.Script
