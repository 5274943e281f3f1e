import SubmissionGate.Proofs.Script.Scan

/-!
# The places of a scan

A scan goes from place to place: at each one it has found the segments in front of it, and it goes
on in some state with what is left of the script. What holds at the first place and is kept by every
step holds at all of them. Regular expressions are barred at the places behind a failed attempt, as
long as no line has ended since.
-/

namespace SubmissionGate.Script

/-- A scan that starts in a state comes to a place with the segments found so far, the state that it
is in then and what is left. -/
inductive ComesTo (start : ScanState) (source : List Char) :
    List Segment → ScanState → List Char → Prop where
  | here : ComesTo start source [] start source
  | next {before state c rest} (h : ComesTo start source before state (c :: rest)) :
      ComesTo start source (before ++ [(state.next c rest).segment]) (state.next c rest).state
        (state.next c rest).rest

namespace ComesTo

variable {start state : ScanState} {source left rest : List Char} {before : List Segment} {c : Char}

theorem spell (h : ComesTo start source before state left) :
    before.flatMap (·.text) ++ left = source := by
  induction h with
  | here => rfl
  | @next before state c rest _ ih =>
    rw [List.flatMap_append, List.flatMap_singleton, List.append_assoc, state.next_append, ih]

/-- The scan goes on at a place as a scan that starts there. -/
theorem segmentsFrom_eq (h : ComesTo start source before state left) :
    segmentsFrom start source = before ++ segmentsFrom state left := by
  induction h with
  | here => rfl
  | next _ ih => rw [ih, segmentsFrom_cons, List.append_assoc, List.singleton_append]

theorem unique {other : ScanState} {otherLeft : List Char}
    (h : ComesTo start source before state left)
    (hOther : ComesTo start source before other otherLeft) : state = other ∧ left = otherLeft := by
  induction h generalizing other otherLeft with
  | here =>
    generalize hFound : ([] : List Segment) = found at hOther
    cases hOther with
    | here => exact ⟨rfl, rfl⟩
    | next => exact absurd hFound.symm (List.append_ne_nil_of_right_ne_nil _ (List.cons_ne_nil _ _))
  | @next before state c rest _ ih =>
    generalize hFound : before ++ [(state.next c rest).segment] = found at hOther
    cases hOther with
    | here => exact absurd hFound (List.append_ne_nil_of_right_ne_nil _ (List.cons_ne_nil _ _))
    | next hEarlier =>
      obtain ⟨rfl, -⟩ := List.append_inj' hFound rfl
      obtain ⟨rfl, hLeft⟩ := ih hEarlier
      obtain ⟨rfl, rfl⟩ := List.cons.inj hLeft
      exact ⟨rfl, rfl⟩

theorem behind (h : ComesTo (start.next c rest).state (start.next c rest).rest before state left) :
    ComesTo start (c :: rest) ((start.next c rest).segment :: before) state left := by
  induction h with
  | here => exact .next .here
  | next _ ih => exact .next ih

theorem first (h : ComesTo start (c :: rest) before state left) :
    (before = [] ∧ state = start ∧ left = c :: rest) ∨
      ∃ tail, before = (start.next c rest).segment :: tail ∧
        ComesTo (start.next c rest).state (start.next c rest).rest tail state left := by
  induction h with
  | here => exact .inl ⟨rfl, rfl, rfl⟩
  | next _ ih =>
    right
    obtain ⟨rfl, rfl, hLeft⟩ | ⟨tail, rfl, hTail⟩ := ih
    · obtain ⟨rfl, rfl⟩ := List.cons.inj hLeft
      exact ⟨[], rfl, .here⟩
    · exact ⟨_, rfl, .next hTail⟩

end ComesTo

/-! Behind a failed attempt -/

/-- An attempt at a regular expression failed in front of a place, and no line has ended since. -/
def BehindFailure (start : ScanState) (source : List Char) (before : List Segment) : Prop :=
  ∃ earlier state rest later, ComesTo start source earlier state ('/' :: rest) ∧
    state.failsAt '/' rest = true ∧
    before = earlier ++ (state.next '/' rest).segment :: later ∧
    ∀ segment ∈ later, '\n' ∉ segment.text

namespace ScanState

variable (state : ScanState)

theorem slash_of_failsAt {c : Char} {rest : List Char} (h : state.failsAt c rest = true) :
    c = '/' := by
  simp only [failsAt, Bool.and_eq_true, beq_iff_eq] at h
  exact h.1.1.1.1

theorem next_regexBarred (c : Char) (rest : List Char) :
    (state.next c rest).state.regexBarred = true ↔
      (state.regexBarred = true ∨ state.failsAt c rest = true) ∧
        '\n' ∉ (state.next c rest).segment.text := by
  have hConstruct := state.construct_regexBarred c rest
  rw [← Bool.or_eq_true, ← hConstruct, state.next_segment]
  simp only [next, afterText]
  split
  · next h =>
    obtain ⟨-, hLine⟩ := (Bool.and_eq_true _ _).mp h
    simp [List.contains_iff_mem.mp hLine]
  · next h =>
    refine ⟨?_, And.left⟩
    intro hBarred
    exact ⟨hBarred, by simpa [hBarred] using h⟩

theorem next_of_failsAt {rest : List Char} (h : state.failsAt '/' rest = true) :
    (state.next '/' rest).segment = ⟨.code, ['/'], state.nested⟩ := by
  simp only [failsAt, Bool.and_eq_true, Bool.not_eq_true', Option.isNone_iff_eq_none] at h
  obtain ⟨⟨⟨⟨-, hOpens⟩, hAllowed⟩, hBarred⟩, hTail⟩ := h
  rw [state.next_segment, construct_slash state hOpens]
  simp [slashStep, hAllowed, hBarred, hTail, singleStep, nested]

end ScanState

/-- Regular expressions are barred exactly behind a failed attempt on the same line. -/
theorem ComesTo.regexBarred_iff {start state : ScanState} {source left : List Char}
    {before : List Segment} (hStart : start.regexBarred = false)
    (h : ComesTo start source before state left) :
    state.regexBarred = true ↔ BehindFailure start source before := by
  induction h with
  | here =>
    refine iff_of_false (by simp [hStart]) ?_
    rintro ⟨earlier, _, _, later, -, -, hFound, -⟩
    exact absurd hFound.symm (List.append_ne_nil_of_right_ne_nil _ (List.cons_ne_nil _ _))
  | @next before state c rest h ih =>
    rw [state.next_regexBarred, ih]
    constructor
    · rintro ⟨⟨earlier, other, rest', later, hPlace, hFails, rfl, hLine⟩ | hFails, hText⟩
      · refine ⟨earlier, other, rest', later ++ [(state.next c rest).segment], hPlace, hFails,
          by simp, ?_⟩
        intro segment hSegment
        obtain hLater | hLast := List.mem_append.mp hSegment
        · exact hLine segment hLater
        · rwa [List.mem_singleton.mp hLast]
      · obtain rfl := state.slash_of_failsAt hFails
        exact ⟨before, state, rest, [], h, hFails, rfl, by simp⟩
    · rintro ⟨earlier, other, rest', later, hPlace, hFails, hFound, hLine⟩
      obtain rfl | ⟨later, last, rfl⟩ := later.eq_nil_or_concat
      · -- The failed attempt is the step itself.
        obtain ⟨rfl, hSegment⟩ := List.append_inj' hFound rfl
        obtain ⟨rfl, hLeft⟩ := h.unique hPlace
        obtain ⟨rfl, rfl⟩ := List.cons.inj hLeft
        refine ⟨.inr hFails, ?_⟩
        rw [state.next_of_failsAt hFails]
        simp
      · rw [List.concat_eq_append] at hFound hLine
        rw [← List.cons_append, ← List.append_assoc] at hFound
        obtain ⟨rfl, hSegment⟩ := List.append_inj' hFound rfl
        refine ⟨.inl ⟨earlier, other, rest', later, hPlace, hFails, rfl, ?_⟩, ?_⟩
        · intro segment hSegment
          exact hLine segment (List.mem_append_left _ hSegment)
        · rw [List.singleton_inj.mp hSegment]
          exact hLine last (List.mem_append_right _ List.mem_cons_self)

end SubmissionGate.Script
