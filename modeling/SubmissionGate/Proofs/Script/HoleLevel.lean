import Mathlib.Data.Nat.Count
import SubmissionGate.Proofs.Script.Hole

/-!
# The level of a segment

How many holes lie around a segment follows from the openers and the resumptions in front of it
alone. Which resumption ends which hole is read off the levels: the first segment behind the opener
that lies as far out as the opener does. What is said here holds of any segments among which no
template is resumed that was not interrupted before (`Interrupted`).
-/

namespace SubmissionGate.Script

def At (segments : List Segment) (property : Segment → Prop) (index : Nat) : Prop :=
  ∃ h : index < segments.length, property segments[index]

instance (segments : List Segment) (property : Segment → Prop) [DecidablePred property] :
    DecidablePred (At segments property) := fun index =>
  inferInstanceAs (Decidable (∃ _ : index < segments.length, _))

section Levels

variable (segments : List Segment)

def openHoles (index : Nat) : Nat :=
  Nat.count (At segments Segment.OpensHole) index -
    Nat.count (At segments Segment.ResumesTemplate) index

/-- How many holes a segment lies in: one that resumes a template has left the hole that it ends. -/
def level (index : Nat) : Nat :=
  if At segments Segment.ResumesTemplate index then openHoles segments index - 1
  else openHoles segments index

/-- Between two indices every segment lies further in than the one at the first index. -/
def StaysOpen (opener index : Nat) : Prop :=
  ∀ inner < index, opener < inner → level segments opener < level segments inner

/-- A template that is interrupted at one index is resumed at another: the hole that opens there
stays open up to a segment that lies in no more holes than its opener. -/
def Resumes (opener closer : Nat) : Prop :=
  At segments Segment.OpensHole opener ∧ At segments Segment.ResumesTemplate closer ∧
    opener < closer ∧ StaysOpen segments opener closer ∧
    level segments closer = level segments opener

/-- A segment lies strictly inside a hole: behind its opener and in front of the segment that
resumes the template, if one does. -/
def Surrounds (opener index : Nat) : Prop :=
  At segments Segment.OpensHole opener ∧ opener < index ∧
    ∀ closer, Resumes segments opener closer → index < closer

/-- All holes that were opened inside a hole are over in front of an index. -/
def Settled (opener index : Nat) : Prop :=
  ∀ inner < index, opener < inner → At segments Segment.OpensHole inner →
    ∃ closer < index, Resumes segments inner closer

instance (opener index : Nat) : Decidable (StaysOpen segments opener index) :=
  inferInstanceAs (Decidable (∀ inner < index, _ → _))

instance (opener closer : Nat) : Decidable (Resumes segments opener closer) :=
  inferInstanceAs (Decidable (_ ∧ _ ∧ _ ∧ _ ∧ _))

instance (opener index : Nat) : Decidable (Settled segments opener index) :=
  inferInstanceAs (Decidable (∀ inner < index, _ → _ → _))

/-- No template is resumed that was not interrupted before. -/
def Interrupted : Prop :=
  ∀ index, At segments Segment.ResumesTemplate index →
    Nat.count (At segments Segment.ResumesTemplate) index <
      Nat.count (At segments Segment.OpensHole) index

theorem staysOpen_succ {opener index : Nat} :
    StaysOpen segments opener (index + 1) ↔ StaysOpen segments opener index ∧
      (opener < index → level segments opener < level segments index) :=
  Nat.forall_lt_succ_right

end Levels

namespace StaysOpen

variable {segments : List Segment} {opener index : Nat} (h : StaysOpen segments opener index)

include h

theorem mono {earlier : Nat} (hEarlier : earlier ≤ index) : StaysOpen segments opener earlier :=
  fun inner hInner => h inner (Nat.lt_of_lt_of_le hInner hEarlier)

theorem le_of_level_le {other : Nat} (hOther : other < index)
    (hLevel : level segments other ≤ level segments opener) : other ≤ opener := by
  by_contra hBehind
  have := h other hOther (Nat.lt_of_not_le hBehind)
  omega

end StaysOpen

namespace Interrupted

variable {segments : List Segment} (h : Interrupted segments) {opener index closer : Nat}

include h

theorem count_le (index : Nat) :
    Nat.count (At segments Segment.ResumesTemplate) index ≤
      Nat.count (At segments Segment.OpensHole) index := by
  induction index with
  | zero => simp
  | succ index ih =>
    have hOpens := Nat.count_monotone (At segments Segment.OpensHole) (Nat.le_succ index)
    rw [Nat.count_succ]
    split
    · next hResumes => exact Nat.le_trans (h index hResumes) hOpens
    · exact Nat.le_trans ih hOpens

theorem openHoles_eq (index : Nat) :
    openHoles segments index =
      level segments index + if At segments Segment.ResumesTemplate index then 1 else 0 := by
  unfold level
  split
  · next hResumes =>
    have hOpen := h index hResumes
    unfold openHoles
    omega
  · rfl

theorem openHoles_succ (index : Nat) :
    openHoles segments (index + 1) =
      level segments index + if At segments Segment.OpensHole index then 1 else 0 := by
  have hOpen := h.count_le index
  have hHere := h.openHoles_eq index
  have hLater := h.count_le (index + 1)
  unfold openHoles at hHere ⊢
  rw [Nat.count_succ, Nat.count_succ] at hLater ⊢
  omega

theorem level_le (index : Nat) : level segments index ≤ openHoles segments index :=
  Nat.le.intro (h.openHoles_eq index).symm

/-- The last segment that lies in `depth` holes opens one that is open from there on. -/
theorem exists_opener (index depth : Nat) (hDepth : depth < openHoles segments index) :
    ∃ opener < index, At segments Segment.OpensHole opener ∧ level segments opener = depth ∧
      StaysOpen segments opener index := by
  induction index with
  | zero => simp [openHoles] at hDepth
  | succ index ih =>
    by_cases hLevel : depth < level segments index
    · obtain ⟨opener, hBefore, hOpens, rfl, hOpen⟩ :=
        ih (Nat.lt_of_lt_of_le hLevel (h.level_le index))
      exact ⟨opener, Nat.lt_succ_of_lt hBefore, hOpens, rfl,
        (staysOpen_succ segments).mpr ⟨hOpen, fun _ => hLevel⟩⟩
    · rw [h.openHoles_succ] at hDepth
      split at hDepth
      · next hOpens =>
        refine ⟨index, Nat.lt_succ_self index, hOpens, by omega, ?_⟩
        intro inner hInner hBehind
        omega
      · omega

theorem level_lt_openHoles (hOpens : At segments Segment.OpensHole opener)
    (hOrder : opener < index) (hOpen : StaysOpen segments opener index) :
    level segments opener < openHoles segments index := by
  obtain ⟨last, rfl⟩ := Nat.exists_eq_add_one_of_ne_zero (Nat.ne_zero_of_lt hOrder)
  rw [h.openHoles_succ]
  obtain hBehind | rfl := Nat.lt_succ_iff_lt_or_eq.mp hOrder
  · exact Nat.lt_of_lt_of_le (hOpen last (Nat.lt_succ_self last) hBehind) (Nat.le_add_right _ _)
  · rw [if_pos hOpens]
    exact Nat.lt_succ_self _

/-- A hole that does not stay open is ended by the segment that resumes its template. -/
theorem exists_resumes (hOpens : At segments Segment.OpensHole opener)
    (hOver : ¬StaysOpen segments opener index) :
    ∃ closer < index, Resumes segments opener closer := by
  induction index with
  | zero => exact absurd (fun inner hInner => absurd hInner (Nat.not_lt_zero inner)) hOver
  | succ index ih =>
    by_cases hOpen : StaysOpen segments opener index
    · -- The hole is over at the last segment, which therefore lies one hole further out.
      refine ⟨index, Nat.lt_succ_self index, ?_⟩
      have hLast : opener < index ∧ level segments index ≤ level segments opener := by
        rw [staysOpen_succ] at hOver
        by_contra hNot
        exact hOver ⟨hOpen, by omega⟩
      have hInside := h.level_lt_openHoles hOpens hLast.1 hOpen
      rw [h.openHoles_eq] at hInside
      split at hInside
      · next hResumes => exact ⟨hOpens, hResumes, hLast.1, hOpen, by omega⟩
      · omega
    · obtain ⟨closer, hCloser, hResumes⟩ := ih hOpen
      exact ⟨closer, Nat.lt_succ_of_lt hCloser, hResumes⟩

theorem surrounds_iff :
    Surrounds segments opener index ↔ At segments Segment.OpensHole opener ∧ opener < index ∧
      StaysOpen segments opener (index + 1) := by
  refine and_congr_right fun hOpens => and_congr_right fun hOrder => ?_
  constructor
  · intro hInside
    by_contra hOver
    obtain ⟨closer, hCloser, hResumes⟩ := h.exists_resumes hOpens hOver
    have := hInside closer hResumes
    omega
  · rintro hOpen closer ⟨-, -, hBehind, -, hLevel⟩
    by_contra hNot
    have := hOpen.le_of_level_le (by omega) hLevel.le
    omega

theorem level_pos_iff : 0 < level segments index ↔ ∃ opener, Surrounds segments opener index := by
  constructor
  · intro hLevel
    have hOpen := h.level_le index
    obtain ⟨opener, hOrder, hOpens, hOpener, hOpen⟩ :=
      h.exists_opener index (level segments index - 1) (by omega)
    refine ⟨opener, h.surrounds_iff.mpr ⟨hOpens, hOrder, ?_⟩⟩
    exact (staysOpen_succ segments).mpr ⟨hOpen, by omega⟩
  · rintro ⟨opener, hSurrounds⟩
    obtain ⟨-, hOrder, hOpen⟩ := h.surrounds_iff.mp hSurrounds
    exact Nat.zero_lt_of_lt (hOpen index (Nat.lt_succ_self index) hOrder)

theorem existsUnique_opener (hResumes : At segments Segment.ResumesTemplate closer) :
    ∃! opener, Resumes segments opener closer := by
  have hInside : level segments closer < openHoles segments closer := by
    rw [h.openHoles_eq, if_pos hResumes]
    exact Nat.lt_succ_self _
  obtain ⟨opener, hOrder, hOpens, hLevel, hOpen⟩ := h.exists_opener closer _ hInside
  refine ⟨opener, ⟨hOpens, hResumes, hOrder, hOpen, hLevel.symm⟩, ?_⟩
  rintro other ⟨-, -, hOther, hOtherOpen, hOtherLevel⟩
  have hSame : level segments other = level segments opener := hOtherLevel.symm.trans hLevel.symm
  exact Nat.le_antisymm (hOpen.le_of_level_le hOther hSame.le)
    (hOtherOpen.le_of_level_le hOrder hSame.ge)

theorem surrounds_resumed (hResumes : Resumes segments opener closer) (outer : Nat) :
    Surrounds segments outer closer ↔ Surrounds segments outer opener := by
  obtain ⟨-, -, hOrder, hOpen, hLevel⟩ := hResumes
  rw [h.surrounds_iff, h.surrounds_iff]
  refine and_congr_right fun _ => ?_
  constructor
  · rintro ⟨hOuter, hStays⟩
    have hCloser := hStays closer (Nat.lt_succ_self closer) hOuter
    have hNotBehind := hOpen.le_of_level_le hOuter (by omega)
    have hOther : outer ≠ opener := by
      rintro rfl
      omega
    exact ⟨Nat.lt_of_le_of_ne hNotBehind hOther, hStays.mono (by omega)⟩
  · rintro ⟨hOuter, hStays⟩
    have hOpener := hStays opener (Nat.lt_succ_self opener) hOuter
    refine ⟨Nat.lt_trans hOuter hOrder, fun inner hInner hBehind => ?_⟩
    by_cases hFront : inner ≤ opener
    · exact hStays inner (Nat.lt_succ_of_le hFront) hBehind
    · -- From the hole on everything lies at least as far in as its opener.
      obtain hInner | rfl := Nat.lt_succ_iff_lt_or_eq.mp hInner
      · exact Nat.lt_trans hOpener (hOpen inner hInner (Nat.lt_of_not_le hFront))
      · exact Nat.lt_of_lt_of_le hOpener hLevel.ge

/-- While a hole is open, the holes inside it are over exactly if it is the innermost one. -/
theorem settled_iff (hOpens : At segments Segment.OpensHole opener) (hOrder : opener < index)
    (hOpen : StaysOpen segments opener index) :
    Settled segments opener index ↔ openHoles segments index = level segments opener + 1 := by
  have hInside := h.level_lt_openHoles hOpens hOrder hOpen
  constructor
  · intro hSettled
    by_contra hMore
    obtain ⟨inner, hInner, hInnerOpens, hLevel, hInnerOpen⟩ :=
      h.exists_opener index (level segments opener + 1) (by omega)
    have hNotFront := hInnerOpen.le_of_level_le hOrder (by omega)
    have hOther : opener ≠ inner := by
      rintro rfl
      omega
    obtain ⟨closer, hCloser, -, -, hBehind, -, hOver⟩ :=
      hSettled inner hInner (Nat.lt_of_le_of_ne hNotFront hOther) hInnerOpens
    have := hInnerOpen.le_of_level_le hCloser hOver.le
    omega
  · intro hInnermost inner hInner hBehind hInnerOpens
    apply h.exists_resumes hInnerOpens
    intro hInnerOpen
    have hDeeper := h.level_lt_openHoles hInnerOpens hInner hInnerOpen
    have := hOpen inner hInner hBehind
    omega

end Interrupted

end SubmissionGate.Script
