import Mathlib.Data.List.Chain
import SubmissionGate.Text.Alphanumeric
import SubmissionGate.Text.DecimalDigit
import SubmissionGate.Text.Space

/-!
# Classes of characters

No blank belongs to a word, and every decimal digit does. Above ASCII this is a property of the
tables: a search in ranges that ascend finds the one that a point lies in.
-/

namespace SubmissionGate.Text

namespace CodePoints

variable {ranges : CodePoints} {point low high : Nat}

theorem search_some (h : ranges.search point low high = true) :
    ∃ range ∈ ranges.toList, range.1 ≤ point ∧ point ≤ range.2 := by
  fun_induction CodePoints.search ranges point low high with
  | case1 => cases h
  | case2 low high hLess middle first last hRange hBelow ih => exact ih h
  | case3 low high hLess middle first last hRange hBelow hAbove ih => exact ih h
  | case4 low high hLess middle first last hRange hBelow hAbove =>
    obtain ⟨hMiddle, hSame⟩ := Array.getElem?_eq_some_iff.mp hRange
    refine ⟨(first, last), ?_, Nat.not_lt.mp hBelow, Nat.not_lt.mp hAbove⟩
    rw [← hSame]
    exact Array.getElem_mem_toList hMiddle
  | case5 => cases h

def Precedes (range other : Nat × Nat) : Prop := range.1 ≤ range.2 ∧ range.2 < other.1

instance : DecidableRel Precedes := fun _ _ => inferInstanceAs (Decidable (_ ∧ _))

instance : Trans Precedes Precedes Precedes where
  trans := by
    rintro range other last ⟨hRange, hOther⟩ ⟨hFirst, hLast⟩
    exact ⟨hRange, by omega⟩

/-- In ranges that ascend the search finds every point. -/
theorem search_of_range (hAscend : ranges.toList.IsChain Precedes) {index first last : Nat}
    (hRange : ranges[index]? = some (first, last)) (hFirst : first ≤ point) (hLast : point ≤ last)
    (hLow : low ≤ index) (hHigh : index < high) (hSize : high ≤ ranges.size) :
    ranges.search point low high = true := by
  have hOrder : ∀ {i j : Nat} {range other : Nat × Nat}, ranges[i]? = some range →
      ranges[j]? = some other → i < j → Precedes range other := by
    intro i j range other hI hJ hLess
    obtain ⟨hISize, rfl⟩ := Array.getElem?_eq_some_iff.mp hI
    obtain ⟨hJSize, rfl⟩ := Array.getElem?_eq_some_iff.mp hJ
    exact List.pairwise_iff_getElem.mp hAscend.pairwise i j hISize hJSize hLess
  fun_induction CodePoints.search ranges point low high with
  | case1 low high hLess middle hNone =>
    have hOutside := Array.getElem?_eq_none_iff.mp hNone
    omega
  | case2 low high hLess middle start stop hMiddle hBelow ih =>
    have hBefore : index < middle := by
      by_contra hBehind
      obtain hSame | hBehind := Nat.eq_or_lt_of_le (Nat.not_lt.mp hBehind)
      · rw [← hSame, hMiddle] at hRange
        cases hRange
        omega
      · obtain ⟨hStart, hStop⟩ := hOrder hMiddle hRange hBehind
        simp only at hStart hStop
        omega
    exact ih hLow hBefore (by omega)
  | case3 low high hLess middle start stop hMiddle hBelow hAbove ih =>
    have hBehind : middle < index := by
      by_contra hBefore
      obtain hSame | hBefore := Nat.eq_or_lt_of_le (Nat.not_lt.mp hBefore)
      · rw [hSame, hMiddle] at hRange
        cases hRange
        omega
      · obtain ⟨-, hStart⟩ := hOrder hRange hMiddle hBefore
        simp only at hStart
        omega
    exact ih hBehind hHigh hSize
  | case4 => rfl
  | case5 low high hEmpty => omega

theorem holds_of_range (hAscend : ranges.toList.IsChain Precedes) {range : Nat × Nat}
    (hRange : range ∈ ranges.toList) (hFirst : range.1 ≤ point) (hLast : point ≤ range.2) :
    ranges.holds point = true := by
  obtain ⟨index, hIndex, rfl⟩ := List.getElem_of_mem hRange
  rw [Array.length_toList] at hIndex
  exact search_of_range hAscend (Array.getElem?_eq_getElem hIndex) hFirst hLast (Nat.zero_le _)
    hIndex (Nat.le_refl _)

end CodePoints

theorem spaces_outside : (spaceRanges.toList.all fun range =>
    (List.range (range.2 + 1 - range.1)).all fun step =>
      !alphanumericRanges.holds (range.1 + step)) = true := by
  decide +kernel

theorem alphanumericRanges_ascend : alphanumericRanges.toList.IsChain CodePoints.Precedes := by
  decide +kernel

theorem digits_inside : (digitZeros.toList.all fun first =>
    alphanumericRanges.toList.any fun range =>
      Nat.ble range.1 first && Nat.ble (first + 9) range.2) = true := by
  decide +kernel

theorem asciiSpaces_outside : ∀ point < 128,
    isSpace (Char.ofNat point) = true → isWordChar (Char.ofNat point) = false := by
  decide +kernel

theorem isWordChar_of_isSpace {c : Char} (h : isSpace c = true) : isWordChar c = false := by
  by_cases hAscii : c.toNat < 128
  · have hSpaces := asciiSpaces_outside c.toNat hAscii
    rw [Char.ofNat_toNat] at hSpaces
    exact hSpaces h
  · simp only [isSpace, hAscii, if_false] at h
    obtain ⟨range, hRange, hFirst, hLast⟩ := CodePoints.search_some h
    have hOutside := List.all_eq_true.mp (List.all_eq_true.mp spaces_outside range hRange)
      (c.toNat - range.1) (List.mem_range.mpr (by omega))
    rw [Nat.add_sub_cancel' hFirst, Bool.not_eq_true'] at hOutside
    have hScore : c ≠ '_' := by
      rintro rfl
      exact hAscii (by decide)
    simp [isWordChar, isAlphanumeric, hAscii, hOutside, hScore]

theorem isWordChar_of_isDecimalDigit {c : Char} (h : isDecimalDigit c = true) :
    isWordChar c = true := by
  unfold isDecimalDigit decimalValue? at h
  simp only at h
  by_cases hAscii : c.toNat < 128
  · rw [if_pos hAscii] at h
    split at h
    · next hDigit => simp [isWordChar, isAlphanumeric, hAscii, Char.isAlphanum, hDigit]
    · cases h
  · rw [if_neg hAscii, Option.isSome_map, Array.find?_isSome] at h
    obtain ⟨first, hFirst, hDigit⟩ := h
    simp only [Bool.and_eq_true, decide_eq_true_eq] at hDigit
    obtain ⟨range, hRange, hInside⟩ := List.any_eq_true.mp
      (List.all_eq_true.mp digits_inside first (Array.mem_toList_iff.mpr hFirst))
    simp only [Bool.and_eq_true, Nat.ble_eq] at hInside
    have hHolds : alphanumericRanges.holds c.toNat = true :=
      CodePoints.holds_of_range alphanumericRanges_ascend hRange (by omega) (by omega)
    simp [isWordChar, isAlphanumeric, hAscii, hHolds]

end SubmissionGate.Text
