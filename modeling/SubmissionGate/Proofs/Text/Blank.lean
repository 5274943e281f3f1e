import Mathlib.Data.List.DropRight
import SubmissionGate.Number
import SubmissionGate.Proofs.Text.LetterCase
import SubmissionGate.Proofs.Text.CharacterClass

/-!
# Blank texts and trimmed texts

A text of white space only is trimmed to nothing, and every other one to a text whose first and last
characters are no white space. Lower-casing makes no white space, so a trimmed text stays trimmed.
The text of a number is never blank.
-/

namespace SubmissionGate.Text

structure Trimmed (text : List Char) : Prop where
  first : ∀ c ∈ text.head?, isSpace c = false
  last : ∀ c ∈ text.getLast?, isSpace c = false

def Blank (text : List Char) : Prop := ∀ c ∈ text, isSpace c = true

theorem trimEnd_eq (text : List Char) : trimEnd text = text.rdropWhile isSpace := rfl

theorem trim_eq_nil_iff {text : List Char} : trim text = [] ↔ Blank text := by
  rw [trim, trimEnd_eq, List.rdropWhile_eq_nil_iff]
  constructor
  · intro h
    cases hLeft : text.dropWhile isSpace with
    | nil => exact List.dropWhile_eq_nil_iff.mp hLeft
    | cons c rest =>
      have hFirst := List.head?_dropWhile_not isSpace text
      rw [hLeft] at hFirst h
      exact absurd (h c List.mem_cons_self) (Bool.eq_false_iff.mp hFirst)
  · exact fun h c hMem => h c (List.dropWhile_subset _ hMem)

theorem trimmed_trim (text : List Char) : Trimmed (trim text) where
  first c hFirst := by
    have hPrefix : trim text <+: text.dropWhile isSpace := by
      rw [trim, trimEnd_eq]
      exact List.rdropWhile_prefix _ _
    obtain ⟨rest, hRest⟩ := hPrefix
    have hHead : (text.dropWhile isSpace).head? = some c := by
      rw [← hRest, List.head?_append, hFirst]
      rfl
    have hNot := List.head?_dropWhile_not isSpace text
    rwa [hHead] at hNot
  last c hLast := by
    obtain ⟨hNonempty, rfl⟩ := List.mem_getLast?_eq_getLast hLast
    exact Bool.eq_false_iff.mpr (List.rdropWhile_last_not isSpace (text.dropWhile isSpace)
      hNonempty)

/-! ## Letter case -/

theorem lowerRuns_avoid_spaces : (lowerRuns.toList.all fun run =>
    spaceRanges.toList.all fun range => run.avoids (range.1, range.2, 1, 0)) = true := by
  decide +kernel

theorem asciiLower_isSpace : ∀ point < 128, isSpace (Char.ofNat point) = false →
    isSpace (Char.ofNat point).toLower = false := by
  decide +kernel

theorem singularImages_isSpace : (singularImages.all fun c => !isSpace c) = true := by
  decide +kernel

theorem isSpace_singular {c : Char} (h : c ∈ singularImages) : isSpace c = false := by
  simpa using List.all_eq_true.mp singularImages_isSpace c h

theorem isSpace_image {point image : Nat}
    (h : CaseRun.search lowerRuns point 0 lowerRuns.size = some image) :
    isSpace (Char.ofNat image) = false := by
  obtain ⟨-, hHigh | rfl⟩ := lowerRuns_image_cases h
  · by_cases hValid : image.isValidChar
    · have hSame := Utf8.toNat_ofNat_of_scalar image hValid
      obtain ⟨run, hRun, hMaps, rfl⟩ := CaseRun.search_some h
      rw [isSpace, hSame, if_neg (Nat.not_lt.mpr hHigh), Bool.eq_false_iff]
      intro hHolds
      obtain ⟨range, hRange, hFirst, hLast⟩ := CodePoints.search_some hHolds
      have hAvoids := List.all_eq_true.mp
        (List.all_eq_true.mp lowerRuns_avoid_spaces run hRun) range hRange
      exact CaseRun.not_maps_image hAvoids hMaps ⟨hFirst, hLast, Nat.mod_one _⟩
    · rw [show Char.ofNat image = '\x00' from Char.ext_iff.mpr (by simp [Char.ofNat, hValid])]
      exact isSpace_singular (by decide)
  · exact isSpace_singular (by decide)

theorem isSpace_of_mem_lowerChar {c d : Char} (h : d ∈ lowerChar c) (hSpace : isSpace c = false) :
    isSpace d = false := by
  unfold lowerChar at h
  simp only at h
  split at h
  · next hAscii =>
    rw [List.mem_singleton.mp h]
    have hKept := asciiLower_isSpace c.toNat hAscii
    rw [Char.ofNat_toNat] at hKept
    exact hKept hSpace
  · split at h
    · simp only [List.mem_cons, List.not_mem_nil, or_false] at h
      rcases h with rfl | rfl
      · exact isSpace_singular (by decide)
      · exact isSpace_singular (by decide)
    · split at h
      · next hImage =>
        rw [List.mem_singleton.mp h]
        exact isSpace_image hImage
      · rwa [List.mem_singleton.mp h]

theorem isSpace_of_mem_imageBefore {afterCased : Bool} {c d : Char} {rest : List Char}
    (h : d ∈ imageBefore afterCased c rest) (hSpace : isSpace c = false) : isSpace d = false := by
  unfold imageBefore at h
  split at h
  · split at h
    · rw [List.mem_singleton.mp h]
      exact isSpace_singular (by decide)
    · rw [List.mem_singleton.mp h]
      exact isSpace_singular (by decide)
  · exact isSpace_of_mem_lowerChar h hSpace

theorem imageBefore_ne_nil (afterCased : Bool) (c : Char) (rest : List Char) :
    imageBefore afterCased c rest ≠ [] := by
  unfold imageBefore
  split
  · split <;> simp
  · exact lowerChar_ne_nil c

theorem lowerAfter_concat (afterCased : Bool) (front : List Char) (c : Char) :
    ∃ before cased, lowerAfter afterCased (front ++ [c]) [] = before ++ imageBefore cased c [] := by
  induction front generalizing afterCased with
  | nil => exact ⟨[], afterCased, by simp [lowerAfter_cons, lowerAfter]⟩
  | cons first front ih =>
    obtain ⟨before, cased, hBehind⟩ := ih (casedBehind afterCased first)
    refine ⟨imageBefore afterCased first (front ++ [c]) ++ before, cased, ?_⟩
    rw [List.cons_append, lowerAfter_cons, hBehind, List.append_assoc]

theorem lower_eq_nil_iff {text : List Char} : lower text = [] ↔ text = [] := by
  cases text with
  | nil => exact iff_of_true rfl rfl
  | cons c rest =>
    refine iff_of_false ?_ (List.cons_ne_nil _ _)
    rw [lower, lowerAfter_cons, List.append_eq_nil_iff]
    exact fun h => imageBefore_ne_nil _ _ _ h.1

theorem Trimmed.lower {text : List Char} (h : Trimmed text) : Trimmed (lower text) where
  first d hFirst := by
    cases text with
    | nil => cases hFirst
    | cons c rest =>
      have hImage : d ∈ imageBefore false c rest := by
        rw [Text.lower, lowerAfter_cons, List.head?_append_of_ne_nil _
          (imageBefore_ne_nil _ _ _)] at hFirst
        exact List.mem_of_mem_head? hFirst
      exact isSpace_of_mem_imageBefore hImage (h.first c rfl)
  last d hLast := by
    rcases List.eq_nil_or_concat text with rfl | ⟨front, c, rfl⟩
    · cases hLast
    · obtain ⟨before, cased, hLowered⟩ := lowerAfter_concat false front c
      have hImage : d ∈ imageBefore cased c [] := by
        rw [Text.lower, List.concat_eq_append, hLowered,
          List.getLast?_append_of_ne_nil _ (imageBefore_ne_nil _ _ _)] at hLast
        exact List.mem_of_getLast? hLast
      exact isSpace_of_mem_imageBefore hImage (h.last c (by simp))

/-! ## Numbers -/

theorem asciiDigit_isSpace : ∀ point < 128, (Char.ofNat point).isDigit = true →
    isSpace (Char.ofNat point) = false := by
  decide +kernel

theorem isSpace_of_isDigit {c : Char} (h : c.isDigit = true) : isSpace c = false := by
  have hDigit := h
  simp only [Char.isDigit, Bool.and_eq_true, decide_eq_true_eq, UInt32.le_iff_toNat_le] at h
  have hLast : c.toNat ≤ 57 := h.2
  have hNone := asciiDigit_isSpace c.toNat (by omega)
  rw [Char.ofNat_toNat] at hNone
  exact hNone hDigit

theorem not_blank_of_mem {text : List Char} {c : Char} (h : c ∈ text)
    (hSpace : isSpace c = false) : ¬ Blank text := by
  intro hBlank
  rw [hBlank c h] at hSpace
  cases hSpace

theorem Blank.of_append {first second : List Char} (h : Blank (first ++ second)) :
    Blank first ∧ Blank second :=
  List.forall_mem_append.mp h

theorem not_blank_repr (n : Nat) : ¬ Blank (Nat.repr n).toList := by
  rw [Nat.toList_repr]
  obtain ⟨c, rest, hDigits⟩ := List.exists_cons_of_ne_nil (Nat.toDigits_ne_nil (n := n) (b := 10))
  have hDigit : c ∈ Nat.toDigits 10 n := hDigits ▸ List.mem_cons_self
  exact not_blank_of_mem hDigit
    (isSpace_of_isDigit (Nat.isDigit_of_mem_toDigits (by decide) (by decide) hDigit))

theorem not_blank_render (layout : Binary64.Layout) (decimal : Binary64.Decimal) :
    ¬ Blank (layout.render decimal).toList := by
  unfold Binary64.Layout.render
  simp only
  split
  · split
    · exact not_blank_of_mem (c := '0') (by simp) rfl
    · split
      · intro h
        simp only [String.toList_append] at h
        exact not_blank_repr _ h.of_append.1.of_append.1
      · exact not_blank_of_mem (c := '.') (by simp) rfl
  · exact not_blank_of_mem (c := 'e') (by simp) rfl

theorem not_blank_number (n : Number) : ¬ Blank n.text.toList := by
  cases n with
  | int n =>
    cases n with
    | ofNat n => exact not_blank_repr n
    | negSucc n => exact not_blank_of_mem (c := '-') (by simp [Number.text, toString, Int.repr]) rfl
  | real x =>
    cases x with
    | nan => exact not_blank_of_mem (c := 'n') (by decide) rfl
    | infinity negative =>
      exact not_blank_of_mem (c := 'i') (by cases negative <;> decide) rfl
    | finite negative significand exponent =>
      simp only [Number.text, Binary64.text]
      split
      · exact not_blank_of_mem (c := '0') (by simp) rfl
      · intro h
        rw [String.toList_append] at h
        exact not_blank_render _ _ h.of_append.2

end SubmissionGate.Text
