import Mathlib.Tactic.ByContra
import SubmissionGate.Proofs.Text.Utf8
import SubmissionGate.Text.LetterCase

/-!
# Letter case

A text in lower case stays as it is: no image of a case mapping is mapped again, and the two small
forms of sigma are images of the capital one only. A character without case that never takes part
in a word separates what stands in front of it from what stands behind it.
-/

namespace SubmissionGate.Text

/-! ## Runs -/

def CaseRun.Maps (run : CaseRun) (point : Nat) : Prop :=
  run.1 ≤ point ∧ point ≤ run.2.1 ∧ (point - run.1) % run.2.2.1 = 0

def CaseRun.image (run : CaseRun) (point : Nat) : Nat := ((point : Int) + run.2.2.2).toNat

theorem CaseRun.search_some {runs : Array CaseRun} {point low high image : Nat}
    (h : CaseRun.search runs point low high = some image) :
    ∃ run ∈ runs.toList, run.Maps point ∧ image = run.image point := by
  fun_induction CaseRun.search runs point low high with
  | case1 => cases h
  | case2 low high hLess middle first last step shift hRun hBelow ih => exact ih h
  | case3 low high hLess middle first last step shift hRun hBelow hAbove ih => exact ih h
  | case4 low high hLess middle first last step shift hRun hBelow hAbove hStep =>
    cases h
    obtain ⟨hMiddle, hRun⟩ := Array.getElem?_eq_some_iff.mp hRun
    refine ⟨(first, last, step, shift), ?_, ⟨?_, ?_, ?_⟩, rfl⟩
    · rw [← hRun]
      exact Array.getElem_mem_toList hMiddle
    · exact Nat.not_lt.mp hBelow
    · exact Nat.not_lt.mp hAbove
    · simpa using hStep
  | case5 => cases h
  | case6 => cases h

/-- The images of a run keep off the points of another one: they lie in front of them or behind
them, or they fall into its gaps. -/
def CaseRun.avoids (run other : CaseRun) : Bool :=
  Nat.blt (run.image run.2.1) other.1 || Nat.blt other.2.1 (run.image run.1) ||
    ((Nat.beq run.2.2.1 2 || Nat.beq run.1 run.2.1) && Nat.beq other.2.2.1 2 &&
      Nat.blt 0 (run.image run.1) && Nat.beq ((run.image run.1 + other.1) % 2) 1)

theorem CaseRun.not_maps_image {run other : CaseRun} {point : Nat}
    (hAvoids : run.avoids other = true) (hMaps : run.Maps point) :
    ¬ other.Maps (run.image point) := by
  obtain ⟨first, last, step, shift⟩ := run
  obtain ⟨start, stop, stride, _⟩ := other
  intro hOther
  obtain ⟨hStart, hStop, hStride⟩ := hOther
  obtain ⟨hFirst, hLast, hStep⟩ := hMaps
  simp only [avoids, image, Nat.blt_eq, Bool.or_eq_true, Bool.and_eq_true, Nat.beq_eq]
    at hAvoids hStart hStop hStride hFirst hLast hStep
  rcases hAvoids with (hBefore | hBehind) | ⟨⟨⟨rfl | rfl, rfl⟩, hPositive⟩, hGap⟩
  · omega
  · omega
  · omega
  · omega

theorem lowerRuns_avoid : (lowerRuns.toList.all fun run =>
    lowerRuns.toList.all fun other => run.avoids other) = true := by
  decide +kernel

theorem lowerRuns_search_image {point image : Nat}
    (h : CaseRun.search lowerRuns point 0 lowerRuns.size = some image) :
    CaseRun.search lowerRuns image 0 lowerRuns.size = none := by
  obtain ⟨run, hRun, hMaps, rfl⟩ := CaseRun.search_some h
  cases hAgain : CaseRun.search lowerRuns (run.image point) 0 lowerRuns.size with
  | none => rfl
  | some again =>
    obtain ⟨other, hOther, hMapsAgain, -⟩ := CaseRun.search_some hAgain
    have hAvoids := List.all_eq_true.mp (List.all_eq_true.mp lowerRuns_avoid run hRun) other hOther
    exact absurd hMapsAgain (CaseRun.not_maps_image hAvoids hMaps)

/-- No image is the dotted capital I, and the Kelvin sign alone has one among the letters of
ASCII. -/
theorem lowerRuns_special : (lowerRuns.toList.all fun run => run.avoids (0x130, 0x130, 1, 0) &&
    (run.avoids (0, 127, 1, 0) || run == (0x212A, 0x212A, 1, -8383))) = true := by
  decide +kernel

theorem lowerRuns_image_cases {point image : Nat}
    (h : CaseRun.search lowerRuns point 0 lowerRuns.size = some image) :
    image ≠ 0x130 ∧ (128 ≤ image ∨ image = 107) := by
  obtain ⟨run, hRun, hMaps, rfl⟩ := CaseRun.search_some h
  have hSpecial := List.all_eq_true.mp lowerRuns_special run hRun
  rw [Bool.and_eq_true, Bool.or_eq_true] at hSpecial
  obtain ⟨hDotted, hLow⟩ := hSpecial
  refine ⟨fun hSame => CaseRun.not_maps_image hDotted hMaps ?_, ?_⟩
  · rw [hSame]
    exact ⟨Nat.le_refl _, Nat.le_refl _, rfl⟩
  · rcases hLow with hAvoids | hKelvin
    · left
      by_contra hSmall
      exact CaseRun.not_maps_image hAvoids hMaps
        ⟨Nat.zero_le _, Nat.le_of_lt_succ (Nat.not_le.mp hSmall), Nat.mod_one _⟩
    · right
      obtain rfl : run = (0x212A, 0x212A, 1, -8383) := by simpa using hKelvin
      obtain ⟨hFirst, hLast, -⟩ := hMaps
      obtain rfl : point = 0x212A := Nat.le_antisymm hLast hFirst
      rfl

/-! ## Characters -/

/-- A character that is in lower case, or has no case. -/
def IsLower (c : Char) : Prop := c ≠ 'Σ' ∧ lowerChar c = [c]

/-- The images that no argument about runs covers. -/
def singularImages : List Char := ['i', '\u0307', 'σ', 'ς', 'k', '\x00']

theorem lowerChar_singular : (lowerChar 'Σ' == ['σ'] &&
    singularImages.all fun c => lowerChar c == [c]) = true := by
  decide +kernel

theorem isLower_of_fixed {c : Char} (h : lowerChar c = [c]) : IsLower c := by
  refine ⟨?_, h⟩
  rintro rfl
  have hSigma := (Bool.and_eq_true _ _ ▸ lowerChar_singular).1
  rw [h] at hSigma
  exact absurd hSigma (by decide)

theorem isLower_singular {c : Char} (h : c ∈ singularImages) : IsLower c := by
  have hAll := (Bool.and_eq_true _ _ ▸ lowerChar_singular).2
  exact isLower_of_fixed (beq_iff_eq.mp (List.all_eq_true.mp hAll c h))

theorem lowerChar_ascii {c : Char} (h : c.toNat < 128) : lowerChar c = [c.toLower] := by
  simp [lowerChar, h]

theorem toLower_ascii {c : Char} (h : c.toNat < 128) :
    c.toLower.toNat < 128 ∧ c.toLower.toLower = c.toLower := by
  have hAll : ∀ point : Fin 128, (Char.ofNat point).toLower.toNat < 128 ∧
      (Char.ofNat point).toLower.toLower = (Char.ofNat point).toLower := by
    decide +kernel
  simpa using hAll ⟨c.toNat, h⟩

theorem ascii_of_toLower {c : Char} (h : c.toLower.toNat < 128) : c.toNat < 128 := by
  unfold Char.toLower at h
  split at h
  · next hUpper =>
    have hLast : c.toNat ≤ 90 := hUpper.2
    omega
  · exact h

theorem isLower_toLower {c : Char} (h : c.toNat < 128) : IsLower c.toLower := by
  apply isLower_of_fixed
  rw [lowerChar_ascii (toLower_ascii h).1, (toLower_ascii h).2]

theorem isLower_image {point image : Nat}
    (h : CaseRun.search lowerRuns point 0 lowerRuns.size = some image) :
    IsLower (Char.ofNat image) := by
  obtain ⟨hDotted, hHigh | rfl⟩ := lowerRuns_image_cases h
  · have hNone := lowerRuns_search_image h
    by_cases hValid : image.isValidChar
    · have hSame := Utf8.toNat_ofNat_of_scalar image hValid
      apply isLower_of_fixed
      simp [lowerChar, hSame, hDotted, hNone, Nat.not_lt.mpr hHigh]
    · rw [show Char.ofNat image = '\x00' from Char.ext_iff.mpr (by simp [Char.ofNat, hValid])]
      exact isLower_singular (by decide)
  · exact isLower_singular (by decide)

theorem isLower_of_mem_lowerChar {c d : Char} (h : d ∈ lowerChar c) : IsLower d := by
  unfold lowerChar at h
  simp only at h
  split at h
  · next hAscii =>
    rw [List.mem_singleton.mp h]
    exact isLower_toLower hAscii
  · next hHigh =>
    split at h
    · simp only [List.mem_cons, List.not_mem_nil, or_false] at h
      rcases h with rfl | rfl
      · exact isLower_singular (by decide)
      · exact isLower_singular (by decide)
    · next hDotted =>
      split at h
      · next image hImage =>
        rw [List.mem_singleton.mp h]
        exact isLower_image hImage
      · next hNone =>
        rw [List.mem_singleton.mp h]
        apply isLower_of_fixed
        simp [lowerChar, hHigh, hDotted, hNone]

/-! ## Texts -/

theorem lowerAfter_eq_append (afterCased : Bool) (text lowered : List Char) :
    lowerAfter afterCased text lowered = lowered.reverse ++ lowerAfter afterCased text [] := by
  induction text generalizing afterCased lowered with
  | nil => simp [lowerAfter]
  | cons c rest ih =>
    rw [lowerAfter, lowerAfter, ih]
    conv => rhs; rw [ih]
    simp

def imageBefore (afterCased : Bool) (c : Char) (rest : List Char) : List Char :=
  if c == 'Σ' then (if afterCased && !startsCased rest then ['ς'] else ['σ']) else lowerChar c

/-- Whether the last character that counts was cased, once a character is passed. -/
def casedBehind (afterCased : Bool) (c : Char) : Bool :=
  if isCaseIgnorable c then afterCased else isCased c

theorem lowerAfter_cons (afterCased : Bool) (c : Char) (rest : List Char) :
    lowerAfter afterCased (c :: rest) [] =
      imageBefore afterCased c rest ++ lowerAfter (casedBehind afterCased c) rest [] := by
  rw [lowerAfter, lowerAfter_eq_append]
  simp [imageBefore, casedBehind]

theorem isLower_imageBefore {afterCased : Bool} {c d : Char} {rest : List Char}
    (h : d ∈ imageBefore afterCased c rest) : IsLower d := by
  unfold imageBefore at h
  split at h
  · split at h
    · rw [List.mem_singleton.mp h]
      exact isLower_singular (by decide)
    · rw [List.mem_singleton.mp h]
      exact isLower_singular (by decide)
  · exact isLower_of_mem_lowerChar h

theorem isLower_of_mem_lowerAfter {afterCased : Bool} {text : List Char} {d : Char}
    (h : d ∈ lowerAfter afterCased text []) : IsLower d := by
  induction text generalizing afterCased with
  | nil => cases h
  | cons c rest ih =>
    rw [lowerAfter_cons] at h
    rcases List.mem_append.mp h with hImage | hRest
    · exact isLower_imageBefore hImage
    · exact ih hRest

theorem lowerAfter_of_isLower {text : List Char} (h : ∀ c ∈ text, IsLower c) (afterCased : Bool) :
    lowerAfter afterCased text [] = text := by
  induction text generalizing afterCased with
  | nil => rfl
  | cons c rest ih =>
    obtain ⟨hSigma, hFixed⟩ := h c List.mem_cons_self
    rw [lowerAfter_cons, ih fun d hMem => h d (List.mem_cons_of_mem _ hMem)]
    simp [imageBefore, hSigma, hFixed]

/-- A text in lower case stays as it is. -/
theorem lower_lower (text : List Char) : lower (lower text) = lower text :=
  lowerAfter_of_isLower (fun _ => isLower_of_mem_lowerAfter) false

theorem startsCased_append {before : List Char} {mark : Char} {behind : List Char}
    (hIgnorable : isCaseIgnorable mark = false) (hCased : isCased mark = false) :
    startsCased (before ++ mark :: behind) = startsCased before := by
  unfold startsCased
  induction before with
  | nil => simp [hIgnorable, hCased]
  | cons c rest ih =>
    cases hSkip : isCaseIgnorable c with
    | true => simpa [hSkip] using ih
    | false => simp [hSkip]

theorem lower_append_mark {before : List Char} {mark : Char} {behind : List Char}
    (hIgnorable : isCaseIgnorable mark = false) (hCased : isCased mark = false)
    (hLower : IsLower mark) :
    lower (before ++ mark :: behind) = lower before ++ mark :: lower behind := by
  have hAfter : ∀ afterCased, lowerAfter afterCased (before ++ mark :: behind) [] =
      lowerAfter afterCased before [] ++ mark :: lower behind := by
    induction before with
    | nil =>
      intro afterCased
      rw [List.nil_append, lowerAfter_cons]
      simp [imageBefore, casedBehind, hIgnorable, hCased, hLower.1, hLower.2, lowerAfter, lower]
    | cons c rest ih =>
      intro afterCased
      have hImage : imageBefore afterCased c (rest ++ mark :: behind) =
          imageBefore afterCased c rest := by
        simp only [imageBefore, startsCased_append hIgnorable hCased]
      rw [List.cons_append, lowerAfter_cons, lowerAfter_cons, ih, hImage, List.append_assoc]
  exact hAfter false

theorem lowerAfter_append_ascii {text : List Char} (h : ∀ c ∈ text, c.toNat < 128)
    (afterCased : Bool) (rest : List Char) : ∃ cased,
      lowerAfter afterCased (text ++ rest) [] = text.map Char.toLower ++ lowerAfter cased rest [] := by
  induction text generalizing afterCased with
  | nil => exact ⟨afterCased, rfl⟩
  | cons c text ih =>
    obtain ⟨hAscii, hText⟩ := List.forall_mem_cons.mp h
    obtain ⟨cased, hRest⟩ := ih hText (casedBehind afterCased c)
    have hSigma : c ≠ 'Σ' := by
      rintro rfl
      exact absurd hAscii (by decide)
    refine ⟨cased, ?_⟩
    rw [List.cons_append, lowerAfter_cons, hRest]
    simp [imageBefore, hSigma, lowerChar_ascii hAscii]

theorem lower_ascii {text : List Char} (h : ∀ c ∈ text, c.toNat < 128) :
    lower text = text.map Char.toLower := by
  obtain ⟨cased, hLower⟩ := lowerAfter_append_ascii h false []
  simpa [lower, lowerAfter] using hLower

/-- The images that are plain letters of ASCII come from ASCII, but for those of the Kelvin sign and
the dotted capital I. -/
theorem ascii_of_mem_lowerChar {c d : Char} (h : d ∈ lowerChar c) (hAscii : d.toNat < 128)
    (hOther : d ∉ ['k', 'i', '\x00']) : c.toNat < 128 := by
  by_contra hHigh
  simp only [List.mem_cons, List.not_mem_nil, or_false, not_or] at hOther
  unfold lowerChar at h
  simp only [hHigh, if_false] at h
  split at h
  · simp only [List.mem_cons, List.not_mem_nil, or_false] at h
    rcases h with rfl | rfl
    · exact hOther.2.1 rfl
    · exact absurd hAscii (by decide)
  · split at h
    · next image hImage =>
      obtain rfl := List.mem_singleton.mp h
      rcases (lowerRuns_image_cases hImage).2 with hLarge | rfl
      · by_cases hValid : image.isValidChar
        · rw [Utf8.toNat_ofNat_of_scalar image hValid] at hAscii
          omega
        · exact hOther.2.2 (Char.ext_iff.mpr (by simp [Char.ofNat, hValid]))
      · exact hOther.1 rfl
    · rw [List.mem_singleton.mp h] at hAscii
      exact hHigh hAscii

theorem lowerChar_ne_nil (c : Char) : lowerChar c ≠ [] := by
  unfold lowerChar
  simp only
  split
  · simp
  · split
    · simp
    · split <;> simp

theorem imageBefore_subset {text : List Char} {c : Char} (h : c ∈ text) (afterCased : Bool) :
    ∃ cased rest, imageBefore cased c rest ⊆ lowerAfter afterCased text [] := by
  induction text generalizing afterCased with
  | nil => cases h
  | cons first rest ih =>
    rw [lowerAfter_cons]
    rcases List.mem_cons.mp h with rfl | hRest
    · exact ⟨_, _, List.subset_append_left _ _⟩
    · obtain ⟨cased, behind, hSubset⟩ := ih hRest (casedBehind afterCased first)
      exact ⟨cased, behind, List.Subset.trans hSubset (List.subset_append_right _ _)⟩

theorem map_toLower_of_lower {text word : List Char} (h : lower text = word)
    (hWord : ∀ d ∈ word, d.toNat < 128 ∧ d ∉ ['k', 'i', '\x00']) :
    text.map Char.toLower = word := by
  have hAscii : ∀ c ∈ text, c.toNat < 128 := by
    intro c hMem
    obtain ⟨cased, rest, hSubset⟩ := imageBefore_subset hMem false
    have hPlain : ∀ d ∈ imageBefore cased c rest, d.toNat < 128 ∧ d ∉ ['k', 'i', '\x00'] :=
      fun d hImage => hWord d (h ▸ hSubset hImage)
    by_cases hSigma : c = 'Σ'
    · subst hSigma
      exfalso
      cases hFinal : cased && !startsCased rest with
      | true => exact absurd (hPlain 'ς' (by simp [imageBefore, hFinal])).1 (by decide)
      | false => exact absurd (hPlain 'σ' (by simp [imageBefore, hFinal])).1 (by decide)
    · obtain ⟨d, more, hCons⟩ := List.exists_cons_of_ne_nil (lowerChar_ne_nil c)
      have hImage : d ∈ lowerChar c := hCons ▸ List.mem_cons_self
      obtain ⟨hLow, hOther⟩ := hPlain d (by simpa [imageBefore, hSigma] using hImage)
      exact ascii_of_mem_lowerChar hImage hLow hOther
  rw [← lower_ascii hAscii, h]

end SubmissionGate.Text
