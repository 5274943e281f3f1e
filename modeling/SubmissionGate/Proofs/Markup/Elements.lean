import Mathlib.Data.Nat.Init
import SubmissionGate.Markup.Document
import SubmissionGate.Proofs.Text.Spans

/-!
# The elements of a document, one after the other

Every round of the reader takes at least the less-than sign that it found, so the number of rounds
that it may take does not matter. What it finds behind an element is what it finds in the rest of
the text alone.
-/

namespace SubmissionGate.Markup

open SubmissionGate.Text

theorem strayTextSize_pos (text : List Char) : 0 < strayTextSize text := by
  unfold strayTextSize
  simp only
  split
  · omega
  · split <;> omega

theorem markedSectionSize_pos {text : List Char} {size : Nat}
    (h : markedSectionSize text = .ok (some size)) : 0 < size := by
  unfold markedSectionSize at h
  split at h
  · cases h
  · simp only at h
    repeat' split at h
    · cases h
    · cases h
    · obtain ⟨found, -, rfl⟩ := Option.map_eq_some_iff.mp (Except.ok.inj h)
      omega
    · obtain ⟨found, -, rfl⟩ := Option.map_eq_some_iff.mp (Except.ok.inj h)
      omega
    · cases h

theorem constructSize_pos {text : List Char} {size : Nat}
    (h : constructSize text = .ok (some size)) : 0 < size := by
  have hThrough : ∀ {skip rest}, 0 < skip →
      (.ok ((sizeThrough greaterSize? 0 rest).map (skip + ·)) : Except Fault (Option Nat)) =
        .ok (some size) → 0 < size := by
    intro skip rest hSkip hSize
    obtain ⟨found, -, rfl⟩ := Option.map_eq_some_iff.mp (Except.ok.inj hSize)
    omega
  unfold constructSize at h
  simp only at h
  split at h
  · exact hThrough (by omega) h
  · obtain ⟨found, -, rfl⟩ := Option.map_eq_some_iff.mp (Except.ok.inj h)
    omega
  · exact hThrough (by omega) h
  · exact markedSectionSize_pos h
  · split at h
    · exact hThrough (by omega) h
    · exact hThrough (by omega) h
  · cases h
    omega

theorem drop_suffix_tail {size : Nat} (hPos : 0 < size) (c : Char) (rest : List Char) :
    (c :: rest).drop size <:+ rest := by
  rw [List.drop_cons hPos]
  exact List.drop_suffix _ rest

theorem rawTextFrom_suffix (name before text : List Char) :
    (rawTextFrom name before text).2 <:+ text := by
  induction text generalizing before with
  | nil => exact List.suffix_rfl
  | cons c rest ih =>
    rw [rawTextFrom]
    split
    · exact List.drop_suffix _ _
    · exact (ih _).trans (List.suffix_cons c rest)

theorem takeElement_suffix (tag : StartTag) (rest : List Char) :
    (takeElement tag rest).2 <:+ rest := by
  unfold takeElement
  split
  · exact List.suffix_rfl
  · split
    · exact List.suffix_rfl
    · exact rawTextFrom_suffix _ _ _

theorem takeStray_suffix {rest left : List Char} (h : takeStray ('<' :: rest) = .ok left) :
    left <:+ rest := by
  unfold takeStray at h
  simp only at h
  split at h
  · cases h
  · cases h
    exact drop_suffix_tail (strayTextSize_pos _) '<' rest

theorem takeConstruct_suffix {rest left : List Char} {element : Option Element}
    (h : takeConstruct rest = .ok (element, left)) : left <:+ rest := by
  have hStray : ∀ {found : Option Element},
      (takeStray ('<' :: rest)).map (fun left => ((none : Option Element), left)) =
        .ok (found, left) → left <:+ rest := by
    intro found hTaken
    cases hResult : takeStray ('<' :: rest) with
    | error fault =>
      rw [hResult] at hTaken
      cases hTaken
    | ok other =>
      rw [hResult] at hTaken
      cases hTaken
      exact takeStray_suffix hResult
  unfold takeConstruct at h
  simp only at h
  split at h
  · split at h
    · cases h
    · exact hStray h
    · cases h
      exact List.drop_suffix _ _
    · cases h
      exact (takeElement_suffix _ _).trans (List.drop_suffix _ _)
  · split at h
    · cases h
    · exact hStray h
    · next size hSize =>
      cases h
      exact drop_suffix_tail (constructSize_pos hSize) '<' rest

/-- The number of rounds does not matter if there are more than the text has characters. -/
theorem elementsFrom_fuel {text : List Char} {found : List Element} {fuel other : Nat}
    (hFuel : text.length < fuel) (hOther : text.length < other) :
    elementsFrom text found fuel = (elementsFrom text [] other).map (found.reverse ++ ·) := by
  -- Every round takes at least one character, whatever it finds, so the induction is on the length
  -- of the text; the elements found so far have to stay general for it.
  induction hSize : text.length using Nat.strong_induction_on
    generalizing text found fuel other with
  | _ size ih =>
    obtain ⟨fuel, rfl⟩ := Nat.exists_eq_succ_of_ne_zero (Nat.ne_of_gt (Nat.zero_lt_of_lt hFuel))
    obtain ⟨other, rfl⟩ := Nat.exists_eq_succ_of_ne_zero (Nat.ne_of_gt (Nat.zero_lt_of_lt hOther))
    rw [elementsFrom, elementsFrom]
    cases checkText (text.takeWhile (· != '<')) with
    | error fault => rfl
    | ok _ =>
      cases hRest : text.drop (text.takeWhile (· != '<')).length with
      | nil => simp [Except.map]
      | cons c rest =>
        simp only
        have hShorter : rest.length < text.length := by
          have hLength := congrArg List.length hRest
          simp only [List.length_drop, List.length_cons] at hLength
          omega
        cases hTaken : takeConstruct rest with
        | error fault => rfl
        | ok taken =>
          obtain ⟨element, left⟩ := taken
          have hLeft := (takeConstruct_suffix hTaken).length_le
          have hLess : left.length < size := by omega
          cases element with
          | none => exact ih _ hLess (by omega) (by omega) rfl
          | some element =>
            have hFound : elementsFrom left (element :: found) fuel =
                (elementsFrom left [] other).map ((element :: found).reverse ++ ·) :=
              ih _ hLess (by omega) (by omega) rfl
            have hFirst : elementsFrom left [element] other =
                (elementsFrom left [] other).map ([element].reverse ++ ·) :=
              ih _ hLess (by omega) (by omega) rfl
            simp only
            rw [hFound, hFirst]
            cases elementsFrom left [] other with
            | error fault => rfl
            | ok later => simp [Except.map]

theorem elements_append {plain rest : List Char} (hPlain : '<' ∉ plain) :
    elements (plain ++ '<' :: rest) =
      (checkText plain).bind fun _ => (takeConstruct rest).bind fun taken =>
        (elements taken.2).map (taken.1.toList ++ ·) := by
  have hText : (plain ++ '<' :: rest).takeWhile (· != '<') = plain :=
    takeWhile_until hPlain
  rw [elements, elementsFrom]
  simp only [hText, List.drop_left]
  cases checkText plain with
  | error fault => rfl
  | ok _ =>
    simp only [Except.bind]
    cases hTaken : takeConstruct rest with
    | error fault => rfl
    | ok taken =>
      obtain ⟨element, left⟩ := taken
      have hLeft := (takeConstruct_suffix hTaken).length_le
      have hFuel : left.length < (plain ++ '<' :: rest).length := by
        simp only [List.length_append, List.length_cons]
        omega
      cases element with
      | none => exact elementsFrom_fuel hFuel (Nat.lt_succ_self _)
      | some element => exact elementsFrom_fuel hFuel (Nat.lt_succ_self _)

/-! Where elements come from -/

theorem takeElement_tag (tag : StartTag) (rest : List Char) : (takeElement tag rest).1.tag = tag := by
  unfold takeElement
  split
  · rfl
  · split
    · rfl
    · rfl

theorem takeConstruct_tag {rest left : List Char} {element : Element}
    (h : takeConstruct rest = .ok (some element, left)) :
    ∃ size, readStartTag rest = .ok (.tag element.tag size) := by
  have hStray : (takeStray ('<' :: rest)).map (fun left => ((none : Option Element), left)) ≠
      .ok (some element, left) := by
    intro hTaken
    cases hResult : takeStray ('<' :: rest) with
    | error fault =>
      rw [hResult] at hTaken
      cases hTaken
    | ok other =>
      rw [hResult] at hTaken
      cases hTaken
  unfold takeConstruct at h
  simp only at h
  split at h
  · split at h
    · cases h
    · exact absurd h hStray
    · cases h
    · next tag size hRead =>
      cases h
      rw [takeElement_tag]
      exact ⟨size, hRead⟩
  · split at h
    · cases h
    · exact absurd h hStray
    · cases h

/-- Every element has been read at a less-than sign of the text. -/
theorem mem_elementsFrom {text : List Char} {found elements : List Element} {fuel : Nat}
    (h : elementsFrom text found fuel = .ok elements) {element : Element}
    (hElement : element ∈ elements) :
    element ∈ found ∨
      ∃ rest size, '<' :: rest <:+ text ∧ readStartTag rest = .ok (.tag element.tag size) := by
  induction fuel generalizing text found with
  | zero =>
    cases h
    exact .inl (List.mem_reverse.mp hElement)
  | succ fuel ih =>
    rw [elementsFrom] at h
    split at h
    · cases h
    · split at h
      · cases h
        exact .inl (List.mem_reverse.mp hElement)
      · next c rest hRest =>
        have hSuffix : '<' :: rest <:+ text := by
          have hHead : c = '<' := by
            rw [drop_length_takeWhile] at hRest
            have hStop : c ∈ (text.dropWhile (· != '<')).head? := by
              rw [hRest]
              rfl
            simpa using head?_dropWhile hStop
          rw [← hHead, ← hRest]
          exact List.drop_suffix _ text
        split at h
        · cases h
        · next left hTaken =>
          obtain hFound | ⟨inner, size, hInner, hRead⟩ := ih h
          · exact .inl hFound
          · have hLeft := (takeConstruct_suffix hTaken).trans (List.suffix_cons '<' rest)
            exact .inr ⟨inner, size, hInner.trans (hLeft.trans hSuffix), hRead⟩
        · next taken left hTaken =>
          obtain hFound | ⟨inner, size, hInner, hRead⟩ := ih h
          · obtain rfl | hEarlier := List.mem_cons.mp hFound
            · obtain ⟨size, hRead⟩ := takeConstruct_tag hTaken
              exact .inr ⟨rest, size, hSuffix, hRead⟩
            · exact .inl hEarlier
          · have hLeft := (takeConstruct_suffix hTaken).trans (List.suffix_cons '<' rest)
            exact .inr ⟨inner, size, hInner.trans (hLeft.trans hSuffix), hRead⟩

theorem mem_elements {text : List Char} {found : List Element} (h : elements text = .ok found)
    {element : Element} (hElement : element ∈ found) :
    ∃ rest size, '<' :: rest <:+ text ∧ readStartTag rest = .ok (.tag element.tag size) := by
  obtain hNone | hRead := mem_elementsFrom h hElement
  · cases hNone
  · exact hRead

end SubmissionGate.Markup
