import SubmissionGate.Proofs.Script.Lexeme
import SubmissionGate.Proofs.Text.CharacterClass

/-!
# The shape of tokens

Code is cut from its front into blanks, names, numbers and punctuation, each as long as it can be.
So the kind of a piece says what it looks like and what cannot follow it. Two pieces meet within a
run of identifier characters only where a number stands in front of a dollar sign.
-/

namespace SubmissionGate.Script

open SubmissionGate.Text

theorem isIdentifierChar_of_isSpace {c : Char} (h : isSpace c = true) :
    isIdentifierChar c = false := by
  have hDollar : c ≠ '$' := by
    rintro rfl
    cases h
  simp [isIdentifierChar, isWordChar_of_isSpace h, hDollar]

theorem isSpace_of_isIdentifierChar {c : Char} (h : isIdentifierChar c = true) :
    isSpace c = false := by
  refine Bool.eq_false_iff.mpr ?_
  intro hSpace
  rw [isIdentifierChar_of_isSpace hSpace] at h
  cases h

/-- A piece of code of a kind in front of what is left; `none` stands for blanks. -/
inductive Lexed : Option TokenKind → List Char → List Char → Prop where
  | blank {text left} (hText : ∀ d ∈ text, isSpace d = true) : Lexed none text left
  | name {c text left} (hText : ∀ d ∈ c :: text, isIdentifierChar d = true)
      (hEnd : ∀ d ∈ left.head?, isIdentifierChar d = false) : Lexed (some .name) (c :: text) left
  | number {c text left} (hDigit : isDecimalDigit c = true)
      (hText : ∀ d ∈ text, continuesNumber d = true)
      (hEnd : ∀ d ∈ left.head?, continuesNumber d = false) : Lexed (some .other) (c :: text) left
  | punctuation {before last left} (hSpace : isSpace last = false)
      (hPlain : isIdentifierChar last = false)
      (hLong : before ≠ [] → last = '=' ∨ last = '>' ∨ last = '.') :
      Lexed (some .punctuation) (before ++ [last]) left

theorem punctuation_lexed {c : Char} {rest : List Char} (hSpace : isSpace c = false)
    (hPlain : isIdentifierChar c = false) :
    Lexed (some .punctuation) ((c :: rest).take (punctuationLength (c :: rest)))
      ((c :: rest).drop (punctuationLength (c :: rest))) := by
  have hSign : ∀ before last left, last = '=' ∨ last = '>' ∨ last = '.' →
      Lexed (some .punctuation) (before ++ [last]) left := by
    intro before last left hLast
    refine .punctuation ?_ ?_ fun _ => hLast
    · obtain rfl | rfl | rfl := hLast <;> rfl
    · obtain rfl | rfl | rfl := hLast <;> rfl
  generalize hCode : c :: rest = code
  unfold punctuationLength
  split
  · exact hSign ['='] '>' _ (by simp)
  · exact hSign ['=', '='] '=' _ (by simp)
  · exact hSign ['!', '='] '=' _ (by simp)
  · exact hSign ['='] '=' _ (by simp)
  · exact hSign ['!'] '=' _ (by simp)
  · exact hSign ['<'] '=' _ (by simp)
  · exact hSign ['>'] '=' _ (by simp)
  · exact hSign ['.', '.'] '.' _ (by simp)
  · subst hCode
    exact @Lexed.punctuation [] c rest hSpace hPlain (by simp)

/-- The first piece of code has the shape of its kind. -/
theorem lexeme_lexed (c : Char) (rest : List Char) :
    Lexed (lexeme c rest).1 ((c :: rest).take (lexeme c rest).2)
      ((c :: rest).drop (lexeme c rest).2) := by
  have hTake : ∀ p : Char → Bool, (c :: rest).take (1 + (rest.takeWhile p).length) =
      c :: rest.takeWhile p := by
    intro p
    rw [Nat.add_comm, List.take_succ_cons, take_length_takeWhile]
  have hDrop : ∀ p : Char → Bool, (c :: rest).drop (1 + (rest.takeWhile p).length) =
      rest.dropWhile p := by
    intro p
    rw [Nat.add_comm, List.drop_succ_cons, drop_length_takeWhile]
  unfold lexeme
  split
  · next hSpace =>
    simp only [hTake, hDrop]
    apply Lexed.blank
    rintro d (_ | ⟨_, hd⟩)
    · exact hSpace
    · exact List.mem_takeWhile_imp hd
  · next hSpace =>
    split
    · next hStart =>
      obtain ⟨hFirst, -⟩ := (Bool.and_eq_true _ _).mp hStart
      simp only [hTake, hDrop]
      apply Lexed.name
      · rintro d (_ | ⟨_, hd⟩)
        · exact hFirst
        · exact List.mem_takeWhile_imp hd
      · intro d hd
        exact head?_dropWhile hd
    · next hStart =>
      split
      · next hDigit =>
        simp only [hTake, hDrop]
        apply Lexed.number hDigit
        · intro d hd
          exact List.mem_takeWhile_imp hd
        · intro d hd
          exact head?_dropWhile hd
      · next hDigit =>
        apply punctuation_lexed (by simpa using hSpace)
        simpa [startsName, hDigit] using hStart

theorem Lexed.separate {kind : Option TokenKind} {text left : List Char} (h : Lexed kind text left) :
    Separate text left := by
  intro d hLast e hHead hd he
  cases h with
  | blank hText =>
    rw [isIdentifierChar_of_isSpace (hText d (List.mem_of_getLast? hLast))] at hd
    cases hd
  | name hText hEnd =>
    rw [hEnd e hHead] at he
    cases he
  | number hDigit hText hEnd =>
    have hWord : isWordChar e = false := by
      have hStop := hEnd e hHead
      simp only [continuesNumber, Bool.or_eq_false_iff] at hStop
      exact hStop.1
    simpa [isIdentifierChar, hWord] using he
  | punctuation hSpace hPlain hLong =>
    rw [List.getLast?_concat] at hLast
    cases hLast
    rw [hPlain] at hd
    cases hd

end SubmissionGate.Script
