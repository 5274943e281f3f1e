import SubmissionGate.Proofs.Script.TokenShape

/-!
# Slashes behind operands

Whether a slash divides or starts a regular expression is told from what stands in front of it. The
scan looks at the last characters of the code there, while tokens are cut from its front; both come
to the same answer about every token, which is given here for each kind. Behind most operands the
slash divides. Behind a number that ends with a point, or with a keyword behind a point, and behind
any sign but a closing bracket, the scan takes it for the start of a regular expression.
-/

namespace SubmissionGate.Script

open SubmissionGate.Text

/-! ## What stands in front of a slash -/

/-- A token of code, or a string, template text or regular expression as a whole. -/
inductive LexicalUnit where
  | token (kind : TokenKind) (text : String)
  | literal (kind : SegmentKind) (text : List Char)
  deriving DecidableEq

/-- The units of a segment: blanks and comments hold none. -/
def Segment.units (segment : Segment) : List LexicalUnit :=
  match segment.kind with
  | .lineComment => []
  | .blockComment => []
  | .code => (Script.lexemes segment.text).map fun lexeme => .token lexeme.1 lexeme.2
  | .string => [.literal .string segment.text]
  | .template => [.literal .template segment.text]
  | .regex => [.literal .regex segment.text]

def lastUnit? (before : List Segment) : Option LexicalUnit := (before.flatMap Segment.units).getLast?

def lastWord (text : List Char) : List Char := (text.reverse.takeWhile isIdentifierChar).reverse

/-- A number ends with a point, or with a keyword behind one. -/
def endsLoosely (number : String) : Bool :=
  number.toList.getLast? == some '.' ||
    wordsBeforeRegex.contains (String.ofList (lastWord number.toList))

namespace LexicalUnit

/-- A value is complete behind the unit. -/
def IsOperand : LexicalUnit → Prop
  | token .name text => text ∉ wordsBeforeRegex
  | token .other _ => True
  | token .punctuation text => text = ")" ∨ text = "]"
  | token .string _ => False
  | literal .template text => text.getLast? = some '`'
  | literal kind _ => kind = .string ∨ kind = .regex

def IsLooseNumber : LexicalUnit → Prop
  | token .other text => endsLoosely text = true
  | _ => False

/-- Whether the scan takes a slash behind the unit for the start of a regular expression. -/
def admitsRegex : LexicalUnit → Bool
  | token .name text => wordsBeforeRegex.contains text
  | token .other text => endsLoosely text
  | token _ text => text != ")" && text != "]"
  | literal .template text => text.getLast? != some '`'
  | literal _ _ => false

theorem IsOperand.admitsRegex_iff {unit : LexicalUnit} (h : unit.IsOperand) :
    unit.admitsRegex = true ↔ unit.IsLooseNumber := by
  cases unit with
  | token kind text =>
    cases kind with
    | name => simpa [admitsRegex, IsLooseNumber, IsOperand] using h
    | punctuation =>
      obtain rfl | rfl := h
      · simp [admitsRegex, IsLooseNumber]
      · simp [admitsRegex, IsLooseNumber]
    | string => exact h.elim
    | other => exact Iff.rfl
  | literal kind text =>
    cases kind with
    | template => simpa [admitsRegex, IsLooseNumber, IsOperand] using h
    | _ => simp [admitsRegex, IsLooseNumber]

end LexicalUnit

/-! ## Reading code from its end -/

theorem admitsRegex_of_last {code before : List Char} {last : Char}
    (hCode : code = before ++ [last]) (hSpace : isSpace last = false) :
    admitsRegex code = some (if isIdentifierChar last
      then wordsBeforeRegex.contains (String.ofList (lastWord code))
      else last != ')' && last != ']') := by
  subst hCode
  unfold admitsRegex lastWord
  rw [List.reverse_concat, List.dropWhile_cons, if_neg (by simp [hSpace])]
  simp only
  split
  · rfl
  · rfl

theorem concat_bne {before : List Char} {last close : Char} (h : before ≠ [] → last ≠ close) :
    (String.ofList (before ++ [last]) != String.ofList [close]) = (last != close) := by
  have hText : String.ofList (before ++ [last]) = String.ofList [close] ↔ last = close := by
    rw [String.ofList_inj]
    cases before with
    | nil => exact List.singleton_inj
    | cons first before => simp [h (List.cons_ne_nil first before)]
  rw [Bool.eq_iff_iff, bne_iff_ne, bne_iff_ne]
  exact not_congr hText

theorem Lexed.admitsRegex_token {kind : TokenKind} {text left : List Char}
    (h : Lexed (some kind) text left) :
    admitsRegex text = some (LexicalUnit.admitsRegex (.token kind (String.ofList text))) := by
  cases h with
  | @name c text left hText hEnd =>
    obtain ⟨before, last, hLast⟩ : ∃ before last, c :: text = before ++ [last] :=
      ⟨_, _, (List.dropLast_concat_getLast (List.cons_ne_nil c text)).symm⟩
    have hIdentifier : isIdentifierChar last = true := by
      apply hText
      rw [hLast]
      exact List.mem_concat_self
    have hWhole : lastWord (c :: text) = c :: text := by
      have hAll : (c :: text).reverse.takeWhile isIdentifierChar = (c :: text).reverse := by
        rw [List.takeWhile_eq_self_iff]
        intro d hd
        exact hText d (List.mem_reverse.mp hd)
      rw [lastWord, hAll, List.reverse_reverse]
    rw [admitsRegex_of_last hLast (isSpace_of_isIdentifierChar hIdentifier), if_pos hIdentifier,
      hWhole]
    rfl
  | @number c text left hDigit hText hEnd =>
    obtain ⟨before, last, hLast⟩ : ∃ before last, c :: text = before ++ [last] :=
      ⟨_, _, (List.dropLast_concat_getLast (List.cons_ne_nil c text)).symm⟩
    have hContinues : continuesNumber last = true := by
      have hMem : last ∈ c :: text := by
        rw [hLast]
        exact List.mem_concat_self
      obtain rfl | hMore := List.mem_cons.mp hMem
      · simp [continuesNumber, isWordChar_of_isDecimalDigit hDigit]
      · exact hText last hMore
    have hNumber : (String.ofList (c :: text)).toList.getLast? = some last := by
      rw [String.toList_ofList, hLast, List.getLast?_concat]
    simp only [LexicalUnit.admitsRegex, endsLoosely, hNumber]
    rw [String.toList_ofList]
    obtain hWord | hPoint := (Bool.or_eq_true _ _).mp hContinues
    · have hIdentifier : isIdentifierChar last = true := by simp [isIdentifierChar, hWord]
      have hOther : last ≠ '.' := by
        rintro rfl
        cases hWord
      rw [admitsRegex_of_last hLast (isSpace_of_isIdentifierChar hIdentifier), if_pos hIdentifier]
      simp [hOther]
    · obtain rfl := beq_iff_eq.mp hPoint
      rw [admitsRegex_of_last hLast rfl]
      rfl
  | @punctuation before last left hSpace hPlain hLong =>
    have hRound : before ≠ [] → last ≠ ')' := by
      rintro hMore rfl
      exact absurd (hLong hMore) (by decide)
    have hSquare : before ≠ [] → last ≠ ']' := by
      rintro hMore rfl
      exact absurd (hLong hMore) (by decide)
    rw [admitsRegex_of_last rfl hSpace, if_neg (by simp [hPlain]), ← concat_bne hRound,
      ← concat_bne hSquare]
    rfl

/-- The scan reads the end of a piece of code as its last token. -/
theorem admitsRegex_lexemes (code : List Char) :
    admitsRegex code = (lexemes code).getLast?.map fun lexeme =>
      LexicalUnit.admitsRegex (.token lexeme.1 lexeme.2) := by
  fun_induction lexemes code with
  | case1 => rfl
  | case2 c rest size left hKind ih =>
    have hLexed := lexeme_lexed c rest
    rw [hKind] at hLexed
    have hBlank : admitsRegex ((c :: rest).take (lexeme c rest).2) = none := by
      cases hLexed with
      | blank hText => exact admitsRegex_blank hText
    rw [← List.take_append_drop (lexeme c rest).2 (c :: rest), admitsRegex_append hLexed.separate,
      hBlank, Option.or_none]
    exact ih
  | case3 c rest size left kind hKind ih =>
    have hLexed := lexeme_lexed c rest
    rw [hKind] at hLexed
    rw [List.getLast?_cons, ← List.take_append_drop (lexeme c rest).2 (c :: rest),
      admitsRegex_append hLexed.separate, hLexed.admitsRegex_token, ih]
    cases (lexemes left).getLast? with
    | none => simp [size]
    | some last => simp

end SubmissionGate.Script
