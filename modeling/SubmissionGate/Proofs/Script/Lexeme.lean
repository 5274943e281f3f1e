import Mathlib.Data.List.TakeWhile
import SubmissionGate.Script.Token
import SubmissionGate.Proofs.Text.Spans

/-!
# Joining pieces of code

What is left of a comment ends or starts with a blank, and a blank ends every word, number and
piece of punctuation. So the tokens of two pieces of code that meet at a blank are those of one
piece followed by those of the other, and a slash behind them is read after the last of them.
-/

namespace SubmissionGate.Script

open SubmissionGate.Text

def separates (c : Char) : Bool := c == ' ' || c == '\n'

theorem separates_cases {c : Char} (h : separates c = true) : c = ' ' ∨ c = '\n' := by
  simpa [separates] using h

theorem isSpace_of_separates {c : Char} (h : separates c = true) : isSpace c = true := by
  obtain rfl | rfl := separates_cases h
  · decide
  · decide

theorem isIdentifierChar_of_separates {c : Char} (h : separates c = true) :
    isIdentifierChar c = false := by
  obtain rfl | rfl := separates_cases h
  · decide
  · decide

theorem continuesNumber_of_separates {c : Char} (h : separates c = true) :
    continuesNumber c = false := by
  obtain rfl | rfl := separates_cases h
  · decide
  · decide

theorem isBreak_of_separates {c : Char} (h : separates c = true) : isBreak c = false := by
  obtain rfl | rfl := separates_cases h
  · decide
  · decide

/-- Two pieces of code meet at a blank. -/
def BlankBetween (first second : List Char) : Prop :=
  first.getLast?.any separates = true ∨ second.head?.any separates = true

/-- Nothing of the second piece of code joins what the first one ends with. -/
def Parted (first second : List Char) : Prop :=
  first = [] ∨ second = [] ∨ BlankBetween first second

theorem Parted.of_blank {blank : List Char} (h : ∀ c ∈ blank, separates c = true)
    (code : List Char) : Parted code blank := by
  cases blank with
  | nil => exact .inr (.inl rfl)
  | cons c rest => exact .inr (.inr (.inr (h c List.mem_cons_self)))

theorem BlankBetween.tail {c : Char} {first second : List Char}
    (h : BlankBetween (c :: first) second) (hBlank : separates c = false) :
    BlankBetween first second := by
  refine h.imp_left ?_
  intro hLast
  cases first with
  | nil => simp [hBlank] at hLast
  | cons d rest => rwa [List.getLast?_cons_cons] at hLast

theorem Parted.tail {c : Char} {first second : List Char} (h : Parted (c :: first) second) :
    Parted first second := by
  obtain hNil | hNil | hBlank | hBlank := h
  · cases hNil
  · exact .inr (.inl hNil)
  · cases first with
    | nil => exact .inl rfl
    | cons d rest =>
      rw [List.getLast?_cons_cons] at hBlank
      exact .inr (.inr (.inl hBlank))
  · exact .inr (.inr (.inr hBlank))

theorem Parted.drop {first second : List Char} (h : Parted first second) (count : Nat) :
    Parted (first.drop count) second := by
  induction count generalizing first with
  | zero => exact h
  | succ count ih =>
    cases first with
    | nil => exact .inl rfl
    | cons c rest => exact ih h.tail

theorem takeWhile_append_of_blankBetween {p : Char → Bool} {first second : List Char}
    (hp : ∀ c, separates c = true → p c = false) (h : BlankBetween first second) :
    (first ++ second).takeWhile p = first.takeWhile p := by
  induction first with
  | nil =>
    obtain hLast | hHead := h
    · cases hLast
    · cases second with
      | nil => cases hHead
      | cons c rest => simp [hp c hHead]
  | cons c rest ih =>
    rw [List.cons_append, List.takeWhile_cons, List.takeWhile_cons]
    cases hc : p c with
    | false => rfl
    | true =>
      have hBlank : separates c = false := by
        cases hBlank : separates c with
        | false => rfl
        | true =>
          rw [hp c hBlank] at hc
          cases hc
      rw [if_pos rfl, if_pos rfl, ih (h.tail hBlank)]

/-! What a slash behind a piece of code is -/

/-- Two pieces of code meet within a run of identifier characters only in front of a dollar sign. -/
def Separate (first second : List Char) : Prop :=
  ∀ d ∈ first.getLast?, ∀ e ∈ second.head?,
    isIdentifierChar d = true → isIdentifierChar e = true → e = '$'

theorem Parted.separate {first second : List Char} (h : Parted first second) :
    Separate first second := by
  intro d hLast e hHead hd he
  obtain rfl | rfl | hBlank | hBlank := h
  · cases hLast
  · cases hHead
  · rw [Option.mem_def.mp hLast] at hBlank
    rw [isIdentifierChar_of_separates hBlank] at hd
    cases hd
  · rw [Option.mem_def.mp hHead] at hBlank
    rw [isIdentifierChar_of_separates hBlank] at he
    cases he

theorem wordsBeforeRegex_dollar {word : List Char} (h : '$' ∈ word) :
    wordsBeforeRegex.contains (String.ofList word) = false := by
  have hNone : ∀ text ∈ wordsBeforeRegex, '$' ∉ text.toList := by decide
  refine Bool.eq_false_iff.mpr ?_
  intro hContains
  have hAbsent := hNone _ (List.contains_iff_mem.mp hContains)
  rw [String.toList_ofList] at hAbsent
  exact hAbsent h

theorem Separate.dollar_mem {first second : List Char} (h : Separate first second) {last d : Char}
    {before more : List Char} (hLeft : second.reverse.dropWhile isSpace = last :: before)
    (hWord : (last :: before).takeWhile isIdentifierChar = last :: before)
    (hFirst : first.reverse.takeWhile isIdentifierChar = d :: more) : '$' ∈ last :: before := by
  obtain ⟨e, he⟩ : ∃ e, (last :: before).getLast? = some e :=
    ⟨_, List.getLast?_eq_some_getLast (List.cons_ne_nil last before)⟩
  have hMem : e ∈ last :: before := List.mem_of_getLast? he
  have hHead : second.head? = some e := by
    have hWhole := List.takeWhile_append_dropWhile (p := isSpace) (l := second.reverse)
    rw [← List.getLast?_reverse, ← hWhole, hLeft, List.getLast?_append, he]
    rfl
  have hLast : first.getLast? = some d := by
    rw [← List.head?_reverse]
    cases hReverse : first.reverse with
    | nil => simp [hReverse] at hFirst
    | cons c rest =>
      rw [hReverse, List.takeWhile_cons] at hFirst
      split at hFirst
      · rw [(List.cons.inj hFirst).1]
        rfl
      · cases hFirst
  have hd : isIdentifierChar d = true := by
    apply List.mem_takeWhile_imp (l := first.reverse)
    rw [hFirst]
    exact List.mem_cons_self
  have hIdentifier : isIdentifierChar e = true := by
    apply List.mem_takeWhile_imp (l := last :: before)
    rwa [hWord]
  rwa [h d hLast e hHead hd hIdentifier] at hMem

theorem admitsRegex_append {first second : List Char} (h : Separate first second) :
    admitsRegex (first ++ second) = (admitsRegex second).or (admitsRegex first) := by
  unfold admitsRegex
  rw [List.reverse_append, List.dropWhile_append]
  cases hLeft : second.reverse.dropWhile isSpace with
  | nil => simp
  | cons last before =>
    have hKeyword : wordsBeforeRegex.contains (String.ofList
          (((last :: before) ++ first.reverse).takeWhile isIdentifierChar).reverse) =
        wordsBeforeRegex.contains (String.ofList
          ((last :: before).takeWhile isIdentifierChar).reverse) := by
      rw [List.takeWhile_append]
      split
      · next hAll =>
        have hWord : (last :: before).takeWhile isIdentifierChar = last :: before :=
          (List.takeWhile_prefix _).eq_of_length hAll
        cases hFirst : first.reverse.takeWhile isIdentifierChar with
        | nil => rw [List.append_nil, hWord]
        | cons d more =>
          have hDollar := h.dollar_mem hLeft hWord hFirst
          rw [hWord, wordsBeforeRegex_dollar, wordsBeforeRegex_dollar]
          · exact List.mem_reverse.mpr hDollar
          · exact List.mem_reverse.mpr (List.mem_append_left _ hDollar)
      · rfl
    rw [List.cons_append] at hKeyword
    simp only [List.isEmpty_cons, Bool.false_eq_true, if_false, List.cons_append, Option.or,
      hKeyword]
    split
    · rfl
    · rfl

theorem admitsRegex_blank {code : List Char} (h : ∀ c ∈ code, isSpace c = true) :
    admitsRegex code = none := by
  have hDrop : code.reverse.dropWhile isSpace = [] := by
    rw [List.dropWhile_eq_nil_iff]
    intro c hc
    exact h c (List.mem_reverse.mp hc)
  unfold admitsRegex
  rw [hDrop]

theorem admitsRegex_append_blank {blank : List Char} (h : ∀ c ∈ blank, separates c = true)
    (code : List Char) : admitsRegex (code ++ blank) = admitsRegex code := by
  have hBlank := admitsRegex_blank fun c hc => isSpace_of_separates (h c hc)
  rw [admitsRegex_append (Parted.of_blank h code).separate, hBlank, Option.none_or]

/-! Punctuation -/

theorem punctuationLength_le (c : Char) (rest : List Char) :
    punctuationLength (c :: rest) ≤ rest.length + 1 := by
  unfold punctuationLength
  grind

theorem punctuationLength_blank (c : Char) {d : Char} (h : separates d = true)
    (rest : List Char) : punctuationLength (c :: d :: rest) = 1 := by
  obtain rfl | rfl := separates_cases h
  · simp [punctuationLength]
  · simp [punctuationLength]

theorem punctuationLength_two (c d : Char) {e : Char} (h : separates e = true)
    (rest : List Char) : punctuationLength (c :: d :: e :: rest) = punctuationLength [c, d] := by
  obtain rfl | rfl := separates_cases h
  · unfold punctuationLength
    split <;> simp_all
  · unfold punctuationLength
    split <;> simp_all

theorem punctuationLength_three (c d e : Char) (rest : List Char) :
    punctuationLength (c :: d :: e :: rest) = punctuationLength [c, d, e] := by
  by_cases hEqual : e = '='
  · subst hEqual
    unfold punctuationLength
    split
    case h_4 hOther hTail =>
      cases hTail
      exact absurd rfl (hOther rest)
    case h_5 hOther hTail =>
      cases hTail
      exact absurd rfl (hOther rest)
    all_goals simp_all
  by_cases hPoint : e = '.'
  · subst hPoint
    unfold punctuationLength
    split <;> simp_all
  · unfold punctuationLength
    split <;> simp_all

theorem punctuationLength_append {c : Char} {rest second : List Char}
    (h : BlankBetween rest second) :
    punctuationLength (c :: (rest ++ second)) = punctuationLength (c :: rest) := by
  cases rest with
  | nil =>
    obtain hLast | hHead := h
    · cases hLast
    · obtain ⟨d, tail, rfl⟩ : ∃ d tail, second = d :: tail := by
        cases second with
        | nil => cases hHead
        | cons d tail => exact ⟨d, tail, rfl⟩
      rw [List.nil_append, punctuationLength_blank c hHead]
      simp [punctuationLength]
  | cons d rest =>
    cases rest with
    | nil =>
      cases hBlank : separates d with
      | true =>
        rw [List.singleton_append, punctuationLength_blank c hBlank,
          punctuationLength_blank c hBlank]
      | false =>
        obtain hLast | hHead := h
        · simp [hBlank] at hLast
        · cases second with
          | nil => cases hHead
          | cons e tail => exact punctuationLength_two c d hHead tail
    | cons e rest =>
      rw [List.cons_append, List.cons_append, punctuationLength_three,
        punctuationLength_three c d e rest]

/-! Lexemes -/

def Token.lexeme (token : Token) : TokenKind × String := (token.kind, token.text)

/-- What the tokens of a piece of code are apart from their places. -/
def lexemes (code : List Char) : List (TokenKind × String) :=
  match code with
  | [] => []
  | c :: rest =>
    let size := (lexeme c rest).2
    let left := (c :: rest).drop size
    match (lexeme c rest).1 with
    | none => lexemes left
    | some kind => (kind, String.ofList ((c :: rest).take size)) :: lexemes left
termination_by code.length
decreasing_by all_goals
  have := lexeme_pos c rest
  simp only [List.length_drop, List.length_cons]
  omega

theorem lexemes_nil : lexemes [] = [] := by
  simp [lexemes]

theorem codeTokens_lexemes (offset : Nat) (code : List Char) (found : List Token) :
    (codeTokens offset code found).map Token.lexeme =
      (lexemes code).reverse ++ found.map Token.lexeme := by
  fun_induction codeTokens offset code found with
  | case1 offset found => simp [lexemes]
  | case2 offset found c rest size left hKind ih =>
    rw [ih, lexemes]
    simp only [hKind]
    rfl
  | case3 offset found c rest size left kind hKind text ih =>
    rw [ih, lexemes]
    simp only [hKind]
    simp [Token.lexeme, left, text, size]

theorem lexemes_dropWhile {c : Char} (h : isSpace c = true) (rest : List Char) :
    lexemes (c :: rest) = lexemes (rest.dropWhile isSpace) := by
  rw [lexemes]
  simp only [lexeme, h, if_true, Nat.add_comm 1, List.drop_succ_cons, drop_length_takeWhile]

theorem lexemes_space {c : Char} (h : isSpace c = true) (rest : List Char) :
    lexemes (c :: rest) = lexemes rest := by
  rw [lexemes_dropWhile h]
  cases rest with
  | nil => rfl
  | cons d rest =>
    cases hSpace : isSpace d with
    | true => rw [List.dropWhile_cons, if_pos hSpace, lexemes_dropWhile hSpace]
    | false => rw [List.dropWhile_cons, if_neg (by simp [hSpace])]

theorem lexemes_blank {code : List Char} (h : ∀ c ∈ code, separates c = true) :
    lexemes code = [] := by
  induction code with
  | nil => exact lexemes_nil
  | cons c rest ih =>
    rw [lexemes_space (isSpace_of_separates (h c List.mem_cons_self))]
    exact ih fun d hd => h d (List.mem_cons_of_mem c hd)

theorem lexeme_le (c : Char) (rest : List Char) : (lexeme c rest).2 ≤ (c :: rest).length := by
  have hTake : ∀ p : Char → Bool, (rest.takeWhile p).length ≤ rest.length := fun p =>
    (List.takeWhile_sublist p).length_le
  unfold lexeme
  rw [List.length_cons, Nat.add_comm rest.length 1]
  split
  · exact Nat.add_le_add_left (hTake isSpace) 1
  split
  · exact Nat.add_le_add_left (hTake isIdentifierChar) 1
  split
  · exact Nat.add_le_add_left (hTake continuesNumber) 1
  · rw [Nat.add_comm]
    exact punctuationLength_le c rest

/-- A token that is no blank ends where the next piece of code meets it at a blank. -/
theorem lexeme_append {c : Char} {rest second : List Char} (hSpace : isSpace c = false)
    (h : BlankBetween rest second) : lexeme c (rest ++ second) = lexeme c rest := by
  unfold lexeme
  rw [takeWhile_append_of_blankBetween (fun _ => isIdentifierChar_of_separates) h,
    takeWhile_append_of_blankBetween (fun _ => continuesNumber_of_separates) h,
    punctuationLength_append h, hSpace]
  rfl

theorem lexemes_append {first second : List Char} (h : Parted first second) :
    lexemes (first ++ second) = lexemes first ++ lexemes second := by
  match first with
  | [] => rw [lexemes_nil, List.nil_append, List.nil_append]
  | c :: rest =>
    cases hSpace : isSpace c with
    | true =>
      rw [List.cons_append, lexemes_space hSpace, lexemes_space hSpace]
      exact lexemes_append h.tail
    | false =>
      have hBlank : separates c = false := by
        cases hBlank : separates c with
        | false => rfl
        | true =>
          rw [isSpace_of_separates hBlank] at hSpace
          cases hSpace
      have hLe := lexeme_le c rest
      have hPos := lexeme_pos c rest
      have hRest := lexemes_append (h.drop (lexeme c rest).2)
      obtain hNil | rfl | hBetween := h
      · cases hNil
      · rw [lexemes_nil, List.append_nil, List.append_nil]
      have hSame := lexeme_append hSpace (hBetween.tail hBlank)
      have hDrop : (c :: (rest ++ second)).drop (lexeme c rest).2 =
          (c :: rest).drop (lexeme c rest).2 ++ second := List.drop_append_of_le_length hLe
      have hTake : (c :: (rest ++ second)).take (lexeme c rest).2 =
          (c :: rest).take (lexeme c rest).2 := List.take_append_of_le_length hLe
      rw [List.cons_append, lexemes, lexemes]
      simp only [hSame, hDrop, hTake, hRest]
      split
      · rfl
      · rfl
termination_by first.length

namespace Segment

/-- What the tokens of a segment are apart from their places. -/
def lexemes (segment : Segment) : List (TokenKind × String) :=
  ((segment.tokens 0 []).map Token.lexeme).reverse

theorem lexemes_code (text : List Char) (nested : Bool) :
    (Segment.mk .code text nested).lexemes = if nested then [] else Script.lexemes text := by
  cases nested with
  | true => rfl
  | false =>
    change ((codeTokens 0 text []).map Token.lexeme).reverse = Script.lexemes text
    rw [codeTokens_lexemes, List.map_nil, List.append_nil, List.reverse_reverse]

theorem lexemes_code_append {first second : List Char} (h : Parted first second)
    (nested : Bool) :
    (Segment.mk .code (first ++ second) nested).lexemes =
      (Segment.mk .code first nested).lexemes ++ (Segment.mk .code second nested).lexemes := by
  simp only [lexemes_code, Script.lexemes_append h]
  cases nested with
  | true => rfl
  | false => rfl

theorem lexemes_code_blank {blank : List Char} (h : ∀ c ∈ blank, separates c = true)
    (nested : Bool) : (Segment.mk .code blank nested).lexemes = [] := by
  rw [lexemes_code, Script.lexemes_blank h]
  cases nested with
  | true => rfl
  | false => rfl

theorem lexemes_comment {segment : Segment} (h : segment.isComment = true) :
    segment.lexemes = [] := by
  obtain ⟨kind, text, nested⟩ := segment
  cases kind with
  | lineComment => cases nested <;> rfl
  | blockComment => cases nested <;> rfl
  | _ => cases h

theorem tokens_lexemes (segment : Segment) (offset : Nat) (found : List Token) :
    (segment.tokens offset found).map Token.lexeme =
      segment.lexemes.reverse ++ found.map Token.lexeme := by
  obtain ⟨kind, text, nested⟩ := segment
  cases nested with
  | true => rfl
  | false =>
    cases kind with
    | code =>
      rw [lexemes_code]
      exact codeTokens_lexemes offset text found
    | template =>
      cases hTick : text.head? == some '`' with
      | true =>
        simp only [lexemes, tokens, hTick]
        rfl
      | false =>
        simp only [lexemes, tokens, hTick]
        rfl
    | _ => rfl

end Segment

theorem tokensFrom_lexemes (offset : Nat) (segments : List Segment) (found : List Token) :
    (tokensFrom offset segments found).map Token.lexeme =
      (found.map Token.lexeme).reverse ++ segments.flatMap Segment.lexemes := by
  induction segments generalizing offset found with
  | nil => simp [tokensFrom]
  | cons segment rest ih =>
    rw [tokensFrom, ih, Segment.tokens_lexemes, List.reverse_append, List.reverse_reverse,
      List.flatMap_cons, List.append_assoc]

/-- Apart from their places the tokens of a script are those of its segments. -/
theorem tokenize_lexemes (source : List Char) :
    (tokenize source).map Token.lexeme = (scan source).flatMap Segment.lexemes :=
  tokensFrom_lexemes 0 (scan source) []

end SubmissionGate.Script
