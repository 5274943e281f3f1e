import SubmissionGate.Proofs.Script.Partition
import SubmissionGate.Proofs.Script.TokenShape

/-!
# What tokens cover

A script is cut into pieces, some of which are tokens: the blanks of its code, and all of a comment
or of anything inside an interpolation, are pieces without a token. Tokens are the pieces of a kind
with the places where they lie, so what holds of the pieces says where tokens are and where none is.
-/

namespace SubmissionGate.Script

open SubmissionGate.Text

def Token.stop (token : Token) : Nat := token.start + token.text.length

def Token.Covers (token : Token) (position : Nat) : Prop :=
  token.start ≤ position ∧ position < token.stop

/-- A piece of a script, with the kind of its token if it is one. -/
structure Piece where
  kind : Option TokenKind
  text : List Char

/-! ## Pieces -/

def codePieces (code : List Char) : List Piece :=
  match code with
  | [] => []
  | c :: rest =>
    let size := (lexeme c rest).2
    ⟨(lexeme c rest).1, (c :: rest).take size⟩ :: codePieces ((c :: rest).drop size)
termination_by code.length
decreasing_by
  have := lexeme_pos c rest
  simp only [List.length_drop, List.length_cons]
  omega

/-- A segment that is one token as a whole. -/
inductive Segment.Whole : Segment → TokenKind → Prop where
  | string {text} : Whole ⟨.string, text, false⟩ .string
  | regex {text} : Whole ⟨.regex, text, false⟩ .other
  | template {text} : Whole ⟨.template, '`' :: text, false⟩ .string

def Segment.pieces (segment : Segment) : List Piece :=
  if segment.nested then [⟨none, segment.text⟩]
  else match segment.kind with
    | .code => codePieces segment.text
    | .string => [⟨some .string, segment.text⟩]
    | .template => [⟨if segment.text.head? == some '`' then some .string else none, segment.text⟩]
    | .regex => [⟨some .other, segment.text⟩]
    | .lineComment | .blockComment => [⟨none, segment.text⟩]

def pieces (source : List Char) : List Piece := (scan source).flatMap Segment.pieces

/-- The tokens of pieces that lie one behind another from a position on. -/
def locate (offset : Nat) : List Piece → List Token
  | [] => []
  | ⟨kind, text⟩ :: rest =>
    (kind.map fun kind => (⟨kind, String.ofList text, offset⟩ : Token)).toList ++
      locate (offset + text.length) rest

theorem codePieces_cons (c : Char) (rest : List Char) :
    codePieces (c :: rest) = ⟨(lexeme c rest).1, (c :: rest).take (lexeme c rest).2⟩ ::
      codePieces ((c :: rest).drop (lexeme c rest).2) := by
  rw [codePieces]

theorem codePieces_spell (code : List Char) : (codePieces code).flatMap (·.text) = code := by
  fun_induction codePieces code with
  | case1 => rfl
  | case2 c rest size ih => rw [List.flatMap_cons, ih, List.take_append_drop]

theorem Segment.pieces_spell (segment : Segment) :
    segment.pieces.flatMap (·.text) = segment.text := by
  unfold pieces
  split
  · exact List.flatMap_singleton _ _
  · split
    · exact codePieces_spell _
    all_goals exact List.flatMap_singleton _ _

theorem pieces_spell (segments : List Segment) :
    (segments.flatMap Segment.pieces).flatMap (·.text) = segments.flatMap (·.text) := by
  rw [List.flatMap_assoc]
  simp only [Segment.pieces_spell]

/-! ## Tokens are pieces -/

theorem locate_append (offset : Nat) (first second : List Piece) :
    locate offset (first ++ second) =
      locate offset first ++ locate (offset + (first.flatMap (·.text)).length) second := by
  induction first generalizing offset with
  | nil => rfl
  | cons piece rest ih =>
    obtain ⟨kind, text⟩ := piece
    rw [List.cons_append, locate, locate, ih, List.append_assoc, List.flatMap_cons,
      List.length_append, Nat.add_assoc]

theorem codeTokens_locate (offset : Nat) (code : List Char) (found : List Token) :
    codeTokens offset code found = (locate offset (codePieces code)).reverse ++ found := by
  fun_induction codeTokens offset code found with
  | case1 offset found => simp [codePieces, locate]
  | case2 offset found c rest size left hKind ih =>
    have hSize : ((c :: rest).take size).length = size :=
      List.length_take_of_le (lexeme_le c rest)
    rw [ih, codePieces_cons, locate, hKind, hSize]
    rfl
  | case3 offset found c rest size left kind hKind text ih =>
    have hSize : ((c :: rest).take size).length = size :=
      List.length_take_of_le (lexeme_le c rest)
    rw [ih, codePieces_cons, locate, hKind, hSize]
    simp [text]
    rfl

theorem Segment.tokens_locate (segment : Segment) (offset : Nat) (found : List Token) :
    segment.tokens offset found = (locate offset segment.pieces).reverse ++ found := by
  obtain ⟨kind, text, nested⟩ := segment
  cases nested with
  | true => rfl
  | false =>
    cases kind with
    | code => exact codeTokens_locate offset text found
    | template =>
      cases hTick : text.head? == some '`' with
      | true =>
        simp only [tokens, pieces, hTick]
        rfl
      | false =>
        simp only [tokens, pieces, hTick]
        rfl
    | _ => rfl

theorem tokensFrom_locate (offset : Nat) (segments : List Segment) (found : List Token) :
    tokensFrom offset segments found =
      found.reverse ++ locate offset (segments.flatMap Segment.pieces) := by
  induction segments generalizing offset found with
  | nil => simp [tokensFrom, locate]
  | cons segment rest ih =>
    rw [tokensFrom, ih, Segment.tokens_locate, List.flatMap_cons, locate_append,
      Segment.pieces_spell, List.reverse_append, List.reverse_reverse, List.append_assoc]

theorem tokenize_locate (source : List Char) : tokenize source = locate 0 (pieces source) :=
  tokensFrom_locate 0 (scan source) []

/-- A token is a piece of a kind at the place behind the pieces in front of it. -/
theorem mem_locate_iff {offset : Nat} {list : List Piece} {token : Token} :
    token ∈ locate offset list ↔ ∃ before kind text after,
      list = before ++ ⟨some kind, text⟩ :: after ∧
      token = ⟨kind, String.ofList text, offset + (before.flatMap (·.text)).length⟩ := by
  constructor
  · intro h
    induction list generalizing offset with
    | nil => cases h
    | cons piece rest ih =>
      obtain ⟨kind, text⟩ := piece
      rw [locate] at h
      obtain hFirst | hRest := List.mem_append.mp h
      · obtain ⟨kind, rfl, rfl⟩ := Option.map_eq_some_iff.mp (Option.mem_toList.mp hFirst)
        exact ⟨[], kind, text, rest, rfl, rfl⟩
      · obtain ⟨before, found, inner, after, rfl, rfl⟩ := ih hRest
        refine ⟨⟨kind, text⟩ :: before, found, inner, after, rfl, ?_⟩
        rw [List.flatMap_cons, List.length_append, Nat.add_assoc]
  · rintro ⟨before, kind, text, after, rfl, rfl⟩
    rw [locate_append]
    apply List.mem_append_right
    exact List.mem_append_left _ (List.mem_singleton.mpr rfl)

theorem locate_start_le {offset : Nat} {list : List Piece} {token : Token}
    (h : token ∈ locate offset list) : offset ≤ token.start := by
  obtain ⟨before, kind, text, after, -, rfl⟩ := mem_locate_iff.mp h
  exact Nat.le_add_right _ _

theorem locate_apart (offset : Nat) (list : List Piece) :
    (locate offset list).Pairwise fun token later => token.stop ≤ later.start := by
  induction list generalizing offset with
  | nil => exact List.Pairwise.nil
  | cons piece rest ih =>
    obtain ⟨kind, text⟩ := piece
    rw [locate, List.pairwise_append]
    refine ⟨?_, ih _, ?_⟩
    · cases kind with
      | none => exact List.Pairwise.nil
      | some kind => exact List.pairwise_singleton _ _
    · intro token hToken later hLater
      obtain ⟨kind, -, rfl⟩ := Option.map_eq_some_iff.mp (Option.mem_toList.mp hToken)
      have hStart := locate_start_le hLater
      simpa [Token.stop] using hStart

/-! ## The pieces of code -/

theorem lexeme_name {c : Char} {rest : List Char} (h : (lexeme c rest).1 = some .name) :
    startsName c = true := by
  unfold lexeme at h
  split at h
  · cases h
  · split at h
    · assumption
    · split at h <;> cases h

theorem lexeme_punctuation {c : Char} {rest : List Char}
    (h : (lexeme c rest).1 = some .punctuation) :
    isSpace c = false ∧ (lexeme c rest).2 = punctuationLength (c :: rest) := by
  unfold lexeme at h ⊢
  split at h
  · cases h
  · next hSpace =>
    split at h
    · cases h
    · next hStart =>
      split at h
      · cases h
      · next hDigit => simp [hSpace, hStart, hDigit]

theorem isSpace_of_mem_punctuation {c : Char} {rest : List Char} (hSpace : isSpace c = false)
    {d : Char} (hd : d ∈ (c :: rest).take (punctuationLength (c :: rest))) :
    isSpace d = false := by
  have hSigns : d = '=' ∨ d = '>' ∨ d = '!' ∨ d = '<' ∨ d = '.' → isSpace d = false := by
    rintro (rfl | rfl | rfl | rfl | rfl)
    all_goals rfl
  generalize hCode : c :: rest = code at hd
  unfold punctuationLength at hd
  split at hd
  case h_9 =>
    subst hCode
    obtain rfl := List.mem_singleton.mp hd
    exact hSpace
  all_goals
    apply hSigns
    simp only [List.take_succ_cons, List.take_zero, List.mem_cons, List.not_mem_nil,
      or_false] at hd
    tauto

theorem isSpace_of_continuesNumber {c : Char} (h : continuesNumber c = true) :
    isSpace c = false := by
  refine Bool.eq_false_iff.mpr ?_
  intro hSpace
  have hPoint : c ≠ '.' := by
    rintro rfl
    cases hSpace
  simp [continuesNumber, isWordChar_of_isSpace hSpace, hPoint] at h

/-- A piece of code is no token exactly if it is blank, and then all of it is. -/
theorem isSpace_of_mem_lexeme {c : Char} {rest : List Char} {d : Char}
    (hd : d ∈ (c :: rest).take (lexeme c rest).2) :
    isSpace d = (lexeme c rest).1.isNone := by
  have hLexed := lexeme_lexed c rest
  cases hKind : (lexeme c rest).1 with
  | none =>
    rw [hKind] at hLexed
    generalize (c :: rest).take (lexeme c rest).2 = text at hLexed hd
    cases hLexed with
    | blank hText => exact hText d hd
  | some kind =>
    by_cases hSign : kind = .punctuation
    · subst hSign
      obtain ⟨hSpace, hSize⟩ := lexeme_punctuation hKind
      rw [hSize] at hd
      exact isSpace_of_mem_punctuation hSpace hd
    · rw [hKind] at hLexed
      generalize (c :: rest).take (lexeme c rest).2 = text at hLexed hd
      cases hLexed with
      | name hText _ => exact isSpace_of_isIdentifierChar (hText d hd)
      | number hDigit hText _ =>
        obtain rfl | hd := List.mem_cons.mp hd
        · apply isSpace_of_isIdentifierChar
          simp [isIdentifierChar, isWordChar_of_isDecimalDigit hDigit]
        · exact isSpace_of_continuesNumber (hText d hd)
      | punctuation _ _ _ => exact absurd rfl hSign

theorem codePieces_split (code : List Char) :
    ∀ before piece after, codePieces code = before ++ piece :: after →
      ∃ c rest, piece = ⟨(lexeme c rest).1, (c :: rest).take (lexeme c rest).2⟩ ∧
        after.flatMap (·.text) = (c :: rest).drop (lexeme c rest).2 := by
  fun_induction codePieces code with
  | case1 =>
    intro before piece after h
    exact absurd h.symm (List.append_ne_nil_of_right_ne_nil _ (List.cons_ne_nil _ _))
  | case2 c rest size ih =>
    intro before piece after h
    cases before with
    | nil =>
      obtain ⟨rfl, rfl⟩ := List.cons.inj h
      exact ⟨c, rest, rfl, codePieces_spell _⟩
    | cons first before => exact ih before piece after (List.cons.inj h).2

theorem take_lexeme_ne_nil (c : Char) (rest : List Char) :
    (c :: rest).take (lexeme c rest).2 ≠ [] := by
  obtain ⟨less, hLess⟩ := Nat.exists_eq_succ_of_ne_zero (lexeme_pos c rest).ne'
  rw [hLess, List.take_succ_cons]
  exact List.cons_ne_nil _ _

/-! ## Where a segment lies -/

def StartsAt (source : List Char) (start : Nat) (segment : Segment) : Prop :=
  ∃ before after, scan source = before ++ segment :: after ∧
    (before.flatMap (·.text)).length = start

/-- The positions of the characters that belong into a token: those of code that are not blank, and
all of a segment that is one token. -/
inductive Significant (source : List Char) : Nat → Prop where
  | code {start text offset c} (hSegment : StartsAt source start ⟨.code, text, false⟩)
      (hChar : text[offset]? = some c) (hSpace : isSpace c = false) :
      Significant source (start + offset)
  | whole {start segment kind offset} (hSegment : StartsAt source start segment)
      (hWhole : segment.Whole kind) (hOffset : offset < segment.text.length) :
      Significant source (start + offset)

section Splits

variable {α β : Type} {f : α → List β}

theorem flatMap_split {list : List α} {before after : List β} {x : β}
    (h : list.flatMap f = before ++ x :: after) :
    ∃ outer a later inner behind, list = outer ++ a :: later ∧ f a = inner ++ x :: behind ∧
      before = outer.flatMap f ++ inner ∧ after = behind ++ later.flatMap f := by
  induction list generalizing before with
  | nil => exact absurd h.symm (List.append_ne_nil_of_right_ne_nil _ (List.cons_ne_nil _ _))
  | cons first rest ih =>
    have hBehind : ∀ inner : List β, rest.flatMap f = inner ++ x :: after →
        before = f first ++ inner →
        ∃ outer a later inner behind, first :: rest = outer ++ a :: later ∧
          f a = inner ++ x :: behind ∧ before = outer.flatMap f ++ inner ∧
          after = behind ++ later.flatMap f := by
      rintro inner hRest rfl
      obtain ⟨outer, a, later, inside, behind, rfl, hInside, rfl, rfl⟩ := ih hRest
      refine ⟨first :: outer, a, later, inside, behind, rfl, hInside, ?_, rfl⟩
      rw [List.flatMap_cons, List.append_assoc]
    rw [List.flatMap_cons] at h
    obtain ⟨inner, hBefore, hRest⟩ | ⟨behind, hFirst, hAfter⟩ := List.append_eq_append_iff.mp h
    · exact hBehind inner hRest hBefore
    · cases behind with
      | nil =>
        rw [List.append_nil] at hFirst
        exact hBehind [] hAfter.symm (by rw [hFirst, List.append_nil])
      | cons head behind =>
        obtain ⟨rfl, rfl⟩ := List.cons.inj hAfter
        exact ⟨[], first, rest, before, behind, rfl, hFirst, rfl, rfl⟩

theorem exists_split_of_lt {list : List α} {index : Nat} (h : index < (list.flatMap f).length) :
    ∃ before a after, list = before ++ a :: after ∧ (before.flatMap f).length ≤ index ∧
      index < (before.flatMap f).length + (f a).length := by
  induction list generalizing index with
  | nil => cases h
  | cons first rest ih =>
    by_cases hFirst : index < (f first).length
    · exact ⟨[], first, rest, rfl, Nat.zero_le _, by simpa using hFirst⟩
    · rw [List.flatMap_cons, List.length_append] at h
      have hRest : index - (f first).length < (rest.flatMap f).length := by omega
      obtain ⟨before, a, after, rfl, hLow, hHigh⟩ := ih hRest
      refine ⟨first :: before, a, after, rfl, ?_, ?_⟩
      · rw [List.flatMap_cons, List.length_append]
        omega
      · rw [List.flatMap_cons, List.length_append]
        omega

theorem split_cases {before after earlier later : List α} {a b : α}
    (h : before ++ a :: after = earlier ++ b :: later) :
    a = b ∨ (∃ between, earlier = before ++ a :: between) ∨
      ∃ between, before = earlier ++ b :: between := by
  obtain ⟨between, hEarlier, hRest⟩ | ⟨between, hBefore, hRest⟩ :=
    List.append_eq_append_iff.mp h
  · cases between with
    | nil => exact .inl (List.cons.inj hRest).1
    | cons first between =>
      obtain ⟨rfl, -⟩ := List.cons.inj hRest
      exact .inr (.inl ⟨between, hEarlier⟩)
  · cases between with
    | nil => exact .inl (List.cons.inj hRest).1.symm
    | cons first between =>
      obtain ⟨rfl, -⟩ := List.cons.inj hRest
      exact .inr (.inr ⟨between, hBefore⟩)

end Splits

theorem not_isIdentifierChar_of_isBreak {c : Char} (h : isBreak c = true) :
    isIdentifierChar c = false := by
  simp only [isBreak, Bool.or_eq_true, beq_iff_eq, or_assoc] at h
  obtain rfl | rfl | rfl | rfl | rfl | rfl := h
  all_goals rfl

theorem ScanState.construct_code_ends (state : ScanState) {c : Char} {rest : List Char}
    (h : (state.construct c rest).segment.kind = .code) :
    (∀ d ∈ (state.construct c rest).segment.text, isBreak d = true) ∨
      ∀ d ∈ (state.construct c rest).rest.head?, isBreak d = true := by
  cases hBreak : isBreak c with
  | false =>
    right
    intro d hd
    rw [state.construct_run hBreak] at hd
    have hStop := head?_dropWhile (p := fun e => !isBreak e) hd
    simpa using hStop
  | true =>
    left
    have hShaped := state.construct_shaped c rest
    obtain ⟨text, hText⟩ := state.construct_text c rest
    rw [h, hText] at hShaped
    rw [hText]
    cases hShaped with
    | run hRun =>
      rw [hRun c List.mem_cons_self] at hBreak
      cases hBreak
    | single _ =>
      intro d hd
      obtain rfl := List.mem_singleton.mp hd
      exact hBreak

theorem segmentsFrom_code_ends (state : ScanState) (source : List Char) :
    ∀ before segment after, segmentsFrom state source = before ++ segment :: after →
      segment.kind = .code → (∀ c ∈ segment.text, isBreak c = true) ∨
        ∀ c ∈ (after.flatMap (·.text)).head?, isBreak c = true := by
  fun_induction scanFrom state source [] with
  | case1 state found =>
    intro before segment after h
    rw [segmentsFrom_nil] at h
    cases before <;> cases h
  | case2 state found c rest step _ ih =>
    intro before segment after h hCode
    rw [segmentsFrom_cons] at h
    cases before with
    | nil =>
      obtain ⟨rfl, rfl⟩ := List.cons.inj h
      rw [segmentsFrom_spell]
      exact state.construct_code_ends hCode
    | cons first before => exact ih before segment after (List.cons.inj h).2 hCode

/-! ## The place of a token -/

theorem Segment.pieces_token {segment : Segment} {inner behind : List Piece} {kind : TokenKind}
    {text : List Char} (h : segment.pieces = inner ++ ⟨some kind, text⟩ :: behind) :
    (segment.Whole kind ∧ inner = [] ∧ text = segment.text ∧ behind = []) ∨
      (segment.kind = .code ∧ segment.nested = false ∧
        codePieces segment.text = inner ++ ⟨some kind, text⟩ :: behind) := by
  have hSingle : ∀ {other : Option TokenKind} {whole : List Char},
      [(⟨other, whole⟩ : Piece)] = inner ++ ⟨some kind, text⟩ :: behind →
      other = some kind ∧ inner = [] ∧ text = whole ∧ behind = [] := by
    intro other whole hList
    cases inner with
    | nil =>
      obtain ⟨hPiece, rfl⟩ := List.cons.inj hList
      cases hPiece
      exact ⟨rfl, rfl, rfl, rfl⟩
    | cons first inner =>
      exact absurd (List.cons.inj hList).2.symm
        (List.append_ne_nil_of_right_ne_nil _ (List.cons_ne_nil _ _))
  obtain ⟨segmentKind, whole, nested⟩ := segment
  cases nested with
  | true => cases (hSingle h).1
  | false =>
    cases segmentKind with
    | code => exact .inr ⟨rfl, rfl, h⟩
    | string =>
      obtain ⟨hKind, hRest⟩ := hSingle h
      cases hKind
      exact .inl ⟨.string, hRest⟩
    | regex =>
      obtain ⟨hKind, hRest⟩ := hSingle h
      cases hKind
      exact .inl ⟨.regex, hRest⟩
    | template =>
      obtain ⟨hKind, hRest⟩ := hSingle h
      split at hKind
      · next hTick =>
        cases hKind
        cases whole with
        | nil => cases hTick
        | cons c rest =>
          obtain rfl : c = '`' := by simpa using hTick
          exact .inl ⟨.template, hRest⟩
      · cases hKind
    | lineComment => cases (hSingle h).1
    | blockComment => cases (hSingle h).1

theorem Segment.Whole.pieces_eq {segment : Segment} {kind : TokenKind} (h : segment.Whole kind) :
    segment.pieces = [⟨some kind, segment.text⟩] := by
  cases h with
  | string => rfl
  | regex => rfl
  | template => rfl

theorem Segment.Whole.top_level {segment : Segment} {kind : TokenKind} (h : segment.Whole kind) :
    segment.nested = false ∧ segment.isComment = false := by
  cases h with
  | string => exact ⟨rfl, rfl⟩
  | regex => exact ⟨rfl, rfl⟩
  | template => exact ⟨rfl, rfl⟩

/-- Where a token lies: in a segment of its script, behind some pieces of it. -/
structure Placed (source : List Char) (token : Token) (segment : Segment)
    (inner behind : List Piece) (later : List Segment) : Prop where
  inScript : ∃ outer, scan source = outer ++ segment :: later ∧
    token.start = (outer.flatMap (·.text)).length + (inner.flatMap (·.text)).length
  inSegment : segment.pieces = inner ++ ⟨some token.kind, token.text.toList⟩ :: behind

theorem mem_tokenize_iff {source : List Char} {token : Token} :
    token ∈ tokenize source ↔ ∃ segment inner behind later,
      Placed source token segment inner behind later := by
  rw [tokenize_locate, mem_locate_iff]
  constructor
  · rintro ⟨before, kind, text, after, hPieces, rfl⟩
    obtain ⟨outer, segment, later, inner, behind, hScan, hInner, rfl, -⟩ := flatMap_split hPieces
    refine ⟨segment, inner, behind, later, ⟨outer, hScan, ?_⟩, ?_⟩
    · rw [List.flatMap_append, List.length_append, Nat.zero_add, pieces_spell]
    · rw [String.toList_ofList]
      exact hInner
  · rintro ⟨segment, inner, behind, later, ⟨outer, hScan, hStart⟩, hInner⟩
    refine ⟨outer.flatMap Segment.pieces ++ inner, token.kind, token.text.toList,
      behind ++ later.flatMap Segment.pieces, ?_, ?_⟩
    · rw [pieces, hScan, List.flatMap_append, List.flatMap_cons, hInner]
      simp
    · rw [List.flatMap_append, List.length_append, pieces_spell, Nat.zero_add, ← hStart,
        String.ofList_toList]

namespace Placed

variable {source : List Char} {token : Token} {segment : Segment} {inner behind : List Piece}
  {later : List Segment}

theorem segment_text (h : Placed source token segment inner behind later) :
    segment.text = inner.flatMap (·.text) ++ (token.text.toList ++ behind.flatMap (·.text)) := by
  rw [← segment.pieces_spell, h.inSegment, List.flatMap_append, List.flatMap_cons]

theorem within (h : Placed source token segment inner behind later) :
    StartsAt source (token.start - (inner.flatMap (·.text)).length) segment ∧
      (inner.flatMap (·.text)).length ≤ token.start ∧
      token.stop ≤ token.start - (inner.flatMap (·.text)).length + segment.text.length := by
  obtain ⟨outer, hScan, hStart⟩ := h.inScript
  refine ⟨⟨outer, later, hScan, ?_⟩, ?_, ?_⟩
  · omega
  · omega
  · rw [Token.stop, h.segment_text]
    simp only [List.length_append, String.length_toList]
    omega

theorem spell (h : Placed source token segment inner behind later) :
    ∃ before, before.length = token.start ∧ source = before ++ (token.text.toList ++
      (behind.flatMap (·.text) ++ later.flatMap (·.text))) := by
  obtain ⟨outer, hScan, hStart⟩ := h.inScript
  refine ⟨outer.flatMap (·.text) ++ inner.flatMap (·.text), ?_, ?_⟩
  · rw [List.length_append, hStart]
  · rw [← scan_spell source, hScan, List.flatMap_append, List.flatMap_cons, h.segment_text]
    simp

theorem text_ne_nil (h : Placed source token segment inner behind later) :
    token.text.toList ≠ [] := by
  obtain ⟨hWhole, -, hText, -⟩ | ⟨-, -, hCode⟩ := Segment.pieces_token h.inSegment
  · rw [hText]
    obtain ⟨outer, hScan, -⟩ := h.inScript
    exact (segmentsFrom_shaped .start source outer segment later hScan).1
  · obtain ⟨c, rest, hPiece, -⟩ := codePieces_split _ _ _ _ hCode
    rw [(Piece.mk.inj hPiece).2]
    exact take_lexeme_ne_nil c rest

theorem top_level (h : Placed source token segment inner behind later) :
    segment.nested = false ∧ segment.isComment = false := by
  obtain ⟨hWhole, -⟩ | ⟨hKind, hTop, -⟩ := Segment.pieces_token h.inSegment
  · exact hWhole.top_level
  · refine ⟨hTop, ?_⟩
    rw [Segment.isComment, hKind]
    rfl

theorem significant (h : Placed source token segment inner behind later) {position : Nat}
    (hPosition : token.Covers position) : Significant source position := by
  obtain ⟨hStart, hInner, hStop⟩ := h.within
  obtain ⟨hLow, hHigh⟩ := hPosition
  obtain ⟨offset, hOffset⟩ := Nat.exists_eq_add_of_le (Nat.le_trans (Nat.sub_le _ _) hLow)
  rw [hOffset] at hLow hHigh ⊢
  obtain ⟨hWhole, -⟩ | ⟨hKind, hTop, hCode⟩ := Segment.pieces_token h.inSegment
  · exact .whole hStart hWhole (by omega)
  · obtain ⟨kind, text, nested⟩ := segment
    subst hKind hTop
    have hOffset :
        text[offset]? = token.text.toList[offset - (inner.flatMap (·.text)).length]? := by
      have hText := h.segment_text
      simp only at hText
      rw [hText, List.getElem?_append_right (by omega), List.getElem?_append_left]
      rw [String.length_toList]
      simp only [Token.stop] at hHigh
      omega
    have hLength : offset - (inner.flatMap (·.text)).length < token.text.toList.length := by
      rw [String.length_toList]
      simp only [Token.stop] at hHigh
      omega
    rw [List.getElem?_eq_getElem hLength] at hOffset
    refine .code hStart hOffset ?_
    obtain ⟨c, rest, hPiece, -⟩ := codePieces_split _ _ _ _ hCode
    obtain ⟨hPieceKind, hPieceText⟩ := Piece.mk.inj hPiece
    have hMem := List.mem_of_getElem? (List.getElem?_eq_getElem hLength)
    generalize token.text.toList[offset - (inner.flatMap (·.text)).length] = d at hMem ⊢
    rw [hPieceText] at hMem
    rw [isSpace_of_mem_lexeme hMem, ← hPieceKind]
    rfl

/-- What is left behind a name, in its segment or behind that, does not go on with it. -/
theorem name_ends (h : Placed source token segment inner behind later)
    (hName : token.kind = .name) :
    (∀ c ∈ token.text.toList.head?, startsName c = true) ∧
      ∀ c ∈ (behind.flatMap (·.text) ++ later.flatMap (·.text)).head?,
        isIdentifierChar c = false := by
  obtain ⟨hWhole, -⟩ | ⟨hKind, -, hCode⟩ := Segment.pieces_token h.inSegment
  · rw [hName] at hWhole
    cases hWhole
  · obtain ⟨c, rest, hPiece, hRest⟩ := codePieces_split _ _ _ _ hCode
    obtain ⟨hPieceKind, hPieceText⟩ := Piece.mk.inj hPiece
    rw [hName] at hPieceKind
    have hLexed := lexeme_lexed c rest
    rw [← hPieceKind, ← hPieceText, ← hRest] at hLexed
    constructor
    · obtain ⟨less, hLess⟩ := Nat.exists_eq_succ_of_ne_zero (lexeme_pos c rest).ne'
      rw [hPieceText, hLess, List.take_succ_cons]
      intro d hd
      obtain rfl := Option.some.inj hd
      exact lexeme_name hPieceKind.symm
    · intro d hd
      generalize hName' : token.text.toList = name at hLexed
      cases hLexed with
      | @name first more _ hText hEnd =>
        cases hBehind : behind.flatMap (·.text) with
        | cons e tail =>
          rw [hBehind] at hd hEnd
          exact hEnd d hd
        | nil =>
          rw [hBehind, List.nil_append] at hd
          obtain ⟨outer, hScan, -⟩ := h.inScript
          obtain hMarks | hMark :=
            segmentsFrom_code_ends .start source outer segment later hScan hKind
          · -- A mark that stands alone is no name.
            have hFirst : first ∈ segment.text := by
              rw [h.segment_text, hName']
              simp
            have hIdentifier := hText first List.mem_cons_self
            rw [not_isIdentifierChar_of_isBreak (hMarks first hFirst)] at hIdentifier
            cases hIdentifier
          · exact not_isIdentifierChar_of_isBreak (hMark d hd)

end Placed

/-! ## The cover -/

/-- Tokens that cover a script: they lie apart in its order, each spells the script where it lies,
and together they hold just the significant characters. -/
structure TokenCover (source : List Char) (tokens : List Token) : Prop where
  rising : tokens.Pairwise fun token later => token.start < later.start
  apart : tokens.Pairwise fun token later => token.stop ≤ later.start
  text : ∀ token ∈ tokens, token.text.toList = source.extract token.start token.stop
  covered : ∀ position, (∃ token ∈ tokens, token.Covers position) ↔ Significant source position
  whole : ∀ start segment kind, StartsAt source start segment → segment.Whole kind →
    ⟨kind, String.ofList segment.text, start⟩ ∈ tokens
  outside : ∀ start segment, StartsAt source start segment →
    segment.isComment = true ∨ segment.nested = true →
    ∀ token ∈ tokens, token.stop ≤ start ∨ start + segment.text.length ≤ token.start
  names : ∀ token ∈ tokens, token.kind = .name →
    (∀ c ∈ source[token.start]?, isDecimalDigit c = false) ∧
      ∀ c ∈ source[token.stop]?, isIdentifierChar c = false

theorem token_start_lt_stop {source : List Char} {token : Token} (h : token ∈ tokenize source) :
    token.start < token.stop := by
  obtain ⟨segment, inner, behind, later, hPlaced⟩ := mem_tokenize_iff.mp h
  have hLength := List.length_pos_iff.mpr hPlaced.text_ne_nil
  rw [String.length_toList] at hLength
  exact Nat.lt_add_of_pos_right hLength

theorem tokenize_text {source : List Char} {token : Token} (h : token ∈ tokenize source) :
    token.text.toList = source.extract token.start token.stop := by
  obtain ⟨segment, inner, behind, later, hPlaced⟩ := mem_tokenize_iff.mp h
  obtain ⟨before, hStart, hSource⟩ := hPlaced.spell
  rw [List.extract_eq_take_drop, hSource, ← hStart, List.drop_left, Token.stop, hStart,
    Nat.add_sub_cancel_left, ← String.length_toList, List.take_left]

theorem mem_tokenize_of_whole {source : List Char} {start : Nat} {segment : Segment}
    {kind : TokenKind} (hStart : StartsAt source start segment) (hWhole : segment.Whole kind) :
    ⟨kind, String.ofList segment.text, start⟩ ∈ tokenize source := by
  obtain ⟨outer, later, hScan, rfl⟩ := hStart
  refine mem_tokenize_iff.mpr ⟨segment, [], [], later, ⟨outer, hScan, rfl⟩, ?_⟩
  rw [hWhole.pieces_eq, String.toList_ofList]
  rfl

theorem exists_token_of_code {source : List Char} {start offset : Nat} {text : List Char} {c : Char}
    (hStart : StartsAt source start ⟨.code, text, false⟩) (hChar : text[offset]? = some c)
    (hSpace : isSpace c = false) : ∃ token ∈ tokenize source, token.Covers (start + offset) := by
  obtain ⟨outer, later, hScan, rfl⟩ := hStart
  obtain ⟨hOffset, -⟩ := List.getElem?_eq_some_iff.mp hChar
  have hLength : offset < ((codePieces text).flatMap (·.text)).length := by
    rwa [codePieces_spell]
  obtain ⟨inner, piece, behind, hPieces, hLow, hHigh⟩ := exists_split_of_lt hLength
  obtain ⟨d, rest, rfl, -⟩ := codePieces_split _ _ _ _ hPieces
  have hMem : c ∈ (d :: rest).take (lexeme d rest).2 := by
    have hSpell := codePieces_spell text
    rw [hPieces, List.flatMap_append, List.flatMap_cons] at hSpell
    apply List.mem_of_getElem? (i := offset - (inner.flatMap (·.text)).length)
    rw [← hChar, ← hSpell, List.getElem?_append_right hLow, List.getElem?_append_left]
    simp only at hHigh ⊢
    omega
  cases hKind : (lexeme d rest).1 with
  | none =>
    rw [isSpace_of_mem_lexeme hMem, hKind] at hSpace
    cases hSpace
  | some kind =>
    rw [hKind] at hPieces
    refine ⟨⟨kind, String.ofList ((d :: rest).take (lexeme d rest).2),
      (outer.flatMap (·.text)).length + (inner.flatMap (·.text)).length⟩, ?_, ?_⟩
    · refine mem_tokenize_iff.mpr ⟨_, inner, behind, later, ⟨outer, hScan, rfl⟩, ?_⟩
      rw [String.toList_ofList]
      exact hPieces
    · simp only [Token.Covers, Token.stop, String.length_ofList] at hHigh ⊢
      omega

theorem covered_iff (source : List Char) (position : Nat) :
    (∃ token ∈ tokenize source, token.Covers position) ↔ Significant source position := by
  constructor
  · rintro ⟨token, hToken, hCovers⟩
    obtain ⟨segment, inner, behind, later, hPlaced⟩ := mem_tokenize_iff.mp hToken
    exact hPlaced.significant hCovers
  · intro h
    cases h with
    | code hSegment hChar hSpace => exact exists_token_of_code hSegment hChar hSpace
    | whole hSegment hWhole hOffset =>
      refine ⟨_, mem_tokenize_of_whole hSegment hWhole, Nat.le_add_right _ _, ?_⟩
      simpa [Token.stop] using hOffset

theorem token_outside {source : List Char} {start : Nat} {segment : Segment}
    (hStart : StartsAt source start segment)
    (hSegment : segment.isComment = true ∨ segment.nested = true) {token : Token}
    (hToken : token ∈ tokenize source) :
    token.stop ≤ start ∨ start + segment.text.length ≤ token.start := by
  obtain ⟨own, inner, behind, later, hPlaced⟩ := mem_tokenize_iff.mp hToken
  obtain ⟨⟨outer, rest, hScan, hOwn⟩, hInner, hStop⟩ := hPlaced.within
  obtain ⟨before, after, hOther, rfl⟩ := hStart
  obtain rfl | ⟨between, rfl⟩ | ⟨between, rfl⟩ := split_cases (hScan.symm.trans hOther)
  · obtain ⟨hTop, hComment⟩ := hPlaced.top_level
    rw [hTop, hComment] at hSegment
    simp at hSegment
  · left
    rw [List.flatMap_append, List.flatMap_cons, List.length_append, List.length_append]
    omega
  · right
    rw [List.flatMap_append, List.flatMap_cons, List.length_append, List.length_append] at hOwn
    omega

theorem tokenize_names {source : List Char} {token : Token} (hToken : token ∈ tokenize source)
    (hName : token.kind = .name) :
    (∀ c ∈ source[token.start]?, isDecimalDigit c = false) ∧
      ∀ c ∈ source[token.stop]?, isIdentifierChar c = false := by
  obtain ⟨segment, inner, behind, later, hPlaced⟩ := mem_tokenize_iff.mp hToken
  obtain ⟨before, hStart, hSource⟩ := hPlaced.spell
  obtain ⟨hFirst, hNext⟩ := hPlaced.name_ends hName
  constructor
  · intro c hc
    have hHead : token.text.toList.head? = some c := by
      rw [hSource, ← hStart, List.getElem?_append_right (Nat.le_refl _), Nat.sub_self,
        ← List.head?_eq_getElem?, List.head?_append_of_ne_nil _ hPlaced.text_ne_nil] at hc
      exact hc
    have hStarts := hFirst c hHead
    simp only [startsName, Bool.and_eq_true, Bool.not_eq_true'] at hStarts
    exact hStarts.2
  · intro c hc
    apply hNext
    rw [hSource, Token.stop, ← hStart, ← String.length_toList,
      List.getElem?_append_right (Nat.le_add_right _ _), Nat.add_sub_cancel_left,
      List.getElem?_append_right (Nat.le_refl _), Nat.sub_self, ← List.head?_eq_getElem?] at hc
    exact hc

/-- The tokens of a script cover it: what is left out are the blanks of its code, its comments and
all that lies inside an interpolation. -/
theorem tokenize_cover (source : List Char) : TokenCover source (tokenize source) where
  rising := by
    have hApart := locate_apart 0 (pieces source)
    rw [← tokenize_locate] at hApart
    refine hApart.imp_of_mem ?_
    intro token later hToken _ hStop
    exact Nat.lt_of_lt_of_le (token_start_lt_stop hToken) hStop
  apart := by
    rw [tokenize_locate]
    exact locate_apart 0 (pieces source)
  text := fun _ hToken => tokenize_text hToken
  covered := covered_iff source
  whole := fun _ _ _ hStart hWhole => mem_tokenize_of_whole hStart hWhole
  outside := fun _ _ hStart hSegment _ hToken => token_outside hStart hSegment hToken
  names := fun _ hToken hName => tokenize_names hToken hName

end SubmissionGate.Script
