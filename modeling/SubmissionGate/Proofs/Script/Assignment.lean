import SubmissionGate.Proofs.Script.Lexeme
import SubmissionGate.Proofs.Script.Nesting
import SubmissionGate.Script.GameObject

/-!
# Assignments to the game object

Where a script assigns to the property that publishes a game, said by the kinds and texts of the
tokens alone, and which of these assignments can hold an object. The search for the game object
stops at the first one that can; what lies behind its value is never looked at for that.
-/

namespace SubmissionGate.Script

def AssignmentForm.target (globalName objectName : String) :
    AssignmentForm → List (TokenKind × String)
  | .dot =>
    [(.name, globalName), (.punctuation, "."), (.name, objectName), (.punctuation, "=")]
  | .bracketSingle =>
    [(.name, globalName), (.punctuation, "["), (.string, "'" ++ objectName ++ "'"),
      (.punctuation, "]"), (.punctuation, "=")]
  | .bracketDouble =>
    [(.name, globalName), (.punctuation, "["), (.string, "\"" ++ objectName ++ "\""),
      (.punctuation, "]"), (.punctuation, "=")]

/-- The kinds and texts of the tokens from an index on start with those given. -/
def Spells (tokens : List Token) : Nat → List (TokenKind × String) → Prop
  | _, [] => True
  | index, lexeme :: rest =>
    (tokens[index]?).map Token.lexeme = some lexeme ∧ Spells tokens (index + 1) rest

def FollowsPoint (tokens : List Token) (index : Nat) : Prop :=
  0 < index ∧ (tokens[index - 1]?).map Token.lexeme = some (.punctuation, ".")

/-- A value that starts like this may be an object. -/
def Token.CanHoldObject (token : Token) : Prop :=
  token.isPunctuation "\x7b" = true ∨ token.isPunctuation "(" = true ∨
    token.kind = .name ∧ token.text ∉ valueWords

structure AssignsAt (globalName objectName : String) (tokens : List Token) (index : Nat)
    (form : AssignmentForm) : Prop where
  free : ¬ FollowsPoint tokens index
  target : Spells tokens index (form.target globalName objectName)

/-- An assignment of a value that may be an object stands at an index. -/
def Qualifies (globalName objectName : String) (tokens : List Token) (index : Nat) : Prop :=
  ∃ form, AssignsAt globalName objectName tokens index form ∧
    ∃ value, tokens[index + (form.target globalName objectName).length]? = some value ∧
      value.CanHoldObject

theorem Token.isName_iff {token : Token} {text : String} :
    token.isName text = true ↔ token.lexeme = (.name, text) := by
  simp [Token.isName, Token.lexeme]

theorem Token.isPunctuation_iff {token : Token} {text : String} :
    token.isPunctuation text = true ↔ token.lexeme = (.punctuation, text) := by
  simp [Token.isPunctuation, Token.lexeme]

theorem spells_append (before tokens after : List Token) :
    Spells (before ++ (tokens ++ after)) before.length (tokens.map Token.lexeme) := by
  induction tokens generalizing before with
  | nil => trivial
  | cons token rest ih =>
    have hRest := ih (before ++ [token])
    rw [List.append_assoc, List.singleton_append, List.length_append, List.length_singleton]
      at hRest
    exact ⟨by simp, hRest⟩

theorem quoted_ne (name : String) : "\"" ++ name ++ "\"" ≠ "'" ++ name ++ "'" := by
  intro h
  have hChars := congrArg String.toList h
  simp at hChars

namespace Outline

theorem isName_ofTokens (tokens : List Token) (index : Nat) (text : String) :
    (ofTokens tokens).isName index text = true ↔
      (tokens[index]?).map Token.lexeme = some (.name, text) := by
  unfold isName
  rw [tokens_ofTokens]
  cases tokens[index]? with
  | none => simp
  | some token => simp [Token.isName_iff]

theorem isPunctuation_ofTokens (tokens : List Token) (index : Nat) (text : String) :
    (ofTokens tokens).isPunctuation index text = true ↔
      (tokens[index]?).map Token.lexeme = some (.punctuation, text) := by
  unfold isPunctuation
  rw [tokens_ofTokens]
  cases tokens[index]? with
  | none => simp
  | some token => simp [Token.isPunctuation_iff]

theorem assignment?_bracket {globalName objectName text : String} {tokens : List Token}
    {index : Nat} (hFree : ¬ FollowsPoint tokens index)
    (h : Spells tokens index [(.name, globalName), (.punctuation, "["), (.string, text),
      (.punctuation, "]"), (.punctuation, "=")]) :
    (ofTokens tokens).assignment? globalName objectName index =
      if text = "'" ++ objectName ++ "'" then some (.bracketSingle, index + 5)
      else if text = "\"" ++ objectName ++ "\"" then some (.bracketDouble, index + 5)
      else none := by
  obtain ⟨hGlobal, hOpen, hKey, hClose, hEquals, -⟩ := h
  have hNoPoint : (ofTokens tokens).isPunctuation (index + 1) "." = false := by
    rw [Bool.eq_false_iff, ne_eq, isPunctuation_ofTokens, hOpen]
    simp
  obtain ⟨key, hToken, hLexeme⟩ := Option.map_eq_some_iff.mp hKey
  simp only [Token.lexeme, Prod.mk.injEq] at hLexeme
  unfold FollowsPoint at hFree
  rw [← isPunctuation_ofTokens] at hFree hOpen hClose hEquals
  rw [← isName_ofTokens] at hGlobal
  unfold assignment?
  simp only [hGlobal, hNoPoint, hOpen, hClose, hEquals, tokens_ofTokens, hToken, hLexeme,
    Bool.not_true, Bool.false_and, Bool.true_and, Bool.false_eq_true, if_false, if_true,
    Bool.and_eq_true, decide_eq_true_eq, bne_self_eq_false, beq_iff_eq]
  rw [if_neg hFree]

theorem assignment?_of_assignsAt {globalName objectName : String} {tokens : List Token}
    {index : Nat} {form : AssignmentForm}
    (h : AssignsAt globalName objectName tokens index form) :
    (ofTokens tokens).assignment? globalName objectName index =
      some (form, index + (form.target globalName objectName).length) := by
  obtain ⟨hFree, hTarget⟩ := h
  cases form with
  | dot =>
    obtain ⟨hGlobal, hPoint, hObject, hEquals, -⟩ := hTarget
    unfold FollowsPoint at hFree
    rw [← isPunctuation_ofTokens] at hFree hPoint hEquals
    rw [← isName_ofTokens] at hGlobal hObject
    unfold assignment?
    simp only [hGlobal, hPoint, hObject, hEquals]
    simpa [AssignmentForm.target] using hFree
  | bracketSingle =>
    rw [assignment?_bracket hFree hTarget, if_pos rfl]
    rfl
  | bracketDouble =>
    rw [assignment?_bracket hFree hTarget, if_neg (quoted_ne objectName), if_pos rfl]
    rfl

theorem assignsAt_of_assignment? {globalName objectName : String} {tokens : List Token}
    {index valueIndex : Nat} {form : AssignmentForm}
    (h : (ofTokens tokens).assignment? globalName objectName index = some (form, valueIndex)) :
    AssignsAt globalName objectName tokens index form ∧
      valueIndex = index + (form.target globalName objectName).length := by
  unfold assignment? at h
  split at h
  · cases h
  · next hGlobal =>
    rw [Bool.not_eq_true, Bool.not_eq_false', isName_ofTokens] at hGlobal
    split at h
    · cases h
    · next hFree =>
      have hNoPoint : ¬ FollowsPoint tokens index := by
        rw [FollowsPoint, ← isPunctuation_ofTokens]
        simpa using hFree
      split at h
      · next hDot =>
        simp only [Bool.and_eq_true, isPunctuation_ofTokens, isName_ofTokens] at hDot
        cases h
        exact ⟨⟨hNoPoint, hGlobal, hDot.1.1, hDot.1.2, hDot.2, trivial⟩, rfl⟩
      · split at h
        · next hBracket =>
          simp only [Bool.and_eq_true, isPunctuation_ofTokens] at hBracket
          obtain ⟨⟨hOpen, hClose⟩, hEquals⟩ := hBracket
          split at h
          · cases h
          · next key hKey =>
            rw [tokens_ofTokens] at hKey
            split at h
            · cases h
            · next hKind =>
              have hString : key.kind = .string := by simpa using hKind
              split at h
              · next hText =>
                have hLexeme : (tokens[index + 2]?).map Token.lexeme =
                    some (.string, "'" ++ objectName ++ "'") := by
                  rw [hKey, Option.map_some, Token.lexeme, hString, beq_iff_eq.mp hText]
                cases h
                exact ⟨⟨hNoPoint, hGlobal, hOpen, hLexeme, hClose, hEquals, trivial⟩, rfl⟩
              · split at h
                · next hText =>
                  have hLexeme : (tokens[index + 2]?).map Token.lexeme =
                      some (.string, "\"" ++ objectName ++ "\"") := by
                    rw [hKey, Option.map_some, Token.lexeme, hString, beq_iff_eq.mp hText]
                  cases h
                  exact ⟨⟨hNoPoint, hGlobal, hOpen, hLexeme, hClose, hEquals, trivial⟩, rfl⟩
                · cases h
        · cases h

theorem resolve?_isSome_iff (tokens : List Token) (index : Nat) :
    ((ofTokens tokens).resolve? index).isSome = true ↔
      ∃ value, tokens[index]? = some value ∧ value.CanHoldObject := by
  unfold resolve?
  rw [tokens_ofTokens]
  cases tokens[index]? with
  | none => simp
  | some value =>
    simp only [Option.some.injEq, exists_eq_left', Token.CanHoldObject]
    by_cases hBrace : value.isPunctuation "\x7b" = true
    · simp [hBrace]
    · by_cases hRound : value.isPunctuation "(" = true
      · have hKind : value.kind ≠ .name := by
          simp only [Token.isPunctuation, Bool.and_eq_true, beq_iff_eq] at hRound
          simp [hRound.1]
        simp [hBrace, hRound, hKind]
      · by_cases hKind : value.kind = .name
        · by_cases hWord : value.text ∈ valueWords
          · simp [hBrace, hRound, hKind, hWord]
          · simp only [hBrace, hRound, hKind, hWord]
            simp only [Bool.false_eq_true, if_false, beq_self_eq_true, if_true,
              List.contains_eq_mem, hWord, decide_false, not_false_eq_true, and_self, or_true, iff_true]
            split <;> rfl
        · simp [hBrace, hRound, hKind]

theorem gameObjectAt?_isSome_iff (globalName objectName : String) (tokens : List Token)
    (index : Nat) :
    ((ofTokens tokens).gameObjectAt? globalName objectName index).isSome = true ↔
      Qualifies globalName objectName tokens index := by
  unfold gameObjectAt?
  constructor
  · intro h
    cases hAssignment : (ofTokens tokens).assignment? globalName objectName index with
    | none =>
      rw [hAssignment] at h
      cases h
    | some found =>
      obtain ⟨form, valueIndex⟩ := found
      obtain ⟨hAssigns, rfl⟩ := assignsAt_of_assignment? hAssignment
      refine ⟨form, hAssigns, (resolve?_isSome_iff tokens _).mp ?_⟩
      rw [hAssignment] at h
      simp only [bind, Option.bind] at h
      split at h
      · cases h
      · next hResolved => rw [hResolved]; rfl
  · rintro ⟨form, hAssigns, hValue⟩
    obtain ⟨⟨scope, bodies⟩, hResolved⟩ :=
      Option.isSome_iff_exists.mp ((resolve?_isSome_iff tokens _).mpr hValue)
    rw [assignment?_of_assignsAt hAssigns]
    simp only [bind, Option.bind, hResolved]
    rfl

/-- The search stops at the first index at which there is something to find. -/
theorem gameObject?_of_first {globalName objectName : String} {outline : Outline} {index : Nat}
    {object : GameObject} (hIndex : index < outline.size)
    (hFound : outline.gameObjectAt? globalName objectName index = some object)
    (hNone : ∀ other < index, outline.gameObjectAt? globalName objectName other = none) :
    outline.gameObject? globalName objectName = some object := by
  obtain ⟨behind, hSize⟩ : ∃ behind, outline.size = index + (behind + 1) :=
    ⟨outline.size - index - 1, by omega⟩
  have hBefore : (List.range index).findSome? (outline.gameObjectAt? globalName objectName) =
      none := by
    rw [List.findSome?_eq_none_iff]
    exact fun other hOther => hNone other (List.mem_range.mp hOther)
  unfold gameObject?
  rw [hSize, List.range_add, List.findSome?_append, hBefore, List.range_succ_eq_map]
  simp [hFound]

end Outline

end SubmissionGate.Script
