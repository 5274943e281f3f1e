import SubmissionGate.Proofs.Script.Lexeme
import SubmissionGate.Script.Member

/-!
# Tokens without their places

The search for the game object and its methods counts tokens and looks at their kinds and texts, but
never at their places in the script. So an outline answers every question alike when the places of
its tokens are dropped.
-/

namespace SubmissionGate.Script

namespace Token

def unplaced (token : Token) : Token := { token with start := 0 }

variable (token : Token)

@[simp]
theorem unplaced_kind : token.unplaced.kind = token.kind := rfl

@[simp]
theorem unplaced_text : token.unplaced.text = token.text := rfl

@[simp]
theorem unplaced_isPunctuation (text : String) :
    token.unplaced.isPunctuation text = token.isPunctuation text := rfl

@[simp]
theorem unplaced_isName (text : String) : token.unplaced.isName text = token.isName text := rfl

@[simp]
theorem unplaced_opens? : token.unplaced.opens? = token.opens? := rfl

@[simp]
theorem unplaced_closes? : token.unplaced.closes? = token.closes? := rfl

@[simp]
theorem unplaced_key? : token.unplaced.key? = token.key? := rfl

end Token

theorem pairsFrom_unplaced (index : Nat) (stack : OpenBrackets) (pairs : List (Nat × Nat))
    (tokens : List Token) :
    pairsFrom index stack pairs (tokens.map Token.unplaced) =
      pairsFrom index stack pairs tokens := by
  induction tokens generalizing index stack pairs with
  | nil => rfl
  | cons token rest ih =>
    rw [List.map_cons, pairsFrom, pairsFrom]
    simp only [Token.unplaced_opens?, Token.unplaced_closes?, ih]

theorem closers_unplaced (tokens : List Token) :
    closers (tokens.map Token.unplaced) = closers tokens := by
  rw [closers, bracketPairs, pairsFrom_unplaced, List.length_map, closers, bracketPairs]

namespace Outline

def unplaced (outline : Outline) : Outline :=
  { outline with tokens := outline.tokens.map Token.unplaced }

theorem ofTokens_unplaced (tokens : List Token) :
    ofTokens (tokens.map Token.unplaced) = (ofTokens tokens).unplaced := by
  simp [ofTokens, unplaced, closers_unplaced]

variable (outline : Outline)

@[simp]
theorem unplaced_closers : outline.unplaced.closers = outline.closers := rfl

@[simp]
theorem unplaced_size : outline.unplaced.size = outline.size := by
  simp [size, unplaced]

@[simp]
theorem unplaced_get (index : Nat) :
    outline.unplaced.tokens[index]? = (outline.tokens[index]?).map Token.unplaced := by
  simp [unplaced]

@[simp]
theorem unplaced_isPunctuation (index : Nat) (text : String) :
    outline.unplaced.isPunctuation index text = outline.isPunctuation index text := by
  simp [isPunctuation, Option.any_map]

@[simp]
theorem unplaced_isName (index : Nat) (text : String) :
    outline.unplaced.isName index text = outline.isName index text := by
  simp [isName, Option.any_map]

@[simp]
theorem unplaced_bodyEnd (opener : Nat) :
    outline.unplaced.bodyEnd opener = outline.bodyEnd opener := by
  simp [bodyEnd]

@[simp]
theorem unplaced_skip (index : Nat) : outline.unplaced.skip index = outline.skip index := by
  simp [skip, Option.any_map]

/-! The game object -/

@[simp]
theorem unplaced_headerBrace (index : Nat) :
    outline.unplaced.headerBrace index = outline.headerBrace index := by
  fun_induction headerBrace outline index with
  | case1 index hInside hBrace =>
    rw [headerBrace, unplaced_size, if_pos hInside]
    simp [hBrace]
  | case2 index hInside hBrace hEnds =>
    rw [headerBrace, unplaced_size, if_pos hInside]
    simp [hBrace, hEnds]
  | case3 index hInside hBrace hEnds ih =>
    rw [headerBrace, unplaced_size, if_pos hInside]
    simp [hBrace, hEnds, ih]
  | case4 index hOutside => rw [headerBrace, unplaced_size, if_neg hOutside]

@[simp]
theorem unplaced_classHeader? (name : String) (index : Nat) :
    outline.unplaced.classHeader? name index = outline.classHeader? name index := by
  simp [classHeader?]

@[simp]
theorem unplaced_classBody? (nameIndex : Nat) :
    outline.unplaced.classBody? nameIndex = outline.classBody? nameIndex := by
  unfold classBody?
  rw [unplaced_get]
  have hBrace : outline.unplaced.headerBrace = outline.headerBrace :=
    funext outline.unplaced_headerBrace
  cases outline.tokens[nameIndex]? with
  | none => rfl
  | some token => simp [hBrace]

@[simp]
theorem unplaced_followsClass (index reach : Nat) :
    outline.unplaced.followsClass index reach = outline.followsClass index reach := by
  induction reach generalizing index with
  | zero => rfl
  | succ reach ih =>
    rw [followsClass, followsClass, unplaced_get]
    cases outline.tokens[index]? with
    | none => rfl
    | some token => simp [ih]

@[simp]
theorem unplaced_bodyKind? (opener : Nat) :
    outline.unplaced.bodyKind? opener = outline.bodyKind? opener := by
  unfold bodyKind?
  rw [unplaced_get]
  cases outline.tokens[opener - 1]? with
  | none => rfl
  | some before => simp

@[simp]
theorem unplaced_closedBodies : outline.unplaced.closedBodies = outline.closedBodies := by
  simp [closedBodies, Option.any_map]

@[simp]
theorem unplaced_completesValue (index : Nat) :
    outline.unplaced.completesValue index = outline.completesValue index := by
  unfold completesValue
  rw [unplaced_get]
  cases outline.tokens[index]? with
  | none => rfl
  | some token => rfl

@[simp]
theorem unplaced_startsBinding (index : Nat) :
    outline.unplaced.startsBinding index = outline.startsBinding index := by
  cases index with
  | zero => rfl
  | succ before =>
    rw [startsBinding, startsBinding, unplaced_get]
    cases outline.tokens[before]? with
    | none => rfl
    | some token => rfl

@[simp]
theorem unplaced_bindingAt? (variableName : String) (index : Nat) :
    outline.unplaced.bindingAt? variableName index = outline.bindingAt? variableName index := by
  simp [bindingAt?]

@[simp]
theorem unplaced_resolve? (valueIndex : Nat) :
    outline.unplaced.resolve? valueIndex = outline.resolve? valueIndex := by
  unfold resolve?
  rw [unplaced_get]
  have hBinding : outline.unplaced.bindingAt? = outline.bindingAt? :=
    funext fun name => funext (outline.unplaced_bindingAt? name)
  cases outline.tokens[valueIndex]? with
  | none => rfl
  | some value => simp [hBinding]

@[simp]
theorem unplaced_assignment? (globalName objectName : String) (index : Nat) :
    outline.unplaced.assignment? globalName objectName index =
      outline.assignment? globalName objectName index := by
  unfold assignment?
  rw [unplaced_get]
  cases outline.tokens[index + 2]? with
  | none => simp
  | some key => simp

@[simp]
theorem unplaced_gameObjectAt? (globalName objectName : String) (index : Nat) :
    outline.unplaced.gameObjectAt? globalName objectName index =
      outline.gameObjectAt? globalName objectName index := by
  simp [gameObjectAt?]

theorem unplaced_gameObject? (globalName objectName : String) :
    outline.unplaced.gameObject? globalName objectName =
      outline.gameObject? globalName objectName := by
  rw [gameObject?, gameObject?, unplaced_size,
    funext (outline.unplaced_gameObjectAt? globalName objectName)]

/-! The methods -/

@[simp]
theorem unplaced_matchesForm (name : String) (stop index : Nat) (atoms : List Rules.Atom) :
    outline.unplaced.matchesForm name stop index atoms =
      outline.matchesForm name stop index atoms := by
  induction atoms generalizing index with
  | nil => rfl
  | cons atom rest ih =>
    rw [matchesForm, matchesForm, unplaced_get]
    cases outline.tokens[index]? with
    | none => rfl
    | some token => cases atom <;> simp [ih]

@[simp]
theorem unplaced_matchedPattern? (spec : Rules.RequiredMethod) (stop index : Nat) :
    outline.unplaced.matchedPattern? spec stop index = outline.matchedPattern? spec stop index := by
  simp [matchedPattern?]

@[simp]
theorem unplaced_objectStarts (index stop : Nat) (found : List Nat) :
    outline.unplaced.objectStarts index stop found = outline.objectStarts index stop found := by
  fun_induction objectStarts outline index stop found with
  | case1 index found hInside starts _ ih =>
    rw [objectStarts, if_pos hInside]
    simp only [unplaced_isPunctuation, unplaced_skip]
    exact ih
  | case2 index found hOutside => rw [objectStarts, if_neg hOutside]

@[simp]
theorem unplaced_classStarts (index stop : Nat) (found : List Nat) :
    outline.unplaced.classStarts index stop found = outline.classStarts index stop found := by
  fun_induction classStarts outline index stop found with
  | case1 index found hInside _ ih =>
    rw [classStarts, if_pos hInside]
    simp only [unplaced_skip]
    exact ih
  | case2 index found hOutside => rw [classStarts, if_neg hOutside]

@[simp]
theorem unplaced_memberPositions (body : Body) :
    outline.unplaced.memberPositions body = outline.memberPositions body := by
  simp [memberPositions]

@[simp]
theorem unplaced_methodsAt (specs : List Rules.RequiredMethod) (stop index : Nat)
    (found : Table String) :
    outline.unplaced.methodsAt specs stop index found =
      outline.methodsAt specs stop index found := by
  simp [methodsAt]

theorem unplaced_methods (object : GameObject) (specs : List Rules.RequiredMethod) :
    outline.unplaced.methods object specs = outline.methods object specs := by
  simp [methods]

end Outline

theorem unplaced_of_lexemes {first second : List Token}
    (h : first.map Token.lexeme = second.map Token.lexeme) :
    first.map Token.unplaced = second.map Token.unplaced := by
  have hPlace : ∀ tokens : List Token, tokens.map Token.unplaced =
      (tokens.map Token.lexeme).map fun lexeme => ⟨lexeme.1, lexeme.2, 0⟩ := by
    intro tokens
    rw [List.map_map]
    rfl
  rw [hPlace, hPlace, h]

/-- Scripts whose tokens have the same kinds and texts have the same game object. -/
theorem gameObject?_of_lexemes {first second : List Token}
    (h : first.map Token.lexeme = second.map Token.lexeme) (globalName objectName : String) :
    (Outline.ofTokens first).gameObject? globalName objectName =
      (Outline.ofTokens second).gameObject? globalName objectName := by
  rw [← Outline.unplaced_gameObject?, ← Outline.ofTokens_unplaced, unplaced_of_lexemes h,
    Outline.ofTokens_unplaced, Outline.unplaced_gameObject?]

theorem methods_of_lexemes {first second : List Token}
    (h : first.map Token.lexeme = second.map Token.lexeme) (object : GameObject)
    (specs : List Rules.RequiredMethod) :
    (Outline.ofTokens first).methods object specs =
      (Outline.ofTokens second).methods object specs := by
  rw [← Outline.unplaced_methods, ← Outline.ofTokens_unplaced, unplaced_of_lexemes h,
    Outline.ofTokens_unplaced, Outline.unplaced_methods]

end SubmissionGate.Script
