import SubmissionGate.Proofs.Script.Assignment
import SubmissionGate.Proofs.Script.MemberGrammar

/-!
# Published object literals

A script that assigns an object literal to the property of the game: what stands in front of the
assignment and behind the literal is arbitrary, brackets included, as long as no assignment in front
can hold an object. Then the literal is the game object, and its methods are those that its members
define by the grammar.
-/

namespace SubmissionGate.Script

open SubmissionGate.Rules

/-! ## Forms on the tokens of a member -/

/-- The atoms of a form, one after the other, with a whole group for parameters. -/
inductive FormTokens (name : String) : List Atom → List Token → Prop
  | nil : FormTokens name [] []
  | token {atom : Atom} {atoms : List Atom} {token : Token} {rest : List Token}
      (hAtom : atom ≠ .parameters) (hAccepts : accepts name token atom = true)
      (hRest : FormTokens name atoms rest) : FormTokens name (atom :: atoms) (token :: rest)
  | parameters {atoms : List Atom} {group rest : List Token} (hGroup : Parameters group)
      (hRest : FormTokens name atoms rest) : FormTokens name (.parameters :: atoms) (group ++ rest)

theorem FormTokens.fits {name : String} {atoms : List Atom} {definition : List Token}
    (h : FormTokens name atoms definition) (hShallow : isShallow atoms = true) (rest : List Token) :
    fits name atoms (surface (definition ++ rest)) = true := by
  induction h with
  | nil => rfl
  | @token atom atoms token tokens hAtom hAccepts _ ih =>
    have hNext := ih (isShallow_tail hShallow)
    rw [List.cons_append, surface, surfaceFrom, if_pos rfl, Script.fits, hAccepts, Bool.true_and]
    cases hOpens : token.opens? with
    | none =>
      have hDepth : depthAfter 0 token = 0 := by simp [depthAfter, hOpens]
      rw [hDepth]
      exact hNext
    | some kind =>
      rcases accepts_opener hOpens hShallow hAccepts with ⟨hOther, -⟩ | rfl
      · exact absurd hOther hAtom
      · rfl
  | @parameters atoms group tokens hGroup _ ih =>
    obtain ⟨hOpener, hInner, hCloser⟩ := hGroup
    rw [List.cons_append, List.cons_append, List.append_assoc, List.append_assoc,
      List.singleton_append, surface_group (partners_round hOpener hCloser) hInner, Script.fits,
      accepts, hOpener, Bool.true_and]
    exact ih (isShallow_tail hShallow)

theorem formTokens_of_fits {name : String} {member : List Token} (h : Balanced member)
    {atoms : List Atom} (hShallow : isShallow atoms = true)
    (hFits : fits name atoms (surface member) = true) :
    ∃ definition rest, member = definition ++ rest ∧ FormTokens name atoms definition := by
  induction h generalizing atoms with
  | nil =>
    cases atoms with
    | nil => exact ⟨[], [], rfl, .nil⟩
    | cons atom atoms => cases hFits
  | @plain token rest hPlain _ ih =>
    cases atoms with
    | nil => exact ⟨[], token :: rest, rfl, .nil⟩
    | cons atom atoms =>
      rw [surface_plain hPlain, fits, Bool.and_eq_true] at hFits
      obtain ⟨definition, behind, rfl, hForm⟩ := ih (isShallow_tail hShallow) hFits.2
      refine ⟨token :: definition, behind, rfl, .token ?_ hFits.1 hForm⟩
      rintro rfl
      rw [accepts, opens?_round, hPlain.1] at hFits
      cases hFits.1
  | @group opener closer inner rest hPair hInner _ _ ih =>
    cases atoms with
    | nil => exact ⟨[], opener :: (inner ++ closer :: rest), rfl, .nil⟩
    | cons atom atoms =>
      rw [surface_group hPair hInner, fits, Bool.and_eq_true] at hFits
      obtain ⟨kind, hOpens, -⟩ := id hPair
      by_cases hAtom : atom = .parameters
      · subst hAtom
        obtain ⟨definition, behind, rfl, hForm⟩ := ih (isShallow_tail hShallow) hFits.2
        have hGroup := Parameters.intro hFits.1 hInner (hPair.round hFits.1)
        exact ⟨_, behind, by simp, .parameters hGroup hForm⟩
      · rcases accepts_opener hOpens hShallow hFits.1 with ⟨hOther, -⟩ | rfl
        · exact absurd hOther hAtom
        · exact ⟨[opener], inner ++ closer :: rest, rfl, .token hAtom hFits.1 .nil⟩

theorem formTokens_nil {name : String} {tokens : List Token} :
    FormTokens name [] tokens ↔ tokens = [] := by
  constructor
  · rintro ⟨⟩
    rfl
  · rintro rfl
    exact .nil

theorem formTokens_token {name : String} {atom : Atom} {atoms : List Atom} {tokens : List Token}
    (hAtom : atom ≠ .parameters) :
    FormTokens name (atom :: atoms) tokens ↔
      ∃ token, accepts name token atom = true ∧
        ∃ rest, FormTokens name atoms rest ∧ tokens = token :: rest := by
  constructor
  · intro h
    cases h with
    | token _ hAccepts hRest => exact ⟨_, hAccepts, _, hRest, rfl⟩
    | parameters => exact absurd rfl hAtom
  · rintro ⟨token, hAccepts, rest, hRest, rfl⟩
    exact .token hAtom hAccepts hRest

theorem formTokens_parameters {name : String} {atoms : List Atom} {tokens : List Token} :
    FormTokens name (.parameters :: atoms) tokens ↔
      ∃ group, Parameters group ∧ ∃ rest, FormTokens name atoms rest ∧ tokens = group ++ rest := by
  constructor
  · intro h
    cases h with
    | token hAtom => exact absurd rfl hAtom
    | parameters hGroup hRest => exact ⟨_, hGroup, _, hRest, rfl⟩
  · rintro ⟨group, hGroup, rest, hRest, rfl⟩
    exact .parameters hGroup hRest

theorem text_eq_iff {text other : String} : text = other ↔ text.toList = other.toList :=
  ⟨congrArg String.toList, String.toList_inj.mp⟩

theorem key?_eq_some_iff {name : String} {token : Token} :
    token.key? = some name ↔ IsKey name token := by
  unfold Token.key? IsKey Token.lexeme
  cases hKind : token.kind with
  | name => simp
  | punctuation => simp
  | other => simp
  | string =>
    simp only [Prod.mk.injEq, reduceCtorEq, false_and, false_or, true_and, text_eq_iff]
    cases hText : token.text.toList with
    | nil => simp
    | cons first behind =>
      cases behind with
      | nil => simp
      | cons second rest =>
        simp only
        obtain ⟨inner, last, hLast⟩ : ∃ inner last, second :: rest = inner ++ [last] :=
          ⟨_, _, (List.dropLast_concat_getLast (List.cons_ne_nil second rest)).symm⟩
        rw [hLast]
        have hSingle : "'".toList = ['\''] := by decide
        have hDouble : "\"".toList = ['"'] := by decide
        simp only [List.getLast?_concat, List.dropLast_concat, String.toList_append, hSingle,
          hDouble,
          List.cons_append, List.nil_append, List.cons.injEq,
          List.append_singleton_inj]
        rw [show inner = name.toList ↔ String.ofList inner = name by
          rw [text_eq_iff, String.toList_ofList]]
        by_cases hSame : last = first
        · subst hSame
          by_cases hQuote : last = '\'' ∨ last = '"'
          · rcases hQuote with rfl | rfl <;> simp
          · obtain ⟨hNotSingle, hNotDouble⟩ := not_or.mp hQuote
            simp [hNotSingle, hNotDouble]
        · have hOther : ∀ quote, ¬ (first = quote ∧ String.ofList inner = name ∧ last = quote) := by
            rintro quote ⟨rfl, -, rfl⟩
            exact hSame rfl
          simp [hSame, hOther]

theorem accepts_key {name : String} {token : Token} :
    accepts name token .key = true ↔ IsKey name token := by
  rw [accepts, beq_iff_eq, key?_eq_some_iff]

theorem accepts_identifier {name : String} {token : Token} :
    accepts name token .identifier = true ↔ token.kind = .name := by
  rw [accepts, beq_iff_eq]

theorem accepts_token {name text : String} {token : Token} :
    accepts name token (.token text) = true ↔ token.IsCode text := by
  simp [accepts, Token.IsCode]

/-- The eight definition forms are the grammar. -/
theorem methodDefinition_iff {name : String} {definition : List Token} :
    MethodDefinition name definition ↔
      ∃ form ∈ definitionForms, FormTokens name form.atoms definition := by
  simp only [definitionForms, List.mem_cons, exists_eq_or_imp, List.not_mem_nil, or_false, ne_eq,
    reduceCtorEq, not_false_eq_true, formTokens_token,
    formTokens_parameters, formTokens_nil, accepts_key, accepts_identifier, accepts_token,
    exists_eq_left]
  constructor
  · intro h
    cases h with
    | functionProperty hKey hColon hMark hWord =>
      cases hMark with
      | absent => exact .inl ⟨_, hKey, _, ⟨_, hColon, _, ⟨_, hWord, rfl⟩, rfl⟩, rfl⟩
      | present hAsync =>
        exact .inr (.inl
          ⟨_, hKey, _, ⟨_, hColon, _, ⟨_, hAsync, _, ⟨_, hWord, rfl⟩, rfl⟩, rfl⟩, rfl⟩)
    | shorthand hMark hKey hParameters hBrace =>
      right; right
      cases hMark with
      | absent => exact .inl ⟨_, hKey, _, ⟨_, hParameters, _, ⟨_, hBrace, rfl⟩, rfl⟩, rfl⟩
      | present hAsync =>
        exact .inr (.inl
          ⟨_, hAsync, _, ⟨_, hKey, _, ⟨_, hParameters, _, ⟨_, hBrace, rfl⟩, rfl⟩, rfl⟩, rfl⟩)
    | arrow hKey hColon hMark hParameters hArrow =>
      right; right; right; right
      cases hMark with
      | absent =>
        exact .inl
          ⟨_, hKey, _, ⟨_, hColon, _, ⟨_, hParameters, _, ⟨_, hArrow, rfl⟩, rfl⟩, rfl⟩, rfl⟩
      | present hAsync =>
        exact .inr (.inl ⟨_, hKey, _, ⟨_, hColon, _, ⟨_, hAsync, _,
          ⟨_, hParameters, _, ⟨_, hArrow, rfl⟩, rfl⟩, rfl⟩, rfl⟩, rfl⟩)
    | bareArrow hKey hColon hMark hParameter hArrow =>
      right; right; right; right; right; right
      cases hMark with
      | absent =>
        exact .inl ⟨_, hKey, _, ⟨_, hColon, _, ⟨_, hParameter, _, ⟨_, hArrow, rfl⟩, rfl⟩, rfl⟩, rfl⟩
      | present hAsync =>
        exact .inr ⟨_, hKey, _, ⟨_, hColon, _, ⟨_, hAsync, _,
          ⟨_, hParameter, _, ⟨_, hArrow, rfl⟩, rfl⟩, rfl⟩, rfl⟩, rfl⟩
  · rintro (⟨_, hKey, _, ⟨_, hColon, _, ⟨_, hWord, rfl⟩, rfl⟩, rfl⟩ |
      ⟨_, hKey, _, ⟨_, hColon, _, ⟨_, hAsync, _, ⟨_, hWord, rfl⟩, rfl⟩, rfl⟩, rfl⟩ |
      ⟨_, hKey, _, ⟨_, hParameters, _, ⟨_, hBrace, rfl⟩, rfl⟩, rfl⟩ |
      ⟨_, hAsync, _, ⟨_, hKey, _, ⟨_, hParameters, _, ⟨_, hBrace, rfl⟩, rfl⟩, rfl⟩, rfl⟩ |
      ⟨_, hKey, _, ⟨_, hColon, _, ⟨_, hParameters, _, ⟨_, hArrow, rfl⟩, rfl⟩, rfl⟩, rfl⟩ |
      ⟨_, hKey, _, ⟨_, hColon, _,
        ⟨_, hAsync, _, ⟨_, hParameters, _, ⟨_, hArrow, rfl⟩, rfl⟩, rfl⟩, rfl⟩, rfl⟩ |
      ⟨_, hKey, _, ⟨_, hColon, _, ⟨_, hParameter, _, ⟨_, hArrow, rfl⟩, rfl⟩, rfl⟩, rfl⟩ |
      ⟨_, hKey, _, ⟨_, hColon, _,
        ⟨_, hAsync, _, ⟨_, hParameter, _, ⟨_, hArrow, rfl⟩, rfl⟩, rfl⟩, rfl⟩, rfl⟩)
    · exact .functionProperty hKey hColon .absent hWord
    · exact .functionProperty hKey hColon (.present hAsync) hWord
    · exact .shorthand .absent hKey hParameters hBrace
    · exact .shorthand (.present hAsync) hKey hParameters hBrace
    · exact .arrow hKey hColon .absent hParameters hArrow
    · exact .arrow hKey hColon (.present hAsync) hParameters hArrow
    · exact .bareArrow hKey hColon .absent hParameter hArrow
    · exact .bareArrow hKey hColon (.present hAsync) hParameter hArrow

theorem has_requiredMethods {body : List Token} (h : Balanced body) (name : String) :
    (surfaceMethods requiredMethods (surface body)).has name = true ↔
      name ∈ requiredMethodNames ∧ ∃ member ∈ members body, ∃ definition rest,
        member = definition ++ rest ∧ MethodDefinition name definition := by
  obtain ⟨hBalanced, hSurface⟩ := members_surface h
  have hMember : ∀ member ∈ members body,
      (formIn? ⟨name, definitionForms⟩ (surface member)).isSome = true ↔
        ∃ definition rest, member = definition ++ rest ∧ MethodDefinition name definition := by
    intro member hMember
    rw [formIn?_isSome]
    constructor
    · rintro ⟨form, hForm, hFits⟩
      obtain ⟨definition, rest, hSplit, hTokens⟩ :=
        formTokens_of_fits (hBalanced member hMember) (definitionForms_shallow form hForm) hFits
      exact ⟨definition, rest, hSplit, methodDefinition_iff.mpr ⟨form, hForm, hTokens⟩⟩
    · rintro ⟨definition, rest, rfl, hDefinition⟩
      obtain ⟨form, hForm, hTokens⟩ := methodDefinition_iff.mp hDefinition
      exact ⟨form, hForm, hTokens.fits (definitionForms_shallow form hForm) rest⟩
  rw [has_surfaceMethods, ← hSurface]
  constructor
  · rintro ⟨spec, hSpec, rfl, part, hPart, hForm⟩
    obtain ⟨member, hMem, rfl⟩ := List.mem_map.mp hPart
    obtain ⟨method, hMethod, rfl⟩ := List.mem_map.mp hSpec
    exact ⟨hMethod, member, hMem, (hMember member hMem).mp hForm⟩
  · rintro ⟨hName, member, hMem, hDefinition⟩
    exact ⟨_, List.mem_map_of_mem hName, rfl, _, List.mem_map_of_mem hMem,
      (hMember member hMem).mpr hDefinition⟩

/-! ## Literals of the game -/

/-- A script in which an object literal is assigned to the property of the game, and no assignment
that begins in front of it can hold an object. -/
structure PublishedLiteral (globalName objectName : String) where
  before : List Token
  form : AssignmentForm
  site : List Token
  body : List Token
  close : Token
  after : List Token
  free : before.getLast?.map Token.lexeme ≠ some (.punctuation, ".")
  first : ∀ index < before.length, ¬ Qualifies globalName objectName (before ++ site) index
  spells : site.map Token.lexeme =
    form.target globalName objectName ++ [(.punctuation, "\x7b")]
  nests : Balanced body
  closes : close.isPunctuation "\x7d" = true

theorem Spells.of_append {tokens rest : List Token} {index : Nat}
    {lexemes : List (TokenKind × String)} (h : Spells (tokens ++ rest) index lexemes)
    (hInside : index + lexemes.length ≤ tokens.length) : Spells tokens index lexemes := by
  induction lexemes generalizing index with
  | nil => trivial
  | cons lexeme lexemes ih =>
    rw [List.length_cons] at hInside
    obtain ⟨hHead, hTail⟩ := h
    rw [List.getElem?_append_left (by omega)] at hHead
    exact ⟨hHead, ih hTail (by omega)⟩

theorem AssignmentForm.target_length (form : AssignmentForm) (globalName objectName : String) :
    4 ≤ (form.target globalName objectName).length ∧
      (form.target globalName objectName).length ≤ 5 := by
  cases form <;> simp [target]

/-- Whether an assignment can hold an object is seen in the first tokens behind its index. -/
theorem Qualifies.of_append {globalName objectName : String} {tokens rest : List Token}
    {index : Nat} (h : Qualifies globalName objectName (tokens ++ rest) index)
    (hInside : index + 5 < tokens.length) : Qualifies globalName objectName tokens index := by
  obtain ⟨form, ⟨hFree, hTarget⟩, value, hValue, hObject⟩ := h
  have hLength := form.target_length globalName objectName
  rw [List.getElem?_append_left (by omega)] at hValue
  refine ⟨form, ⟨?_, hTarget.of_append (by omega)⟩, value, hValue, hObject⟩
  rwa [FollowsPoint, List.getElem?_append_left (by omega)] at hFree

namespace PublishedLiteral

variable {globalName objectName : String} (literal : PublishedLiteral globalName objectName)

def tokens : List Token :=
  literal.before ++ (literal.site ++ (literal.body ++ literal.close :: literal.after))

def start : Nat := literal.before.length + literal.site.length

def object : GameObject :=
  ⟨literal.form, literal.before.length, .literal,
    [⟨literal.start, literal.start + literal.body.length, .object⟩]⟩

theorem site_eq : ∃ target brace, literal.site = target ++ [brace] ∧
    target.map Token.lexeme = literal.form.target globalName objectName ∧
    brace.lexeme = (.punctuation, "\x7b") := by
  obtain ⟨target, last, hSite, hTarget, hLast⟩ := List.map_eq_append_iff.mp literal.spells
  obtain ⟨brace, hBrace, hLexeme⟩ := List.map_eq_singleton_iff.mp hLast
  exact ⟨target, brace, by rw [hSite, hBrace], hTarget, hLexeme⟩

theorem not_followsPoint : ¬ FollowsPoint literal.tokens literal.before.length := by
  rintro ⟨hPos, hPoint⟩
  rw [tokens, List.getElem?_append_left (by omega), ← List.getLast?_eq_getElem?] at hPoint
  exact literal.free hPoint

theorem gameObjectAt?_before :
    (Outline.ofTokens literal.tokens).gameObjectAt? globalName objectName literal.before.length =
      some literal.object := by
  obtain ⟨target, brace, hSite, hTarget, hBrace⟩ := literal.site_eq
  have hTokens : literal.tokens = (literal.before ++ target) ++
      brace :: (literal.body ++ literal.close :: literal.after) := by
    simp [tokens, hSite]
  have hValue : literal.before.length + (literal.form.target globalName objectName).length =
      (literal.before ++ target).length := by
    rw [← hTarget, List.length_map, List.length_append]
  have hAssigns : AssignsAt globalName objectName literal.tokens literal.before.length
      literal.form := by
    refine ⟨literal.not_followsPoint, ?_⟩
    rw [← hTarget, hTokens, List.append_assoc]
    exact spells_append _ _ _
  have hOpens : brace.isPunctuation "\x7b" = true := Token.isPunctuation_iff.mpr hBrace
  have hPair : Partners brace literal.close := by
    refine ⟨.curly, ?_, ?_⟩
    · simp only [Token.isPunctuation, Bool.and_eq_true, beq_iff_eq] at hOpens
      simp [Token.opens?, hOpens.1, hOpens.2]
    · have hCloses := literal.closes
      simp only [Token.isPunctuation, Bool.and_eq_true, beq_iff_eq] at hCloses
      simp [Token.closes?, hCloses.1, hCloses.2]
  have hStart : literal.start = (literal.before ++ target).length + 1 := by
    rw [start, hSite, List.length_append, List.length_append, List.length_singleton, Nat.add_assoc]
  have hEnd : (Outline.ofTokens literal.tokens).bodyEnd (literal.before ++ target).length =
      literal.start + literal.body.length := by
    have hCloser := closerOf?_group hPair literal.nests (literal.before ++ target) literal.after
    rw [Outline.bodyEnd, Outline.ofTokens, hTokens, hCloser, Option.getD_some, hStart]
  have hHere : (Outline.ofTokens literal.tokens).tokens[(literal.before ++ target).length]? =
      some brace := by
    rw [Outline.tokens_ofTokens, hTokens]
    simp
  rw [Outline.gameObjectAt?, Outline.assignment?_of_assignsAt hAssigns, hValue]
  simp only [bind, Option.bind, Outline.resolve?, hHere, hOpens, if_true, hEnd, object, hStart]

theorem gameObject?_eq :
    (Outline.ofTokens literal.tokens).gameObject? globalName objectName = some literal.object := by
  have hSize : literal.site.length =
      (literal.form.target globalName objectName).length + 1 := by
    rw [← List.length_map (f := Token.lexeme), literal.spells, List.length_append,
      List.length_singleton]
  have hLength := literal.form.target_length globalName objectName
  refine Outline.gameObject?_of_first ?_ literal.gameObjectAt?_before ?_
  · simp only [Outline.size, Outline.ofTokens, tokens, List.size_toArray, List.length_append]
    omega
  · intro index hIndex
    rw [← Option.not_isSome_iff_eq_none, Outline.gameObjectAt?_isSome_iff, tokens,
      ← List.append_assoc]
    intro hQualifies
    refine literal.first index hIndex (hQualifies.of_append ?_)
    rw [List.length_append]
    omega

theorem methods_object (specs : List RequiredMethod) (hSpecs : AllShallow specs) :
    (Outline.ofTokens literal.tokens).methods literal.object specs =
      surfaceMethods specs (surface literal.body) := by
  have hShows := Outline.shows_of_balanced literal.nests (literal.before ++ literal.site)
    (literal.close :: literal.after)
  rw [List.append_assoc, List.length_append] at hShows
  exact methods_of_shows hShows hSpecs _ _ _

end PublishedLiteral

theorem requiredMethods_shallow : AllShallow requiredMethods := by
  intro spec hSpec
  obtain ⟨name, -, rfl⟩ := List.mem_map.mp hSpec
  exact definitionForms_shallow

/-- A published literal is the game object, with the methods that its members define. What stands
around it, and inside a bracket of it, has no part in that. -/
theorem published_literal_methods {globalName objectName : String}
    (literal : PublishedLiteral globalName objectName) :
    let methods := (Outline.ofTokens literal.tokens).methods literal.object requiredMethods
    (Outline.ofTokens literal.tokens).gameObject? globalName objectName = some literal.object ∧
    (∀ name, methods.has name = true ↔
      name ∈ requiredMethodNames ∧ ∃ member ∈ members literal.body, ∃ definition rest,
        member = definition ++ rest ∧ MethodDefinition name definition) ∧
    (∀ other : PublishedLiteral globalName objectName, other.body = literal.body →
      (Outline.ofTokens other.tokens).methods other.object requiredMethods = methods) ∧
    ∀ front opener inner closer behind replacement,
      literal.body = front ++ opener :: (inner ++ closer :: behind) → Partners opener closer →
      Balanced inner → Balanced replacement →
      let body := front ++ opener :: (replacement ++ closer :: behind)
      Balanced body ∧ ∀ other : PublishedLiteral globalName objectName, other.body = body →
        (Outline.ofTokens other.tokens).methods other.object requiredMethods = methods := by
  intro methods
  have hMethods : methods = surfaceMethods requiredMethods (surface literal.body) :=
    literal.methods_object _ requiredMethods_shallow
  refine ⟨literal.gameObject?_eq, fun name => ?_, fun other hSame => ?_, ?_⟩
  · rw [hMethods]
    exact has_requiredMethods literal.nests name
  · rw [hMethods, other.methods_object _ requiredMethods_shallow, hSame]
  · intro front opener inner closer behind replacement hBody hPair hInner hReplacement
    refine ⟨(hBody ▸ literal.nests).replace hPair hInner hReplacement, fun other hOther => ?_⟩
    have hSurface : surface other.body = surface literal.body := by
      rw [hOther, hBody]
      exact surfaceFrom_replace hPair hInner hReplacement front behind 0
    rw [hMethods, other.methods_object _ requiredMethods_shallow, hSurface]

def word (text : String) : Token := ⟨.name, text, 0⟩

def mark (text : String) : Token := ⟨.punctuation, text, 0⟩

/-- `) window.ClawmoGame = { init() { start } } [`, where the brackets around are not balanced. -/
def strayLiteral : PublishedLiteral "window" "ClawmoGame" where
  before := [mark ")"]
  form := .dot
  site := [word "window", mark ".", word "ClawmoGame", mark "=", mark "\x7b"]
  body := [word "init", mark "(", mark ")", mark "\x7b", word "start", mark "\x7d"]
  close := mark "\x7d"
  after := [mark "["]
  free := by decide
  first := by
    intro index hIndex
    obtain rfl := Nat.lt_one_iff.mp hIndex
    rw [← Outline.gameObjectAt?_isSome_iff]
    decide
  spells := by decide
  nests := by decide
  closes := by decide

theorem stray_literal_methods :
    let outline := Outline.ofTokens strayLiteral.tokens
    outline.gameObject? "window" "ClawmoGame" = some strayLiteral.object ∧
      (outline.methods strayLiteral.object requiredMethods).has "init" = true ∧
      Balanced [word "init", mark "(", mark ")", mark "\x7b", mark ",", mark "\x7d"] := by
  obtain ⟨hObject, hMethods, -, hReplaced⟩ := published_literal_methods strayLiteral
  have hPair : Partners (mark "\x7b") (mark "\x7d") := ⟨.curly, by decide, by decide⟩
  have hEmpty : Parameters [mark "(", mark ")"] :=
    Parameters.intro (by decide) Balanced.nil (by decide)
  have hInit : MethodDefinition "init" [word "init", mark "(", mark ")", mark "\x7b"] :=
    .shorthand .absent (.inl (by decide)) hEmpty ⟨by decide, by decide⟩
  refine ⟨hObject, (hMethods "init").mpr ⟨by decide, strayLiteral.body, by decide,
    _, [word "start", mark "\x7d"], rfl, hInit⟩, ?_⟩
  exact (hReplaced [word "init", mark "(", mark ")"] (mark "\x7b") [word "start"] (mark "\x7d") []
    [mark ","] rfl hPair (by decide) (by decide)).1

end SubmissionGate.Script
