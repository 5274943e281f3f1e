import Mathlib.Data.List.Basic
import Mathlib.Data.List.Find
import SubmissionGate.Proofs.Script.Assignment
import SubmissionGate.Script.Member

/-!
# The grammar of members

The definition forms of a method as a grammar on token lists, beside the walk that looks for them by
index. Both see the surface of a body only: the tokens outside its brackets, with the opener of each
group in the place of the group. On the surface every atom of a form is one token, so the walk over
a body is a fold over the members that its commas separate.
-/

namespace SubmissionGate.Script

open SubmissionGate.Rules

def depthAfter (depth : Nat) (token : Token) : Nat :=
  if token.opens?.isSome then depth + 1 else if token.closes?.isSome then depth - 1 else depth

/-- The pieces between the commas outside all brackets. -/
def membersFrom : Nat → List Token → List (List Token)
  | _, [] => [[]]
  | depth, token :: rest =>
    if depth = 0 ∧ token.isPunctuation "," = true then [] :: membersFrom 0 rest
    else (membersFrom (depthAfter depth token) rest).modifyHead (token :: ·)

def members (body : List Token) : List (List Token) := membersFrom 0 body

def surfaceFrom : Nat → List Token → List Token
  | _, [] => []
  | depth, token :: rest =>
    if depth = 0 then token :: surfaceFrom (depthAfter depth token) rest
    else surfaceFrom (depthAfter depth token) rest

/-- The tokens outside all brackets, with the opener of each group for the group. -/
def surface (tokens : List Token) : List Token := surfaceFrom 0 tokens

def isComma (token : Token) : Bool := token.isPunctuation ","

/-- Words and punctuation stand for themselves; a string never does. -/
def Token.IsCode (token : Token) (text : String) : Prop := token.text = text ∧ token.kind ≠ .string

def IsKey (name : String) (token : Token) : Prop :=
  token.lexeme = (.name, name) ∨ token.lexeme = (.string, "'" ++ name ++ "'") ∨
    token.lexeme = (.string, "\"" ++ name ++ "\"")

inductive AsyncMark : List Token → Prop
  | absent : AsyncMark []
  | present {word : Token} (hWord : word.IsCode "async") : AsyncMark [word]

inductive Parameters : List Token → Prop
  | intro {opener closer : Token} {inner : List Token} (hOpener : opener.isPunctuation "(" = true)
      (hInner : Balanced inner) (hCloser : closer.isPunctuation ")" = true) :
      Parameters (opener :: (inner ++ [closer]))

/-- The beginnings of a member that defines the method of a name. -/
inductive MethodDefinition (name : String) : List Token → Prop
  | functionProperty {key colon word : Token} {mark : List Token} (hKey : IsKey name key)
      (hColon : colon.IsCode ":") (hMark : AsyncMark mark) (hWord : word.IsCode "function") :
      MethodDefinition name (key :: colon :: (mark ++ [word]))
  | shorthand {key brace : Token} {mark parameters : List Token} (hMark : AsyncMark mark)
      (hKey : IsKey name key) (hParameters : Parameters parameters)
      (hBrace : brace.IsCode "\x7b") :
      MethodDefinition name (mark ++ key :: (parameters ++ [brace]))
  | arrow {key colon arrow : Token} {mark parameters : List Token} (hKey : IsKey name key)
      (hColon : colon.IsCode ":") (hMark : AsyncMark mark) (hParameters : Parameters parameters)
      (hArrow : arrow.IsCode "=>") :
      MethodDefinition name (key :: colon :: (mark ++ (parameters ++ [arrow])))
  | bareArrow {key colon parameter arrow : Token} {mark : List Token} (hKey : IsKey name key)
      (hColon : colon.IsCode ":") (hMark : AsyncMark mark) (hParameter : parameter.kind = .name)
      (hArrow : arrow.IsCode "=>") :
      MethodDefinition name (key :: colon :: (mark ++ [parameter, arrow]))

/-! ## Brackets and surfaces -/

theorem opens?_cases {token : Token} {kind : BracketKind} (h : token.opens? = some kind) :
    token.kind = .punctuation ∧ (kind = .round ∧ token.text = "(" ∨
      kind = .square ∧ token.text = "[" ∨ kind = .curly ∧ token.text = "\x7b") := by
  unfold Token.opens? at h
  split at h
  · cases h
  · next hKind =>
    refine ⟨by simpa using hKind, ?_⟩
    split at h
    · next hText =>
      cases h
      exact .inl ⟨rfl, by simpa using hText⟩
    · split at h
      · next hText =>
        cases h
        exact .inr (.inl ⟨rfl, by simpa using hText⟩)
      · split at h
        · next hText =>
          cases h
          exact .inr (.inr ⟨rfl, by simpa using hText⟩)
        · cases h

theorem opens?_round {token : Token} :
    token.isPunctuation "(" = true ↔ token.opens? = some .round := by
  constructor
  · intro h
    simp only [Token.isPunctuation, Bool.and_eq_true, beq_iff_eq] at h
    simp [Token.opens?, h.1, h.2]
  · intro h
    obtain ⟨hKind, ⟨-, hText⟩ | ⟨hOther, -⟩ | ⟨hOther, -⟩⟩ := opens?_cases h
    · simp [Token.isPunctuation, hKind, hText]
    · cases hOther
    · cases hOther

theorem closes?_round {token : Token} :
    token.isPunctuation ")" = true ↔ token.closes? = some .round := by
  constructor
  · intro h
    simp only [Token.isPunctuation, Bool.and_eq_true, beq_iff_eq] at h
    simp [Token.closes?, h.1, h.2]
  · intro h
    unfold Token.closes? at h
    by_cases hKind : token.kind = .punctuation
    · by_cases hText : token.text = ")"
      · simp [Token.isPunctuation, hKind, hText]
      · simp only [hKind, hText, bne_self_eq_false, Bool.false_eq_true, if_false,
          beq_iff_eq] at h
        split at h
        · cases h
        · split at h <;> cases h
    · simp [hKind] at h

theorem isPlain_comma {token : Token} (h : isComma token = true) : token.IsPlain := by
  simp only [isComma, Token.isPunctuation, Bool.and_eq_true, beq_iff_eq] at h
  simp [Token.IsPlain, Token.opens?, Token.closes?, h.1, h.2]

theorem Partners.isComma_opener {opener closer : Token} (h : Partners opener closer) :
    isComma opener = false := by
  obtain ⟨kind, hOpens, -⟩ := h
  cases hComma : isComma opener with
  | false => rfl
  | true =>
    rw [(isPlain_comma hComma).1] at hOpens
    cases hOpens

theorem depthAfter_plain {token : Token} (h : token.IsPlain) (depth : Nat) :
    depthAfter depth token = depth := by
  simp [depthAfter, h.1, h.2]

theorem Partners.depthAfter {opener closer : Token} (h : Partners opener closer) (depth : Nat) :
    depthAfter depth opener = depth + 1 ∧ depthAfter (depth + 1) closer = depth := by
  obtain ⟨kind, hOpens, hCloses⟩ := h
  simp [Script.depthAfter, hOpens, hCloses, Token.opens?_of_closes? hCloses]

theorem Partners.round {opener closer : Token} (h : Partners opener closer)
    (hOpener : opener.isPunctuation "(" = true) : closer.isPunctuation ")" = true := by
  obtain ⟨kind, hOpens, hCloses⟩ := h
  rw [opens?_round, hOpens] at hOpener
  cases hOpener
  exact closes?_round.mpr hCloses

theorem partners_round {opener closer : Token} (hOpener : opener.isPunctuation "(" = true)
    (hCloser : closer.isPunctuation ")" = true) : Partners opener closer :=
  ⟨.round, opens?_round.mp hOpener, closes?_round.mp hCloser⟩

theorem surfaceFrom_balanced {tokens : List Token} (h : Balanced tokens) (depth : Nat)
    (rest : List Token) :
    surfaceFrom (depth + 1) (tokens ++ rest) = surfaceFrom (depth + 1) rest := by
  induction h generalizing depth rest with
  | nil => rfl
  | plain hPlain _ ih =>
    rw [List.cons_append, surfaceFrom, if_neg (Nat.succ_ne_zero depth), depthAfter_plain hPlain, ih]
  | group hPair _ _ ihInner ihRest =>
    obtain ⟨hOpener, hCloser⟩ := hPair.depthAfter (depth + 1)
    rw [List.cons_append, List.append_assoc, List.cons_append, surfaceFrom,
      if_neg (Nat.succ_ne_zero depth), hOpener, ihInner, surfaceFrom,
      if_neg (Nat.succ_ne_zero _), hCloser, ihRest]

theorem surfaceFrom_group {opener closer : Token} {inner : List Token}
    (hPair : Partners opener closer) (hInner : Balanced inner) (depth : Nat) (rest : List Token) :
    surfaceFrom depth (opener :: (inner ++ closer :: rest)) =
      if depth = 0 then opener :: surfaceFrom depth rest else surfaceFrom depth rest := by
  obtain ⟨hOpener, hCloser⟩ := hPair.depthAfter depth
  have hBehind : surfaceFrom (depth + 1) (inner ++ closer :: rest) = surfaceFrom depth rest := by
    rw [surfaceFrom_balanced hInner, surfaceFrom, if_neg (Nat.succ_ne_zero depth), hCloser]
  rw [surfaceFrom, hOpener, hBehind]

theorem surface_group {opener closer : Token} {inner : List Token}
    (hPair : Partners opener closer) (hInner : Balanced inner) (rest : List Token) :
    surface (opener :: (inner ++ closer :: rest)) = opener :: surface rest := by
  unfold surface
  rw [surfaceFrom_group hPair hInner, if_pos rfl]

/-- The surface of tokens stays when the inside of a group is replaced. -/
theorem surfaceFrom_replace {opener closer : Token} {inner other : List Token}
    (hPair : Partners opener closer) (hInner : Balanced inner) (hOther : Balanced other)
    (front behind : List Token) (depth : Nat) :
    surfaceFrom depth (front ++ opener :: (other ++ closer :: behind)) =
      surfaceFrom depth (front ++ opener :: (inner ++ closer :: behind)) := by
  induction front generalizing depth with
  | nil =>
    rw [List.nil_append, List.nil_append, surfaceFrom_group hPair hOther,
      surfaceFrom_group hPair hInner]
  | cons token front ih => rw [List.cons_append, List.cons_append, surfaceFrom, surfaceFrom, ih]

theorem surface_plain {token : Token} (h : token.IsPlain) (rest : List Token) :
    surface (token :: rest) = token :: surface rest := by
  unfold surface
  rw [surfaceFrom, if_pos rfl, depthAfter_plain h]

theorem membersFrom_balanced {tokens : List Token} (h : Balanced tokens) (depth : Nat)
    (rest : List Token) :
    membersFrom (depth + 1) (tokens ++ rest) =
      (membersFrom (depth + 1) rest).modifyHead (tokens ++ ·) := by
  induction h generalizing depth rest with
  | nil => cases hMembers : membersFrom (depth + 1) rest <;> simp [hMembers]
  | plain hPlain _ ih =>
    rw [List.cons_append, membersFrom, if_neg (by simp), depthAfter_plain hPlain, ih,
      List.modifyHead_modifyHead]
    rfl
  | group hPair _ _ ihInner ihRest =>
    obtain ⟨hOpener, hCloser⟩ := hPair.depthAfter (depth + 1)
    rw [List.cons_append, List.append_assoc, List.cons_append, membersFrom, if_neg (by simp),
      hOpener,
      ihInner, membersFrom, if_neg (by simp), hCloser, ihRest, List.modifyHead_modifyHead,
      List.modifyHead_modifyHead, List.modifyHead_modifyHead]
    congr 1
    funext member
    simp

theorem members_group {opener closer : Token} {inner : List Token}
    (hPair : Partners opener closer) (hInner : Balanced inner) (rest : List Token) :
    members (opener :: (inner ++ closer :: rest)) =
      (members rest).modifyHead fun member => opener :: (inner ++ closer :: member) := by
  obtain ⟨hOpener, hCloser⟩ := hPair.depthAfter 0
  have hNoComma : ¬ (0 = 0 ∧ opener.isPunctuation "," = true) := by
    rw [← isComma, hPair.isComma_opener]
    simp
  unfold members
  rw [membersFrom, if_neg hNoComma, hOpener, membersFrom_balanced hInner, membersFrom,
    if_neg (by simp), hCloser, List.modifyHead_modifyHead, List.modifyHead_modifyHead]
  rfl

theorem members_comma {token : Token} (h : isComma token = true) (rest : List Token) :
    members (token :: rest) = [] :: members rest := by
  unfold members
  rw [membersFrom, if_pos ⟨rfl, h⟩]

theorem members_plain {token : Token} (hPlain : token.IsPlain) (h : isComma token = false)
    (rest : List Token) : members (token :: rest) = (members rest).modifyHead (token :: ·) := by
  unfold members
  have hNoComma : ¬ (0 = 0 ∧ token.isPunctuation "," = true) := by
    rintro ⟨-, hComma⟩
    rw [isComma, hComma] at h
    cases h
  rw [membersFrom, if_neg hNoComma, depthAfter_plain hPlain]

theorem membersFrom_ne_nil (depth : Nat) (body : List Token) : membersFrom depth body ≠ [] := by
  induction body generalizing depth with
  | nil => simp [membersFrom]
  | cons token rest ih =>
    rw [membersFrom]
    split
    · simp
    · simpa using ih (depthAfter depth token)

/-- The members of a body are balanced, and their surfaces are what the commas leave of its own. -/
theorem members_surface {body : List Token} (h : Balanced body) :
    (∀ member ∈ members body, Balanced member) ∧
      (members body).map surface = (surface body).splitOnP isComma := by
  induction h with
  | nil => simp [members, membersFrom, surface, surfaceFrom, Balanced.nil]
  | @plain token rest hPlain _ ih =>
    obtain ⟨hBalanced, hSurface⟩ := ih
    rw [surface_plain hPlain, List.splitOnP_cons_eq_if_modifyHead, ← hSurface]
    cases hComma : isComma token with
    | true =>
      rw [members_comma hComma, if_pos rfl]
      refine ⟨fun member hMember => ?_, rfl⟩
      rcases List.mem_cons.mp hMember with rfl | hRest
      · exact .nil
      · exact hBalanced member hRest
    | false =>
      rw [members_plain hPlain hComma, if_neg (by simp)]
      cases hMembers : members rest with
      | nil => exact absurd hMembers (membersFrom_ne_nil 0 rest)
      | cons first others =>
        rw [hMembers, List.forall_mem_cons] at hBalanced
        simp only [List.modifyHead_cons, List.map_cons, surface_plain hPlain, List.forall_mem_cons]
        exact ⟨⟨.plain hPlain hBalanced.1, hBalanced.2⟩, trivial⟩
  | @group opener closer inner rest hPair hInner _ _ ih =>
    obtain ⟨hBalanced, hSurface⟩ := ih
    rw [surface_group hPair hInner, List.splitOnP_cons_eq_if_modifyHead, ← hSurface,
      hPair.isComma_opener,
      if_neg (by simp), members_group hPair hInner]
    cases hMembers : members rest with
    | nil => exact absurd hMembers (membersFrom_ne_nil 0 rest)
    | cons first others =>
      rw [hMembers, List.forall_mem_cons] at hBalanced
      simp only [List.modifyHead_cons, List.map_cons, surface_group hPair hInner,
        List.forall_mem_cons]
      exact ⟨⟨.group hPair hInner hBalanced.1, hBalanced.2⟩, trivial⟩

/-! ## Forms on a surface -/

def isOneOf (texts : List String) : Atom → Bool
  | .token text => texts.contains text
  | _ => false

/-- No atom asks for a comma, and an opening bracket is asked for at the end only. -/
def isShallow : List Atom → Bool
  | [] => true
  | atom :: rest =>
    !isOneOf [","] atom && (rest.isEmpty || !isOneOf ["(", "[", "\x7b"] atom) && isShallow rest

theorem definitionForms_shallow :
    ∀ form ∈ definitionForms, isShallow form.atoms = true := by decide

/-- Whether a token of a surface is what an atom asks for. -/
def accepts (name : String) (token : Token) : Atom → Bool
  | .key => token.key? == some name
  | .parameters => token.isPunctuation "("
  | .identifier => token.kind == .name
  | .token text => token.text == text && token.kind != .string

/-- Whether a surface starts with what the atoms ask for, one token for each. -/
def fits (name : String) : List Atom → List Token → Bool
  | [], _ => true
  | _ :: _, [] => false
  | atom :: atoms, token :: rest => accepts name token atom && fits name atoms rest

theorem key?_of_punctuation {token : Token} (h : token.kind = .punctuation) :
    token.key? = none := by
  simp [Token.key?, h]

theorem accepts_opener {name : String} {opener : Token} {kind : BracketKind} {atom : Atom}
    {atoms : List Atom} (hOpens : opener.opens? = some kind)
    (hShallow : isShallow (atom :: atoms) = true) (h : accepts name opener atom = true) :
    atom = .parameters ∧ opener.isPunctuation "(" = true ∨ atoms = [] := by
  obtain ⟨hKind, hText⟩ := opens?_cases hOpens
  cases atom with
  | key => simp [accepts, key?_of_punctuation hKind] at h
  | parameters => exact .inl ⟨rfl, h⟩
  | identifier => simp [accepts, hKind] at h
  | token text =>
    right
    simp only [accepts, Bool.and_eq_true, beq_iff_eq] at h
    obtain rfl := h.1
    simp only [isShallow, isOneOf, Bool.and_eq_true, Bool.or_eq_true, List.isEmpty_iff] at hShallow
    rcases hShallow.1.2 with hLast | hNone
    · exact hLast
    · rcases hText with ⟨-, hText⟩ | ⟨-, hText⟩ | ⟨-, hText⟩ <;> simp [hText] at hNone

theorem not_accepts_comma {name : String} {comma : Token} {atom : Atom} {atoms : List Atom}
    (hComma : isComma comma = true) (hShallow : isShallow (atom :: atoms) = true) :
    accepts name comma atom = false := by
  simp only [isComma, Token.isPunctuation, Bool.and_eq_true, beq_iff_eq] at hComma
  obtain ⟨hKind, hText⟩ := hComma
  cases atom with
  | key => simp [accepts, key?_of_punctuation hKind]
  | parameters => simp [accepts, Token.isPunctuation, hText]
  | identifier => simp [accepts, hKind]
  | token text =>
    simp only [isShallow, isOneOf, Bool.and_eq_true] at hShallow
    have hOther : text ≠ "," := by
      rintro rfl
      simp at hShallow
    simp [accepts, hText, Ne.symm hOther]

theorem isShallow_tail {atom : Atom} {atoms : List Atom}
    (h : isShallow (atom :: atoms) = true) : isShallow atoms = true := by
  simp only [isShallow, Bool.and_eq_true] at h
  exact h.2

/-- Where tokens are shown, a form that stands among them stands on their surface. -/
theorem matchesForm_eq_fits {outline : Outline} {index : Nat} {tokens : List Token}
    (h : outline.Shows index tokens) (name : String) {atoms : List Atom}
    (hShallow : isShallow atoms = true) {stop : Nat} (hStop : stop = index + tokens.length) :
    outline.matchesForm name stop index atoms = fits name atoms (surface tokens) := by
  induction h generalizing atoms with
  | nil index =>
    cases atoms with
    | nil => rfl
    | cons atom atoms => rw [Outline.matchesForm, if_neg (by simp [hStop])]; rfl
  | @plain index token rest hPlain hToken _ ih =>
    cases atoms with
    | nil => rfl
    | cons atom atoms =>
      have hNext := ih (isShallow_tail hShallow) (by rw [hStop, List.length_cons]; omega)
      have hInside : index < stop := by rw [hStop, List.length_cons]; omega
      have hNoOpener : token.isPunctuation "(" = false := by
        rw [Bool.eq_false_iff, ne_eq, opens?_round, hPlain.1]
        simp
      rw [Outline.matchesForm, if_pos hInside, hToken, surface_plain hPlain, fits]
      cases atom with
      | key => simp only [accepts, hNext]
      | parameters =>
        simp only [accepts, hNoOpener, Bool.false_and]
        split <;> rfl
      | identifier => simp only [accepts, hNext]
      | token text => simp only [accepts, hNext]
  | @group index opener closer inner rest hPair hToken hCloser hInner _ _ ih =>
    cases atoms with
    | nil => rfl
    | cons atom atoms =>
      have hLength : stop = index + 1 + inner.length + 1 + rest.length := by
        rw [hStop]
        simp only [List.length_cons, List.length_append]
        omega
      have hNext := ih (isShallow_tail hShallow) hLength
      obtain ⟨kind, hOpens, -⟩ := id hPair
      have hKey := key?_of_punctuation (opens?_cases hOpens).1
      rw [Outline.matchesForm, if_pos (by omega), hToken, surface_group hPair hInner.balanced, fits]
      cases atom with
      | key => simp [accepts, hKey]
      | parameters => simp only [accepts, hCloser, hNext]
      | identifier =>
        have hName : (opener.kind == .name) = false := by rw [(opens?_cases hOpens).1]; rfl
        simp only [accepts, hName, Bool.false_and]
      | token text =>
        simp only
        cases hAccepts : accepts name opener (.token text) with
        | false =>
          rw [accepts] at hAccepts
          rw [hAccepts]
          rfl
        | true =>
          rcases accepts_opener hOpens hShallow hAccepts with ⟨hOther, -⟩ | rfl
          · cases hOther
          · rw [accepts] at hAccepts
            rw [hAccepts]
            rfl

theorem fits_cut (name : String) {atoms : List Atom} (hShallow : isShallow atoms = true)
    {tokens first : List Token} {others : List (List Token)}
    (hSplit : tokens.splitOnP isComma = first :: others) :
    fits name atoms tokens = fits name atoms first := by
  induction tokens generalizing atoms first others with
  | nil =>
    simp only [List.splitOnP_nil, List.cons.injEq] at hSplit
    rw [hSplit.1]
  | cons token rest ih =>
    rw [List.splitOnP_cons_eq_if_modifyHead] at hSplit
    cases hComma : isComma token with
    | true =>
      rw [hComma, if_pos rfl] at hSplit
      cases hSplit
      cases atoms with
      | nil => rfl
      | cons atom atoms =>
        have hNone : accepts name token atom = false := not_accepts_comma hComma hShallow
        simp [fits, hNone]
    | false =>
      rw [hComma, if_neg (by simp)] at hSplit
      cases hRest : rest.splitOnP isComma with
      | nil => exact absurd hRest (List.splitOnP_ne_nil isComma rest)
      | cons front behind =>
        rw [hRest] at hSplit
        cases hSplit
        cases atoms with
        | nil => rfl
        | cons atom atoms => rw [fits, fits, ih (isShallow_tail hShallow) hRest]

/-! ## The methods of a body -/

/-- The name of the first form of a method that a member starts with. -/
def formIn? (spec : RequiredMethod) (member : List Token) : Option String :=
  (spec.patterns.find? fun pattern => fits spec.name pattern.atoms member).map (·.name)

/-- Adds the methods that a member defines to those found so far. -/
def methodsIn (specs : List RequiredMethod) (found : Table String) (member : List Token) :
    Table String :=
  specs.foldl
    (fun found spec =>
      if found.has spec.name then found
      else match formIn? spec member with
        | some pattern => found ++ [(spec.name, pattern)]
        | none => found)
    found

/-- The methods that the members of a body define, by their surface. -/
def surfaceMethods (specs : List RequiredMethod) (surface : List Token) : Table String :=
  (surface.splitOnP isComma).foldl (methodsIn specs) []

theorem formIn?_isSome {spec : RequiredMethod} {member : List Token} :
    (formIn? spec member).isSome = true ↔
      ∃ pattern ∈ spec.patterns, fits spec.name pattern.atoms member = true := by
  rw [formIn?, Option.isSome_map, List.find?_isSome]

theorem has_methodsIn {specs : List RequiredMethod} {found : Table String} {member : List Token}
    {name : String} :
    (methodsIn specs found member).has name = true ↔
      found.has name = true ∨ ∃ spec ∈ specs, spec.name = name ∧ (formIn? spec member).isSome := by
  unfold methodsIn
  induction specs generalizing found with
  | nil => simp
  | cons spec specs ih =>
    rw [List.foldl_cons, ih]
    simp only [List.mem_cons, exists_eq_or_imp]
    have hFirst : ∀ pattern, (found ++ [(spec.name, pattern)]).has name = true ↔
        found.has name = true ∨ spec.name = name := by simp [Table.has]
    by_cases hFound : found.has spec.name = true
    · simp only [hFound, if_true]
      by_cases hName : spec.name = name
      · subst hName
        simp [hFound]
      · simp [hName]
    · simp only [hFound, Bool.false_eq_true, if_false]
      cases formIn? spec member with
      | none => simp
      | some pattern => simp only [hFirst, Option.isSome_some, and_true, or_assoc]

theorem has_surfaceMethods {specs : List RequiredMethod} {surface : List Token} {name : String} :
    (surfaceMethods specs surface).has name = true ↔
      ∃ spec ∈ specs, spec.name = name ∧
        ∃ member ∈ surface.splitOnP isComma, (formIn? spec member).isSome := by
  have hRun : ∀ (parts : List (List Token)) (found : Table String),
      (parts.foldl (methodsIn specs) found).has name = true ↔
        found.has name = true ∨ ∃ spec ∈ specs, spec.name = name ∧
          ∃ member ∈ parts, (formIn? spec member).isSome := by
    intro parts
    induction parts with
    | nil => simp
    | cons part parts ih =>
      intro found
      rw [List.foldl_cons, ih, has_methodsIn, or_assoc]
      simp only [List.mem_cons, exists_eq_or_imp, and_or_left, exists_or]
  rw [surfaceMethods, hRun]
  simp [Table.has]

def AllShallow (specs : List RequiredMethod) : Prop :=
  ∀ spec ∈ specs, ∀ pattern ∈ spec.patterns, isShallow pattern.atoms = true

theorem methodsAt_eq {outline : Outline} {index : Nat} {tokens : List Token}
    (h : outline.Shows index tokens) {specs : List RequiredMethod} (hSpecs : AllShallow specs)
    {stop : Nat} (hStop : stop = index + tokens.length) {first : List Token}
    {others : List (List Token)} (hSplit : (surface tokens).splitOnP isComma = first :: others)
    (found : Table String) :
    outline.methodsAt specs stop index found = methodsIn specs found first := by
  unfold Outline.methodsAt methodsIn
  apply List.foldl_ext
  intro found spec hSpec
  have hForm : outline.matchedPattern? spec stop index = formIn? spec first := by
    unfold Outline.matchedPattern? formIn?
    congr 1
    apply List.find?_congr
    intro pattern hPattern
    have hShallow := hSpecs spec hSpec pattern hPattern
    rw [matchesForm_eq_fits h spec.name hShallow hStop, fits_cut spec.name hShallow hSplit]
  cases hFound : formIn? spec first with
  | none =>
    rw [hFound] at hForm
    simp only [hForm]
  | some form =>
    rw [hFound] at hForm
    simp only [hForm]

theorem skip_of_plain {outline : Outline} {index : Nat} {token : Token} (hPlain : token.IsPlain)
    (hToken : outline.tokens[index]? = some token) : outline.skip index = index + 1 := by
  unfold Outline.skip
  simp only [hToken, Option.any_some, hPlain.1, Option.isSome_none, Bool.false_eq_true, if_false]
  split <;> rfl

theorem skip_of_group {outline : Outline} {index closed : Nat} {opener : Token}
    {kind : BracketKind} (hOpens : opener.opens? = some kind)
    (hToken : outline.tokens[index]? = some opener)
    (hCloser : outline.closers.closerOf? index = some (index + 1 + closed)) :
    outline.skip index = index + 1 + closed + 1 := by
  unfold Outline.skip
  simp only [hToken, Option.any_some, hOpens, Option.isSome_some, if_true, hCloser]
  omega

theorem foldl_objectStarts {outline : Outline} {index : Nat} {tokens : List Token}
    (h : outline.Shows index tokens) {specs : List RequiredMethod} (hSpecs : AllShallow specs)
    {stop : Nat} (hStop : stop = index + tokens.length) (starts : List Nat) (found : Table String) :
    (outline.objectStarts index stop starts).foldl
        (fun found index => outline.methodsAt specs stop index found) found =
      ((surface tokens).splitOnP isComma).tail.foldl (methodsIn specs)
        (starts.reverse.foldl (fun found index => outline.methodsAt specs stop index found)
          found) := by
  induction h generalizing starts found with
  | nil index =>
    rw [Outline.objectStarts, if_neg (by simp [hStop])]
    rfl
  | @plain index token rest hPlain hToken hShows ih =>
    have hNext : stop = index + 1 + rest.length := by rw [hStop, List.length_cons]; omega
    have hComma : outline.isPunctuation index "," = isComma token := by
      rw [Outline.isPunctuation, hToken]
      rfl
    rw [Outline.objectStarts, if_pos (by omega)]
    simp only [skip_of_plain hPlain hToken]
    rw [ih hNext, surface_plain hPlain, List.splitOnP_cons_eq_if_modifyHead, hComma]
    cases isComma token with
    | true =>
      cases hSplit : (surface rest).splitOnP isComma with
      | nil => exact absurd hSplit (List.splitOnP_ne_nil isComma _)
      | cons first others =>
        simp only [if_true, List.reverse_cons, List.foldl_append, List.foldl_cons, List.foldl_nil,
          List.tail_cons, methodsAt_eq hShows hSpecs hNext hSplit]
    | false => simp
  | @group index opener closer inner rest hPair hToken hCloser hInner _ _ ih =>
    have hNext : stop = index + 1 + inner.length + 1 + rest.length := by
      rw [hStop]
      simp only [List.length_cons, List.length_append]
      omega
    have hNoComma : outline.isPunctuation index "," = false := by
      rw [Outline.isPunctuation, hToken, ← hPair.isComma_opener]
      rfl
    obtain ⟨kind, hOpens, -⟩ := id hPair
    rw [Outline.objectStarts, if_pos (by omega)]
    simp only [skip_of_group hOpens hToken hCloser]
    rw [ih hNext, surface_group hPair hInner.balanced, List.splitOnP_cons_eq_if_modifyHead,
      hPair.isComma_opener, hNoComma]
    simp

/-- The methods of an object literal are those that its members define. -/
theorem methods_of_shows {outline : Outline} {start : Nat} {body : List Token}
    (h : outline.Shows start body) {specs : List RequiredMethod} (hSpecs : AllShallow specs)
    (form : AssignmentForm) (index : Nat) (scope : Scope) :
    outline.methods ⟨form, index, scope, [⟨start, start + body.length, .object⟩]⟩ specs =
      surfaceMethods specs (surface body) := by
  unfold Outline.methods surfaceMethods
  rw [List.foldl_cons, List.foldl_nil, Outline.memberPositions]
  simp only
  rw [foldl_objectStarts h hSpecs rfl]
  cases hSplit : (surface body).splitOnP isComma with
  | nil => exact absurd hSplit (List.splitOnP_ne_nil isComma _)
  | cons first others =>
    simp only [List.reverse_singleton, List.foldl_cons, List.foldl_nil, List.tail_cons,
      methodsAt_eq h hSpecs rfl hSplit]

end SubmissionGate.Script
