import SubmissionGate.Proofs.Except
import SubmissionGate.Proofs.Script.Bodies

/-!
# The search for methods

The search for methods once more, by index and step: it asks for every token that it looks at, and
has no answer where the script has none, and it goes on behind a bracket wherever the closer of this
bracket stands, in as many steps as it is given. Neither ever fails it on a body of a script. A
bracket inside a body is closed inside it, so the walk over the body comes nearer to its end with
each step, and a form that stands at one of its members ends in the body too.
-/

namespace SubmissionGate.Script

open SubmissionGate.Rules

inductive SearchFault where
  | outside (index : Nat)
  | endless
  deriving DecidableEq, Repr

namespace Outline

section

variable (outline : Outline)

def tokenAt (index : Nat) : Except SearchFault Token :=
  match outline.tokens[index]? with
  | some token => .ok token
  | none => .error (.outside index)

/-- Where the walk over a body goes on behind a token. -/
def onward (index : Nat) (token : Token) : Nat :=
  match outline.closers.closerOf? index with
  | some closer => if token.opens?.isSome then closer + 1 else index + 1
  | none => index + 1

/-- The tokens of a body outside its brackets, each bracket standing for its inside. -/
def visits (stop index : Nat) : Nat → Except SearchFault (List (Nat × Token))
  | 0 => .error .endless
  | steps + 1 =>
    if index < stop then do
      let token ← outline.tokenAt index
      let rest ← visits stop (outline.onward index token) steps
      return (index, token) :: rest
    else return []

def positionsOf (body : Body) (visits : List (Nat × Token)) : List Nat :=
  match body.kind with
  | .object => body.start :: (visits.filter fun visit => isComma visit.2).map (·.1 + 1)
  | .classBody => visits.map (·.1)

/-- The index behind a form that stands at an index, if one does. -/
def matchEnd? (name : String) (stop : Nat) : Nat → List Atom → Except SearchFault (Option Nat)
  | index, [] => return some index
  | index, atom :: rest =>
    if index < stop then do
      let token ← outline.tokenAt index
      match atom with
      | .key => if token.key? == some name then matchEnd? name stop (index + 1) rest else return none
      | .parameters =>
        match outline.closers.closerOf? index with
        | some closer =>
          if token.isPunctuation "(" then matchEnd? name stop (closer + 1) rest else return none
        | none => return none
      | .identifier =>
        if token.kind == .name then matchEnd? name stop (index + 1) rest else return none
      | .token text =>
        if token.text == text && token.kind != .string then matchEnd? name stop (index + 1) rest
        else return none
    else return none

def searchForms (name : String) (stop index : Nat) :
    List DefinitionForm → Except SearchFault (Option String)
  | [] => return none
  | form :: forms => do
    match ← outline.matchEnd? name stop index form.atoms with
    | some _ => return some form.name
    | none => searchForms name stop index forms

def searchAt (specs : List RequiredMethod) (stop : Nat) (found : Table String) (index : Nat) :
    Except SearchFault (Table String) :=
  specs.foldlM
    (fun found spec => do
      if found.has spec.name then return found
      else
        match ← outline.searchForms spec.name stop index spec.patterns with
        | some form => return found ++ [(spec.name, form)]
        | none => return found)
    found

def searchBody (specs : List RequiredMethod) (steps : Nat) (found : Table String) (body : Body) :
    Except SearchFault (Table String) := do
  let visits ← outline.visits body.stop body.start steps
  (positionsOf body visits).foldlM (outline.searchAt specs body.stop) found

def search (specs : List RequiredMethod) (steps : Nat) (object : GameObject) :
    Except SearchFault (Table String) :=
  object.bodies.foldlM (outline.searchBody specs steps) []

end

/-! ## Within a body -/

variable {tokens : List Token} {body : Body} {index stop : Nat}

theorem tokenAt_ok (h : index < tokens.length) :
    ∃ token, (ofTokens tokens).tokens[index]? = some token ∧
      (ofTokens tokens).tokenAt index = .ok token := by
  refine ⟨tokens[index], ?_, ?_⟩
  · rw [tokens_ofTokens, List.getElem?_eq_getElem h]
  · rw [tokenAt, tokens_ofTokens, List.getElem?_eq_getElem h]

theorem onward_bounds (h : IsBody tokens body) (hStart : body.start ≤ index)
    (hStop : index < body.stop) (token : Token) :
    index < (ofTokens tokens).onward index token ∧
      (ofTokens tokens).onward index token ≤ body.stop := by
  unfold onward
  split
  · next closer hCloser =>
    have hBounds := h.closer_lt hStart hStop hCloser
    split <;> omega
  · omega

theorem skip_eq_onward {token : Token} (hToken : (ofTokens tokens).tokens[index]? = some token) :
    (ofTokens tokens).skip index = (ofTokens tokens).onward index token := by
  unfold skip onward
  simp only [hToken, Option.any_some]
  cases hCloser : (ofTokens tokens).closers.closerOf? index with
  | none => rfl
  | some closer =>
    have hBounds := closerOf?_bounds hCloser
    simp only
    rw [Nat.max_eq_left (by omega)]

/-! ## The walk over a body -/

theorem visits_ok (h : IsBody tokens body) {steps : Nat} (hStart : body.start ≤ index)
    (hStop : index ≤ body.stop) (hSteps : body.stop < index + steps) :
    ∃ found, (ofTokens tokens).visits body.stop index steps = .ok found ∧
      (∀ visit ∈ found, body.start ≤ visit.1 ∧ visit.1 < body.stop) ∧
      (∀ before, (ofTokens tokens).objectStarts index body.stop before =
        before.reverse ++ (found.filter fun visit => isComma visit.2).map (·.1 + 1)) ∧
      ∀ before, (ofTokens tokens).classStarts index body.stop before =
        before.reverse ++ found.map (·.1) := by
  induction steps generalizing index with
  | zero => omega
  | succ steps ih =>
    rw [visits]
    by_cases hInside : index < body.stop
    · obtain ⟨token, hToken, hOk⟩ := tokenAt_ok (Nat.lt_of_lt_of_le hInside h.bounds.2.2)
      have hNext := onward_bounds h hStart hInside token
      have hStart' : body.start ≤ (ofTokens tokens).onward index token := by omega
      obtain ⟨found, hFound, hWithin, hObject, hClass⟩ := ih hStart' hNext.2 (by omega)
      refine ⟨(index, token) :: found, ?_, ?_, ?_, ?_⟩
      · rw [if_pos hInside, hOk]
        simp only [bind, Except.bind, hFound]
        rfl
      · rintro visit (_ | ⟨_, hVisit⟩)
        · exact ⟨hStart, hInside⟩
        · exact hWithin visit hVisit
      · intro before
        have hComma : (ofTokens tokens).isPunctuation index "," = isComma token := by
          rw [isPunctuation, hToken]
          rfl
        rw [objectStarts, if_pos hInside]
        simp only [skip_eq_onward hToken, hObject, hComma]
        cases hKind : isComma token <;> simp [hKind]
      · intro before
        rw [classStarts, if_pos hInside]
        simp [skip_eq_onward hToken, hClass]
    · refine ⟨[], by rw [if_neg hInside]; rfl, by simp, ?_, ?_⟩
      · intro before
        rw [objectStarts, if_neg hInside]
        simp
      · intro before
        rw [classStarts, if_neg hInside]
        simp

/-- The walk over a body ends, and finds the positions of its members. -/
theorem positions_ok (h : IsBody tokens body) {steps : Nat} (hSteps : tokens.length < steps) :
    ∃ found, (ofTokens tokens).visits body.stop body.start steps = .ok found ∧
      positionsOf body found = (ofTokens tokens).memberPositions body ∧
      ∀ position ∈ positionsOf body found,
        body.start ≤ position ∧ position ≤ body.stop := by
  have hBounds := h.bounds
  have hEnough : body.stop < body.start + steps := by omega
  obtain ⟨found, hFound, hWithin, hObject, hClass⟩ :=
    visits_ok h (Nat.le_refl _) hBounds.2.1 hEnough
  refine ⟨found, hFound, ?_, ?_⟩
  · unfold positionsOf memberPositions
    cases body.kind with
    | object => exact (hObject [body.start]).symm
    | classBody => exact (hClass []).symm
  · unfold positionsOf
    cases body.kind with
    | object =>
      rintro position (_ | ⟨_, hPosition⟩)
      · omega
      · obtain ⟨visit, hVisit, rfl⟩ := List.mem_map.mp hPosition
        have := hWithin visit (List.mem_of_mem_filter hVisit)
        omega
    | classBody =>
      intro position hPosition
      obtain ⟨visit, hVisit, rfl⟩ := List.mem_map.mp hPosition
      have := hWithin visit hVisit
      omega

/-! ## Forms -/

theorem matchEnd?_ok (hStop : stop ≤ tokens.length) (name : String) (index : Nat)
    (atoms : List Atom) :
    ∃ result, (ofTokens tokens).matchEnd? name stop index atoms = .ok result ∧
      result.isSome = (ofTokens tokens).matchesForm name stop index atoms := by
  induction atoms generalizing index with
  | nil => exact ⟨some index, rfl, rfl⟩
  | cons atom atoms ih =>
    rw [matchEnd?, matchesForm]
    by_cases hInside : index < stop
    · obtain ⟨token, hToken, hOk⟩ := tokenAt_ok (Nat.lt_of_lt_of_le hInside hStop)
      rw [if_pos hInside, if_pos hInside, hOk, hToken]
      have hRest : ∀ (accepted : Bool) next, ∃ result,
          (if accepted = true then (ofTokens tokens).matchEnd? name stop next atoms
            else return none) = .ok result ∧
          result.isSome = (accepted && (ofTokens tokens).matchesForm name stop next atoms) := by
        intro accepted next
        cases accepted with
        | true => exact ih next
        | false => exact ⟨none, rfl, rfl⟩
      cases atom with
      | key => exact hRest _ _
      | parameters =>
        simp only [bind, Except.bind]
        cases (ofTokens tokens).closers.closerOf? index with
        | none => exact ⟨none, rfl, rfl⟩
        | some closer => exact hRest _ _
      | identifier => exact hRest _ _
      | token text => exact hRest _ _
    · rw [if_neg hInside, if_neg hInside]
      exact ⟨none, rfl, rfl⟩

theorem matchEnd?_within (h : IsBody tokens body) {name : String} {atoms : List Atom} {last : Nat}
    (hStart : body.start ≤ index) (hStop : index ≤ body.stop)
    (hMatch : (ofTokens tokens).matchEnd? name body.stop index atoms = .ok (some last)) :
    index ≤ last ∧ last ≤ body.stop := by
  induction atoms generalizing index with
  | nil =>
    cases hMatch
    omega
  | cons atom atoms ih =>
    rw [matchEnd?] at hMatch
    split at hMatch
    · next hInside =>
      obtain ⟨token, -, hOk⟩ := tokenAt_ok (Nat.lt_of_lt_of_le hInside h.bounds.2.2)
      rw [hOk] at hMatch
      have hRest : ∀ (accepted : Bool) next, index < next → next ≤ body.stop →
          (if accepted = true then (ofTokens tokens).matchEnd? name body.stop next atoms
            else return none) = .ok (some last) → index ≤ last ∧ last ≤ body.stop := by
        intro accepted next hMore hLess hFound
        cases accepted with
        | true =>
          have hFrom : body.start ≤ next := by omega
          have hRest := ih hFrom hLess hFound
          omega
        | false => cases hFound
      cases atom with
      | key => exact hRest _ _ (Nat.lt_succ_self index) hInside hMatch
      | parameters =>
        simp only [bind, Except.bind] at hMatch
        cases hCloser : (ofTokens tokens).closers.closerOf? index with
        | none =>
          rw [hCloser] at hMatch
          cases hMatch
        | some closer =>
          rw [hCloser] at hMatch
          have hBounds := h.closer_lt hStart hInside hCloser
          exact hRest _ _ (by omega) (by omega) hMatch
      | identifier => exact hRest _ _ (Nat.lt_succ_self index) hInside hMatch
      | token text => exact hRest _ _ (Nat.lt_succ_self index) hInside hMatch
    · cases hMatch

/-! ## The whole search -/

theorem searchForms_ok (hStop : stop ≤ tokens.length) (index : Nat) (name : String)
    (forms : List DefinitionForm) :
    (ofTokens tokens).searchForms name stop index forms =
      .ok ((forms.find? fun form =>
        (ofTokens tokens).matchesForm name stop index form.atoms).map (·.name)) := by
  induction forms with
  | nil => rfl
  | cons form forms ih =>
    obtain ⟨result, hOk, hResult⟩ := matchEnd?_ok hStop name index form.atoms
    rw [searchForms, hOk, List.find?_cons, ← hResult]
    cases result with
    | none => exact ih
    | some last => rfl

theorem searchAt_ok (hStop : stop ≤ tokens.length) (specs : List RequiredMethod) (index : Nat)
    (found : Table String) :
    (ofTokens tokens).searchAt specs stop found index =
      .ok ((ofTokens tokens).methodsAt specs stop index found) := by
  apply Except.foldlM_eq_ok
  intro spec _ found
  rw [searchForms_ok hStop, ← matchedPattern?]
  cases found.has spec.name with
  | true => rfl
  | false =>
    simp only [bind, Except.bind, Bool.false_eq_true, if_false]
    cases (ofTokens tokens).matchedPattern? spec stop index <;> rfl

theorem searchBody_ok (h : IsBody tokens body) {steps : Nat} (hSteps : tokens.length < steps)
    (specs : List RequiredMethod) (found : Table String) :
    (ofTokens tokens).searchBody specs steps found body =
      .ok (((ofTokens tokens).memberPositions body).foldl
        (fun found index => (ofTokens tokens).methodsAt specs body.stop index found) found) := by
  obtain ⟨visits, hVisits, hPositions, -⟩ := positions_ok h hSteps
  rw [searchBody, hVisits]
  simp only [bind, Except.bind]
  rw [hPositions]
  apply Except.foldlM_eq_ok
  intro index _ found
  exact searchAt_ok h.bounds.2.2 specs index found

/-- The game object is the first assignment that can hold an object. Its bodies lie in the script,
each behind a brace; the search for methods in them asks for no token outside the script, comes to
an end, and each form that it finds at a member lies within the body. -/
theorem gameObject?_searchable (globalName objectName : String) (tokens : List Token) :
    let outline := ofTokens tokens
    ((outline.gameObject? globalName objectName).isSome = true ↔
      ∃ index, Qualifies globalName objectName tokens index) ∧
    ∀ object, outline.gameObject? globalName objectName = some object →
      IsLeast {index | Qualifies globalName objectName tokens index} object.tokenIndex ∧
      (∀ body ∈ object.bodies, 0 < body.start ∧ body.start ≤ body.stop ∧
        body.stop ≤ tokens.length ∧
        (tokens[body.start - 1]?).map Token.lexeme = some (.punctuation, "\x7b")) ∧
      ∀ (specs : List RequiredMethod) steps, tokens.length < steps →
        outline.search specs steps object = .ok (outline.methods object specs) ∧
        ∀ body ∈ object.bodies, ∃ visits,
          outline.visits body.stop body.start steps = .ok visits ∧
          ∀ index ∈ positionsOf body visits, ∀ spec ∈ specs, ∀ form ∈ spec.patterns, ∀ last,
            outline.matchEnd? spec.name body.stop index form.atoms = .ok (some last) →
              body.start ≤ index ∧ index ≤ last ∧ last ≤ body.stop := by
  intro outline
  refine ⟨gameObject?_isSome_iff, ?_⟩
  intro object hObject
  obtain ⟨hLeast, hBodies⟩ := gameObject?_some hObject
  refine ⟨hLeast, ?_, ?_⟩
  · intro body hBody
    obtain ⟨hPos, hOrder, hInside⟩ := (hBodies body hBody).bounds
    obtain ⟨opener, hBrace, hStart, -⟩ := hBodies body hBody
    refine ⟨hPos, hOrder, hInside, ?_⟩
    rw [hStart, Nat.add_sub_cancel, ← isPunctuation_ofTokens]
    exact hBrace
  · intro specs steps hSteps
    constructor
    · apply Except.foldlM_eq_ok
      intro body hBody found
      exact searchBody_ok (hBodies body hBody) hSteps specs found
    · intro body hBody
      obtain ⟨visits, hVisits, -, hWithin⟩ := positions_ok (hBodies body hBody) hSteps
      refine ⟨visits, hVisits, ?_⟩
      intro index hIndex spec _ form _ last hMatch
      obtain ⟨hStart, hStop⟩ := hWithin index hIndex
      exact ⟨hStart, matchEnd?_within (hBodies body hBody) hStart hStop hMatch⟩

/-- `window.ClawmoGame={init(){`, where the script breaks off. -/
def brokenOff : List Token :=
  [⟨.name, "window", 0⟩, ⟨.punctuation, ".", 6⟩, ⟨.name, "ClawmoGame", 7⟩, ⟨.punctuation, "=", 17⟩,
    ⟨.punctuation, "\x7b", 18⟩, ⟨.name, "init", 19⟩, ⟨.punctuation, "(", 23⟩,
    ⟨.punctuation, ")", 24⟩, ⟨.punctuation, "\x7b", 25⟩]

def brokenOffObject : GameObject where
  form := .dot
  tokenIndex := 0
  scope := .literal
  bodies := [⟨5, 9, .object⟩]

/-- A body that nothing closes runs to the end of the script, and a form may end there. -/
theorem gameObject?_searchable_brokenOff :
    let outline := ofTokens brokenOff
    (∃ index, Qualifies "window" "ClawmoGame" brokenOff index) ∧
      outline.gameObject? "window" "ClawmoGame" = some brokenOffObject ∧
      brokenOff.length = 9 ∧
      outline.methods brokenOffObject requiredMethods = [("init", "shorthand")] ∧
      outline.matchEnd? "init" 9 5 [.key, .parameters, .token "\x7b"] = .ok (some 9) ∧
      5 ≤ 9 ∧ 9 ≤ 9 := by
  intro outline
  have hObject : outline.gameObject? "window" "ClawmoGame" = some brokenOffObject := by
    decide +kernel
  obtain ⟨hQualifies, hAll⟩ := gameObject?_searchable "window" "ClawmoGame" brokenOff
  obtain ⟨-, -, hSearch⟩ := hAll brokenOffObject hObject
  obtain ⟨hMethods, hForms⟩ := hSearch requiredMethods 10 (by decide)
  have hFound : outline.search requiredMethods 10 brokenOffObject =
      .ok [("init", "shorthand")] := by decide +kernel
  have hEnd : outline.matchEnd? "init" 9 5 [.key, .parameters, .token "\x7b"] = .ok (some 9) := by
    decide +kernel
  obtain ⟨visits, hVisits, hWithin⟩ := hForms ⟨5, 9, .object⟩ (by decide)
  have hStart : 5 ∈ positionsOf ⟨5, 9, .object⟩ visits := List.mem_cons_self
  have hInside := hWithin 5 hStart ⟨"init", definitionForms⟩ (by decide)
    ⟨"shorthand", [.key, .parameters, .token "\x7b"]⟩ (by decide) 9 hEnd
  refine ⟨hQualifies.mp (by rw [hObject]; rfl), hObject, rfl, ?_, hEnd, hInside.2⟩
  exact Except.ok.inj (hMethods.symm.trans hFound)

end Outline

end SubmissionGate.Script
