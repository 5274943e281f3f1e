import SubmissionGate.Script.Outline

/-!
# The game object

A game publishes itself by assigning an object to a property of a global, written with a dot or with
a quoted key. The first assignment whose value can be an object counts. Its scope says which bodies
may hold the methods: the object literal itself, the literal or class behind a variable, or every
object and class body of the script where the value is any other expression.
-/

namespace SubmissionGate.Script

inductive BodyKind where
  | object
  | classBody
  deriving DecidableEq, Repr

/-- The tokens with an index in `[start, stop)` inside an object literal or a class body. -/
structure Body where
  start : Nat
  stop : Nat
  kind : BodyKind
  deriving DecidableEq, Repr

inductive AssignmentForm where
  | dot
  | bracketSingle
  | bracketDouble
  deriving DecidableEq, Repr

inductive Scope where
  | literal
  | declaration
  | constructed
  | members
  deriving DecidableEq, Repr

structure GameObject where
  form : AssignmentForm
  tokenIndex : Nat
  scope : Scope
  bodies : List Body
  deriving DecidableEq, Repr

def valueWords : List String :=
  ["null", "undefined", "true", "false", "NaN", "Infinity", "void", "typeof"]

def declarationWords : List String := ["const", "let", "var"]

def marksBeforeObject : List String := ["=", "(", ",", ":", "[", "?", "|", "&"]

def wordsBeforeObject : List String := ["return", "yield", "await"]

/-- How many tokens before a brace are searched for the word `class`. -/
def classReach : Nat := 6

namespace Outline

variable (outline : Outline)

def headerBrace (index : Nat) : Option Nat :=
  if index < outline.size then
    if outline.isPunctuation index "\x7b" then some index
    else if outline.isPunctuation index ";" || outline.isPunctuation index "\x7d" then none
    else headerBrace (index + 1)
  else none
termination_by outline.size - index

/-- Where the header of a class with this name goes on, if the class is introduced at an index. -/
def classHeader? (name : String) (index : Nat) : Option Nat :=
  if outline.isName index "class" && outline.isName (index + 1) name then some (index + 2)
  else if outline.isName index name && outline.isPunctuation (index + 1) "="
      && outline.isName (index + 2) "class" then some (index + 3)
  else none

def classBody? (nameIndex : Nat) : Option Body :=
  match outline.tokens[nameIndex]? with
  | none => none
  | some token =>
    if token.kind != .name then none
    else
      let opener := (List.range outline.size).findSome? fun index =>
        (outline.classHeader? token.text index).bind outline.headerBrace
      opener.map fun opener => ⟨opener + 1, outline.bodyEnd opener, .classBody⟩

def followsClass (index : Nat) : Nat → Bool
  | 0 => false
  | reach + 1 =>
    match outline.tokens[index]? with
    | none => false
    | some token =>
      if token.isName "class" then true
      else if token.kind == .name || token.isPunctuation "." then
        if index == 0 then false else followsClass (index - 1) reach
      else false

def bodyKind? (opener : Nat) : Option BodyKind :=
  if opener == 0 then none
  else match outline.tokens[opener - 1]? with
    | none => none
    | some before =>
      if before.kind == .punctuation && marksBeforeObject.contains before.text then some .object
      else if before.kind == .name && wordsBeforeObject.contains before.text then some .object
      else if outline.followsClass (opener - 1) classReach then some .classBody
      else none

def closedBodies : List Body :=
  outline.closers.toPairs.filterMap fun (opener, closer) =>
    if (outline.tokens[opener]?).any fun token => token.text == "\x7b" then
      (outline.bodyKind? opener).map fun kind => ⟨opener + 1, closer, kind⟩
    else none

def completesValue (index : Nat) : Bool :=
  match outline.tokens[index]? with
  | none => true
  | some token =>
    token.kind == .name || (token.kind == .punctuation &&
      (token.text == ";" || token.text == "," || token.text == ")" || token.text == "\x7d"))

def startsBinding (index : Nat) : Bool :=
  match index with
  | 0 => true
  | before + 1 =>
    match outline.tokens[before]? with
    | none => true
    | some token =>
      !token.isPunctuation "." &&
        (declarationWords.contains token.text || token.kind == .punctuation)

def bindingAt? (variableName : String) (index : Nat) : Option (Scope × Body) :=
  if outline.isName index variableName && outline.isPunctuation (index + 1) "="
      && outline.startsBinding index then
    if outline.isPunctuation (index + 2) "\x7b" then
      some (.declaration, ⟨index + 3, outline.bodyEnd (index + 2), .object⟩)
    else if outline.isName (index + 2) "new" then
      (outline.classBody? (index + 3)).map fun body => (.constructed, body)
    else none
  else none

def resolve? (valueIndex : Nat) : Option (Scope × List Body) :=
  match outline.tokens[valueIndex]? with
  | none => none
  | some value =>
    if value.isPunctuation "\x7b" then
      some (.literal, [⟨valueIndex + 1, outline.bodyEnd valueIndex, .object⟩])
    else if value.kind == .name then
      if valueWords.contains value.text then none
      else
        let found : Option (Scope × Body) :=
          if value.text == "new" then
            (outline.classBody? (valueIndex + 1)).map fun body => (.constructed, body)
          else if outline.completesValue (valueIndex + 1) then
            (List.range outline.size).findSome? (outline.bindingAt? value.text)
          else none
        match found with
        | some (scope, body) => some (scope, [body])
        | none => some (.members, outline.closedBodies)
    else if value.isPunctuation "(" then some (.members, outline.closedBodies)
    else none

/-- The form of an assignment to the property at an index, and the index of its value. -/
def assignment? (globalName objectName : String) (index : Nat) :
    Option (AssignmentForm × Nat) :=
  if !outline.isName index globalName then none
  else if 0 < index && outline.isPunctuation (index - 1) "." then none
  else if outline.isPunctuation (index + 1) "." && outline.isName (index + 2) objectName
      && outline.isPunctuation (index + 3) "=" then some (.dot, index + 4)
  else if outline.isPunctuation (index + 1) "[" && outline.isPunctuation (index + 3) "]"
      && outline.isPunctuation (index + 4) "=" then
    match outline.tokens[index + 2]? with
    | none => none
    | some key =>
      if key.kind != .string then none
      else if key.text == "'" ++ objectName ++ "'" then some (.bracketSingle, index + 5)
      else if key.text == "\"" ++ objectName ++ "\"" then some (.bracketDouble, index + 5)
      else none
  else none

def gameObjectAt? (globalName objectName : String) (index : Nat) : Option GameObject := do
  let (form, valueIndex) ← outline.assignment? globalName objectName index
  let (scope, bodies) ← outline.resolve? valueIndex
  some ⟨form, index, scope, bodies⟩

def gameObject? (globalName objectName : String) : Option GameObject :=
  (List.range outline.size).findSome? (outline.gameObjectAt? globalName objectName)

end Outline

end SubmissionGate.Script
