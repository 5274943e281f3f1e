import SubmissionGate.Rules.Method
import SubmissionGate.Script.GameObject
import SubmissionGate.Table

/-!
# Methods of the game object

A method is found where one of its definition forms stands at the start of a member. Members of an
object literal start behind its brace and behind each comma outside nested brackets; in a class body
every position outside nested brackets may start one.
-/

namespace SubmissionGate.Script

open SubmissionGate.Rules

def Token.key? (token : Token) : Option String :=
  match token.kind with
  | .name => some token.text
  | .string =>
    match token.text.toList with
    | first :: second :: rest =>
      if (first == '\'' || first == '"') && (second :: rest).getLast? == some first then
        some (String.ofList (second :: rest).dropLast)
      else none
    | _ => none
  | _ => none

namespace Outline

variable (outline : Outline)

/-- Whether a form stands at an index, within the tokens before `stop`. -/
def matchesForm (name : String) (stop : Nat) : Nat → List Atom → Bool
  | _, [] => true
  | index, atom :: rest =>
    if index < stop then
      match outline.tokens[index]? with
      | none => false
      | some token =>
        match atom with
        | .key => token.key? == some name && matchesForm name stop (index + 1) rest
        | .parameters =>
          match outline.closers.closerOf? index with
          | some closer => token.isPunctuation "(" && matchesForm name stop (closer + 1) rest
          | none => false
        | .identifier => token.kind == .name && matchesForm name stop (index + 1) rest
        | .token text =>
          token.text == text && token.kind != .string && matchesForm name stop (index + 1) rest
    else false

def matchedPattern? (spec : RequiredMethod) (stop index : Nat) : Option String :=
  (spec.patterns.find? fun pattern =>
    outline.matchesForm spec.name stop index pattern.atoms).map (·.name)

def objectStarts (index stop : Nat) (found : List Nat) : List Nat :=
  if index < stop then
    let found := if outline.isPunctuation index "," then (index + 1) :: found else found
    have := outline.lt_skip index
    objectStarts (outline.skip index) stop found
  else found.reverse
termination_by stop - index

def classStarts (index stop : Nat) (found : List Nat) : List Nat :=
  if index < stop then
    have := outline.lt_skip index
    classStarts (outline.skip index) stop (index :: found)
  else found.reverse
termination_by stop - index

def memberPositions (body : Body) : List Nat :=
  match body.kind with
  | .object => outline.objectStarts body.start body.stop [body.start]
  | .classBody => outline.classStarts body.start body.stop []

/-- Adds the methods that are defined at an index to those found so far. -/
def methodsAt (specs : List RequiredMethod) (stop index : Nat) (found : Table String) :
    Table String :=
  specs.foldl
    (fun found spec =>
      if found.has spec.name then found
      else match outline.matchedPattern? spec stop index with
        | some pattern => found ++ [(spec.name, pattern)]
        | none => found)
    found

def methods (object : GameObject) (specs : List RequiredMethod) : Table String :=
  object.bodies.foldl
    (fun found body =>
      (outline.memberPositions body).foldl
        (fun found index => outline.methodsAt specs body.stop index found) found)
    []

end Outline

end SubmissionGate.Script
