import SubmissionGate.Text.Space

/-!
# Required methods

A method counts as defined by any of a few syntactic forms. A form is a sequence of atoms: the
method's key, a balanced group of parameters, any identifier, or a token that has to stand there.
-/

namespace SubmissionGate.Rules

inductive Atom where
  | key
  | parameters
  | identifier
  | token (text : String)
  deriving DecidableEq, Repr

def Atom.ofWord (word : String) : Atom :=
  if word == "<key>" then .key
  else if word == "(...)" then .parameters
  else if word == "<ident>" then .identifier
  else .token word

structure DefinitionForm where
  name : String
  atoms : List Atom
  deriving DecidableEq, Repr

def DefinitionForm.parse (name form : String) : DefinitionForm :=
  ⟨name, (Text.words form.toList).map fun word => .ofWord (String.ofList word)⟩

structure RequiredMethod where
  name : String
  patterns : List DefinitionForm
  deriving DecidableEq, Repr

def definitionForms : List DefinitionForm :=
  [⟨"function_property", [.key, .token ":", .token "function"]⟩,
    ⟨"async_function_property", [.key, .token ":", .token "async", .token "function"]⟩,
    ⟨"shorthand", [.key, .parameters, .token "\x7b"]⟩,
    ⟨"async_shorthand", [.token "async", .key, .parameters, .token "\x7b"]⟩,
    ⟨"arrow", [.key, .token ":", .parameters, .token "=>"]⟩,
    ⟨"async_arrow", [.key, .token ":", .token "async", .parameters, .token "=>"]⟩,
    ⟨"arrow_bare_param", [.key, .token ":", .identifier, .token "=>"]⟩,
    ⟨"async_arrow_bare_param", [.key, .token ":", .token "async", .identifier, .token "=>"]⟩]

def requiredMethodNames : List String :=
  ["init", "start", "reset", "getState", "sendInput", "getMeta"]

def requiredMethods : List RequiredMethod :=
  requiredMethodNames.map fun name => ⟨name, definitionForms⟩

end SubmissionGate.Rules
