import SubmissionGate.Yaml.Mark

/-!
# Directives

Lines in front of a document that say which version of the format it has, or what a handle of its
tags abbreviates. Directives of any other name are passed over.
-/

namespace SubmissionGate.Yaml

inductive Directive where
  | version (major : Nat)
  | handle (name meaning : String)
  | other
  deriving DecidableEq, Repr

namespace Directive

def number (cursor : Cursor) : Except Fault (Nat × Cursor) :=
  let digits := cursor.chars.takeWhile Char.isDigit
  if digits.isEmpty then .error .badMark
  else if Numeral.digitLimit < digits.length then .error (.tooManyDigits digits.length)
  else .ok (Numeral.ofDigits digits, cursor.skip digits.length)

def readVersion (cursor : Cursor) : Except Fault (Directive × Cursor) := do
  let (major, rest) ← number (cursor.skipWhile (· == ' '))
  if rest.head? != some '.' then throw .badMark
  let (_, rest) ← number rest.next
  if isPause rest.head? then return (.version major, rest) else throw .badMark

def readHandle (cursor : Cursor) : Except Fault (Directive × Cursor) := do
  let (name, rest) ← Mark.handle (cursor.skipWhile (· == ' '))
  if rest.head? != some ' ' then throw .badMark
  let (meaning, rest) ← Mark.suffix (rest.skipWhile (· == ' '))
  if isPause rest.head? then return (.handle name meaning, rest) else throw .badMark

def read (cursor : Cursor) : Except Fault (Directive × Cursor) := do
  let (name, rest) := Mark.name cursor
  if name.isEmpty || !isPause rest.head? then throw .badMark
  let (directive, rest) ← match String.ofList name with
    | "YAML" => readVersion rest
    | "TAG" => readHandle rest
    | _ => .ok (.other, rest.skipWhile fun c => !isBreak c)
  match rest.lineEnd? with
  | some rest => return (directive, rest)
  | none => throw .badMark

end Directive

end SubmissionGate.Yaml
