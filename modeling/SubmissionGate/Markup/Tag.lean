import SubmissionGate.Markup.Reference
import SubmissionGate.Text.LetterCase

/-!
# Start tags

A start tag is read leniently: attributes need no blank between them, a value may be quoted or
bare, and a slash between attributes counts as a blank. Of an attribute that is repeated the first
one counts.
-/

namespace SubmissionGate.Markup

open SubmissionGate.Text

/-- A start tag; names are in lower case, and an attribute without a value has an empty one. -/
structure StartTag where
  name : String
  attributes : List (String × List Char)
  selfClosing : Bool
  deriving Repr

def isLetter (c : Char) : Bool := c.isAlpha

def continuesTagName (c : Char) : Bool :=
  !(c == '\t' || c == '\n' || c == '\r' || c == '\x0c' || c == ' ' || c == '/' || c == '>'
    || c == '\x00')

/-- How many blanks, and slashes that close no tag, stand at the head of a text. -/
def separatorSize (size : Nat) : List Char → Nat
  | [] => size
  | c :: rest =>
    if isSpace c || (c == '/' && rest.head? != some '>') then separatorSize (size + 1) rest
    else size

def quotedValue? (quote : Char) (rest : List Char) : Option (List Char) :=
  let value := rest.takeWhile (· != quote)
  if (rest.drop value.length).isEmpty then none else some value

def bareValue (rest : List Char) : List Char := rest.takeWhile fun c => c != '>' && !isSpace c

/-- The value behind equals signs at the head of a text, with its size; where a quote is not
closed, the value is what stands before the quote. -/
def valueAfter (equals : Nat) (rest : List Char) : Option (List Char × Nat) :=
  let blanks := (rest.takeWhile isSpace).length
  let body := rest.drop blanks
  let open_ := body.head? == some '"' || body.head? == some '\''
  if !open_ then
    let value := bareValue body
    some (value, blanks + value.length)
  else match quotedValue? (body.headD '"') (body.drop 1) with
    | some value => some (value, blanks + value.length + 2)
    | none =>
      if 0 < blanks then some ([], blanks - 1)
      else if 1 < equals then
        let value := bareValue body
        some ('=' :: value, value.length)
      else none

def attributeValue? (rest : List Char) : Option (List Char × Nat) :=
  let blanks := (rest.takeWhile isSpace).length
  let equals := ((rest.drop blanks).takeWhile (· == '=')).length
  if equals == 0 then none
  else (valueAfter equals (rest.drop (blanks + equals))).map fun (value, size) =>
    (value, blanks + equals + size)

structure RawAttribute where
  name : List Char
  value : Option (List Char)
  size : Nat

def admitsAttribute (before : Char) : Bool :=
  isSpace before || before == '/' || before == '\'' || before == '"'

def attribute? (before : Char) (rest : List Char) : Option RawAttribute :=
  match rest with
  | [] => none
  | c :: tail =>
    if !admitsAttribute before || isSpace c || c == '/' || c == '>' then none
    else
      let name := c :: tail.takeWhile fun c => !(isSpace c || c == '/' || c == '=' || c == '>')
      let found := attributeValue? (rest.drop name.length)
      let used := name.length + (found.map (·.2)).getD 0
      some ⟨name, found.map (·.1), used + separatorSize 0 (rest.drop used)⟩

def attributesFrom (before : Char) (rest : List Char) (size : Nat) (found : List RawAttribute) :
    Nat → List RawAttribute × Nat
  | 0 => (found.reverse, size)
  | fuel + 1 =>
    match attribute? before rest with
    | none => (found.reverse, size)
    | some raw =>
      let before := ((rest.take raw.size).getLast?).getD before
      attributesFrom before (rest.drop raw.size) (size + raw.size) (raw :: found) fuel

/-- The attributes with their final names and values; the first of each name counts. -/
def resolveAttributes (found : List (String × List Char)) :
    List RawAttribute → Except Nat (List (String × List Char))
  | [] => .ok found.reverse
  | raw :: rest =>
    match resolveReferences (raw.value.getD []) with
    | .error count => .error count
    | .ok value =>
      let name := String.ofList (lower raw.name)
      if found.any (·.1 == name) then resolveAttributes found rest
      else resolveAttributes ((name, value) :: found) rest

inductive TagRead where
  | incomplete
  /-- No tag after all; so many characters are plain text. -/
  | plain (size : Nat)
  | tag (tag : StartTag) (size : Nat)

/-- Reads the start tag whose name starts here; sizes do not count the less-than sign. -/
def readStartTag (rest : List Char) : Except Nat TagRead :=
  let name := rest.takeWhile continuesTagName
  let separators := separatorSize 0 (rest.drop name.length)
  let start := name.length + separators
  let before := ((rest.take start).getLast?).getD ' '
  let body := rest.drop start
  let (raw, size) := attributesFrom before body 0 [] body.length
  let finish := fun (selfClosing : Bool) (total : Nat) =>
    match resolveAttributes [] raw with
    | .error count => Except.error count
    | .ok attributes =>
      .ok (.tag ⟨String.ofList (lower name), attributes, selfClosing⟩ total)
  match body.drop size with
  | '>' :: _ => finish false (start + size + 1)
  | '/' :: '>' :: _ => finish true (start + size + 2)
  | [] => .ok .incomplete
  | c :: _ =>
    if c == '/' || c == '=' || isLetter c then .ok .incomplete else .ok (.plain (start + size))

end SubmissionGate.Markup
