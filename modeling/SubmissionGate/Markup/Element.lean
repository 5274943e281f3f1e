import SubmissionGate.Markup.Tag
import SubmissionGate.Text.Quoted

/-!
# Elements of a document

A document is read as the sequence of its start tags, each with the raw text that belongs to it: a
script or style element runs up to its own end tag, and one that is never closed up to the end.
Comments, declarations, end tags and text are passed over. What is opened and never closed is taken
for text. Reading fails only at a marked section of an unknown kind and at a character reference
with too many digits.
-/

namespace SubmissionGate.Markup

structure Element where
  tag : StartTag
  rawText : Option (List Char)
  deriving Repr

inductive Fault where
  /-- No keyword starts a marked section; what stands there instead. -/
  | keywordExpected (excerpt : List Char)
  | unknownKeyword (keyword : List Char)
  | tooManyDigits (count : Nat)
  deriving DecidableEq, Repr

/-- The size of a text up to the first place where a match ends, counted on from `size`. -/
def sizeThrough (sizeAt : List Char → Option Nat) (size : Nat) : List Char → Option Nat
  | [] => none
  | c :: rest =>
    match sizeAt (c :: rest) with
    | some found => some (size + found)
    | none => sizeThrough sizeAt (size + 1) rest

def blanksThen (c : Char) (rest : List Char) : Option Nat :=
  let blanks := (rest.takeWhile Text.isSpace).length
  if (rest.drop blanks).head? == some c then some (blanks + 1) else none

def greaterSize? : List Char → Option Nat
  | '>' :: _ => some 1
  | _ => none

def commentEnd? : List Char → Option Nat
  | '-' :: '-' :: rest => (blanksThen '>' rest).map (2 + ·)
  | _ => none

def conditionalEnd? : List Char → Option Nat
  | ']' :: rest => (blanksThen '>' rest).map (1 + ·)
  | _ => none

def sectionEnd? : List Char → Option Nat
  | ']' :: rest => do
    let inner ← blanksThen ']' rest
    let last ← blanksThen '>' (rest.drop inner)
    some (1 + inner + last)
  | _ => none

def endTagSize? (name : List Char) : List Char → Option Nat
  | '<' :: '/' :: rest =>
    let blanks := (rest.takeWhile Text.isSpace).length
    let body := rest.drop blanks
    if (body.take name.length).map Char.toLower == name then
      (blanksThen '>' (body.drop name.length)).map (2 + blanks + name.length + ·)
    else none
  | _ => none

/-- Splits raw text at the end tag of its element, with what precedes in reverse. -/
def rawTextFrom (name before : List Char) (text : List Char) : List Char × List Char :=
  match text with
  | [] => (before.reverse, [])
  | c :: rest =>
    match endTagSize? name (c :: rest) with
    | some size => (before.reverse, (c :: rest).drop size)
    | none => rawTextFrom name (c :: before) rest

def continuesKeyword (c : Char) : Bool := c.isAlphanum || c == '-' || c == '_' || c == '.'

def markedSectionSize (text : List Char) : Except Fault (Option Nat) :=
  match text.drop 3 with
  | [] => .ok none
  | c :: rest =>
    if !isLetter c then .error (.keywordExpected (text.take 20))
    else
      let keyword := c :: rest.takeWhile continuesKeyword
      let blanks := (text.drop (3 + keyword.length)).takeWhile Text.isSpace
      let name := String.ofList (keyword.map Char.toLower)
      if (text.drop (3 + keyword.length + blanks.length)).isEmpty then .ok none
      else if ["temp", "cdata", "ignore", "include", "rcdata"].contains name then
        .ok ((sizeThrough sectionEnd? 0 (c :: rest)).map (3 + ·))
      else if ["if", "else", "endif"].contains name then
        .ok ((sizeThrough conditionalEnd? 0 (c :: rest)).map (3 + ·))
      else .error (.unknownKeyword (keyword ++ blanks))

/-- The size of the construct that a text starts with, which is no start tag; `none` where it does
not end. -/
def constructSize (text : List Char) : Except Fault (Option Nat) :=
  let through := fun (skip : Nat) =>
    .ok ((sizeThrough greaterSize? 0 (text.drop skip)).map (skip + ·))
  match text with
  | '<' :: '/' :: _ => through 1
  | '<' :: '!' :: '-' :: '-' :: rest => .ok ((sizeThrough commentEnd? 0 rest).map (4 + ·))
  | '<' :: '?' :: _ => through 2
  | '<' :: '!' :: '[' :: _ => markedSectionSize text
  | '<' :: '!' :: rest =>
    if (rest.take 7).map Char.toLower == "doctype".toList then through 9 else through 2
  | _ => .ok (some 1)

def strayTextSize (text : List Char) : Nat :=
  let rest := text.drop 1
  match sizeThrough greaterSize? 0 rest with
  | some size => 1 + size
  | none =>
    let size := (rest.takeWhile (· != '<')).length
    if (rest.drop size).isEmpty then 1 else 1 + size

def holdsRawText (name : String) : Bool := name == "script" || name == "style"

def checkText (text : List Char) : Except Fault Unit :=
  match resolveReferences text with
  | .ok _ => .ok ()
  | .error count => .error (.tooManyDigits count)

def takeElement (tag : StartTag) (rest : List Char) : Element × List Char :=
  if !holdsRawText tag.name then (⟨tag, none⟩, rest)
  else if tag.selfClosing then (⟨tag, some []⟩, rest)
  else
    let (body, rest) := rawTextFrom tag.name.toList [] rest
    (⟨tag, some body⟩, rest)

def takeStray (text : List Char) : Except Fault (List Char) :=
  let size := strayTextSize text
  match checkText (text.take size) with
  | .error fault => .error fault
  | .ok () => .ok (text.drop size)

def takeConstruct (rest : List Char) : Except Fault (Option Element × List Char) :=
  let text := '<' :: rest
  let stray := (takeStray text).map fun left => (none, left)
  if rest.head?.any isLetter then
    match readStartTag rest with
    | .error count => .error (.tooManyDigits count)
    | .ok .incomplete => stray
    | .ok (.plain size) => .ok (none, rest.drop size)
    | .ok (.tag tag size) =>
      let (element, left) := takeElement tag (rest.drop size)
      .ok (some element, left)
  else match constructSize text with
    | .error fault => .error fault
    | .ok none => stray
    | .ok (some size) => .ok (none, text.drop size)

/-- Reads elements behind those found so far in reverse; every round takes a character. -/
def elementsFrom (text : List Char) (found : List Element) : Nat → Except Fault (List Element)
  | 0 => .ok found.reverse
  | fuel + 1 =>
    let plain := text.takeWhile (· != '<')
    match checkText plain with
    | .error fault => .error fault
    | .ok () =>
      match text.drop plain.length with
      | [] => .ok found.reverse
      | _ :: rest =>
        match takeConstruct rest with
        | .error fault => .error fault
        | .ok (none, left) => elementsFrom left found fuel
        | .ok (some element, left) => elementsFrom left (element :: found) fuel

def elements (text : List Char) : Except Fault (List Element) :=
  elementsFrom text [] (text.length + 1)

def Fault.reason : Fault → String
  | .keywordExpected excerpt =>
    "expected name token at " ++ String.ofList (Text.Quoted.encode excerpt)
  | .unknownKeyword keyword =>
    "unknown status keyword " ++ String.ofList (Text.Quoted.encode keyword) ++ " in marked section"
  | .tooManyDigits count => Numeral.excessMessage count

def Fault.message (fault : Fault) : String := "HTML could not be tokenised: " ++ fault.reason

end SubmissionGate.Markup
