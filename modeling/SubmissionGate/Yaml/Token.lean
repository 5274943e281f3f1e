import SubmissionGate.Yaml.Block
import SubmissionGate.Yaml.Directive

/-!
# Configuration tokens

Indentation becomes tokens that open and close block collections. Whether a scalar is a key shows
only at the colon behind it, so the place of a possible key is kept until its line ends, and the
token that announces the key is inserted there. Inside brackets indentation means nothing. What
cannot be read ends the tokens; those in front of it are known as far as no key can be inserted
among them any more.
-/

namespace SubmissionGate.Yaml

inductive Token where
  | documentStart
  | documentEnd
  | sequenceStart
  | mappingStart
  | blockEnd
  | flowSequenceStart
  | flowSequenceEnd
  | flowMappingStart
  | flowMappingEnd
  | blockEntry
  | flowEntry
  | key
  | value
  | scalar (text : List Char) (plain : Bool)
  | anchor (name : String)
  | reference (name : String)
  | tag (handle : Option String) (text : String)
  | directive (directive : Directive)
  /-- Stands for all tokens that can no longer be read. -/
  | broken (fault : Fault)
  deriving DecidableEq, Repr

structure PossibleKey where
  /-- The number of tokens in front of the key. -/
  place : Nat
  required : Bool
  index : Nat
  line : Nat
  column : Nat

/-- How far a key may reach in front of its colon. -/
def keyLimit : Nat := 1024

structure Scan where
  cursor : Cursor
  tokens : Array Token
  /-- The column of the block collection at hand; there is none at -1. -/
  indent : Int
  outer : List Int
  depth : Nat
  keyAllowed : Bool
  /-- The possible key of each depth. -/
  keys : List (Nat × PossibleKey)

namespace Scan

def start (text : List Char) : Scan where
  cursor := .start text
  tokens := #[]
  indent := -1
  outer := []
  depth := 0
  keyAllowed := true
  keys := []

def inFlow (scan : Scan) : Bool := 0 < scan.depth

def push (scan : Scan) (token : Token) : Scan := { scan with tokens := scan.tokens.push token }

def take (scan : Scan) (token : Token) (width : Nat) : Scan :=
  { scan.push token with cursor := scan.cursor.skip width }

def isStale (scan : Scan) (key : PossibleKey) : Bool :=
  key.line != scan.cursor.line || keyLimit < scan.cursor.index - key.index

def dropStaleKeys (scan : Scan) : Except Fault Scan :=
  if scan.keys.any fun (_, key) => scan.isStale key && key.required then .error .missingColon
  else .ok { scan with keys := scan.keys.filter fun (_, key) => !scan.isStale key }

def forgetKey (scan : Scan) : Except Fault Scan :=
  match scan.keys.lookup scan.depth with
  | some key =>
    if key.required then .error .missingColon
    else .ok { scan with keys := scan.keys.filter fun entry => entry.1 != scan.depth }
  | none => .ok scan

def noteKey (scan : Scan) : Except Fault Scan :=
  if scan.keyAllowed then
    (forgetKey scan).map fun scan =>
      let key : PossibleKey := {
        place := scan.tokens.size
        required := !scan.inFlow && scan.indent == scan.cursor.column
        index := scan.cursor.index
        line := scan.cursor.line
        column := scan.cursor.column }
      { scan with keys := (scan.depth, key) :: scan.keys }
  else .ok scan

def unwindTo (scan : Scan) (column : Int) : List Int → Scan
  | [] => { scan with outer := [] }
  | indent :: outer =>
    if column < scan.indent then unwindTo { scan.push .blockEnd with indent } column outer
    else { scan with outer := indent :: outer }

def unwind (scan : Scan) (column : Int) : Scan :=
  if scan.inFlow then scan else scan.unwindTo column scan.outer

/-- Opens a block collection at a column unless the one at hand stands there, and puts its token
in front of the token at a place. -/
def openBlock (scan : Scan) (column place : Nat) (token : Token) : Scan :=
  if scan.indent < column then
    { scan with
      tokens := scan.tokens.insertIdxIfInBounds place token
      indent := column
      outer := scan.indent :: scan.outer }
  else scan

def marker (scan : Scan) (token : Token) : Except Fault Scan :=
  (forgetKey (scan.unwind (-1))).map fun scan => { scan.take token 3 with keyAllowed := false }

def flowStart (scan : Scan) (token : Token) : Except Fault Scan :=
  (noteKey scan).map fun scan =>
    { scan.take token 1 with depth := scan.depth + 1, keyAllowed := true }

def flowEnd (scan : Scan) (token : Token) : Except Fault Scan :=
  if scan.inFlow then
    (forgetKey scan).map fun scan =>
      { scan.take token 1 with depth := scan.depth - 1, keyAllowed := false }
  else .error .structural

def flowSeparator (scan : Scan) : Except Fault Scan :=
  (forgetKey { scan with keyAllowed := true }).map fun scan => scan.take .flowEntry 1

def indicator (scan : Scan) (opening token : Token) (keyAllowed : Bool) : Except Fault Scan :=
  if !scan.inFlow && !scan.keyAllowed then .error .misplaced
  else
    let scan :=
      if scan.inFlow then scan else scan.openBlock scan.cursor.column scan.tokens.size opening
    (forgetKey { scan with keyAllowed }).map fun scan => scan.take token 1

def valueIndicator (scan : Scan) : Except Fault Scan :=
  match scan.keys.lookup scan.depth with
  | some key =>
    let scan := { scan with
      keys := scan.keys.filter fun entry => entry.1 != scan.depth
      tokens := scan.tokens.insertIdxIfInBounds key.place .key
      keyAllowed := false }
    let scan := if scan.inFlow then scan else scan.openBlock key.column key.place .mappingStart
    .ok (scan.take .value 1)
  | none => scan.indicator .mappingStart .value (!scan.inFlow)

def keyStart (scan : Scan) (read : Cursor → Except Fault (Token × Cursor)) : Except Fault Scan := do
  let scan ← noteKey scan
  let (token, cursor) ← read scan.cursor
  return { scan.push token with cursor, keyAllowed := false }

def readQuoted (quote : Char) (cursor : Cursor) : Except Fault (Token × Cursor) :=
  (Quoted.read quote cursor.next).map fun (text, rest) => (.scalar text false, rest)

def readAnchor (token : String → Token) (cursor : Cursor) : Except Fault (Token × Cursor) :=
  (Mark.anchor cursor.next).map fun (name, rest) => (token name, rest)

def readTag (cursor : Cursor) : Except Fault (Token × Cursor) :=
  (Mark.tag cursor).map fun (handle, text, rest) => (.tag handle text, rest)

def blockScalar (scan : Scan) (folded : Bool) : Except Fault Scan := do
  let scan ← forgetKey { scan with keyAllowed := true }
  let (text, cursor) ← Block.read folded scan.indent scan.cursor.next
  return { scan.push (.scalar text false) with cursor }

def directive (scan : Scan) : Except Fault Scan := do
  let scan ← forgetKey (scan.unwind (-1))
  let (directive, cursor) ← Directive.read scan.cursor.next
  return { scan.push (.directive directive) with cursor, keyAllowed := false }

def endsWord (inFlow : Bool) (c : Char) (rest : List Char) : Bool :=
  isGap (some c)
    || (c == ':' && (isGap rest.head?
      || (inFlow && (rest.head?.any fun next => ",[]{}".toList.contains next))))
    || (inFlow && ",?[]{}".toList.contains c)

def word (inFlow : Bool) : List Char → List Char
  | [] => []
  | c :: rest => if endsWord inFlow c rest then [] else c :: word inFlow rest

/-- The line breaks behind the first one between two words, up to a document marker. -/
def wordBreaks (cursor : Cursor) (read : List Char) : Nat → Option (List Char) × Cursor
  | 0 => (some read.reverse, cursor)
  | steps + 1 =>
    if startsAnyMarker cursor.chars then (none, cursor)
    else
      let cursor := cursor.skipWhile (· == ' ')
      match cursor.lineBreak? with
      | some (c, cursor) => wordBreaks cursor (c :: read) steps
      | none => (some read.reverse, cursor)

/-- What stands between two words of a plain scalar, the cursor behind it, and whether it breaks
the line. Nothing stands in front of a document marker. -/
def wordGap (cursor : Cursor) : List Char × Cursor × Bool :=
  let blanks := cursor.chars.takeWhile (· == ' ')
  let cursor := cursor.skip blanks.length
  match cursor.lineBreak? with
  | none => (blanks, cursor, false)
  | some (c, cursor) =>
    match wordBreaks cursor [] cursor.chars.length with
    | (none, cursor) => ([], cursor, true)
    | (some breaks, cursor) => (folded c breaks, cursor, true)

/-- Reads the words of a plain scalar that has to stay to the right of the collection at hand. -/
def plainWords (scan : Scan) (gap read : List Char) : Nat → List Char × Scan
  | 0 => (read, scan)
  | words + 1 =>
    let cursor := scan.cursor
    let text := word scan.inFlow cursor.chars
    if cursor.head? == some '#' || text.isEmpty then (read, scan)
    else
      let read := read ++ gap ++ text
      let (gap, cursor, broken) := wordGap (cursor.skip text.length)
      let scan := { scan with cursor, keyAllowed := broken }
      if gap.isEmpty || cursor.head? == some '#'
          || (!scan.inFlow && (cursor.column : Int) < scan.indent + 1) then (read, scan)
      else plainWords scan gap read words

def plainScalar (scan : Scan) : Except Fault Scan :=
  (noteKey scan).map fun scan =>
    let (text, scan) :=
      { scan with keyAllowed := false }.plainWords [] [] (scan.cursor.chars.length + 1)
    scan.push (.scalar text true)

def startsPlain (scan : Scan) (c : Char) : Bool :=
  !(isGap (some c) || "-?:,[]{}#&*!|>\x27\"%@\x60".toList.contains c)
    || (!isGap scan.cursor.second? && (c == '-' || (!scan.inFlow && (c == '?' || c == ':'))))

def token (scan : Scan) (c : Char) : Except Fault Scan :=
  let atStart := scan.cursor.column = 0
  let alone := isGap scan.cursor.second?
  if atStart && c == '%' then scan.directive
  else if atStart && startsMarker '-' scan.cursor.chars then scan.marker .documentStart
  else if atStart && startsMarker '.' scan.cursor.chars then scan.marker .documentEnd
  else if c == '[' then scan.flowStart .flowSequenceStart
  else if c == '{' then scan.flowStart .flowMappingStart
  else if c == ']' then scan.flowEnd .flowSequenceEnd
  else if c == '}' then scan.flowEnd .flowMappingEnd
  else if c == ',' then scan.flowSeparator
  else if c == '-' && alone then scan.indicator .sequenceStart .blockEntry true
  else if c == '?' && (scan.inFlow || alone) then
    scan.indicator .mappingStart .key (!scan.inFlow)
  else if c == ':' && (scan.inFlow || alone) then scan.valueIndicator
  else if c == '*' then scan.keyStart (readAnchor .reference)
  else if c == '&' then scan.keyStart (readAnchor .anchor)
  else if c == '!' then scan.keyStart readTag
  else if !scan.inFlow && (c == '|' || c == '>') then scan.blockScalar (c == '>')
  else if c == '\'' || c == '"' then scan.keyStart (readQuoted c)
  else if scan.startsPlain c then scan.plainScalar
  else .error .unexpected

/-- How many tokens are settled: a key may still be inserted in front of the others. -/
def settled (scan : Scan) : Nat :=
  scan.keys.foldl (fun least (_, key) => min least key.place) scan.tokens.size

def brokenBy (scan : Scan) (fault : Fault) : List Token :=
  (scan.tokens.toList.take scan.settled) ++ [.broken fault]

def advance (scan : Scan) : Except Fault Scan :=
  let (cursor, passed) := scan.cursor.toToken false (scan.cursor.chars.length + 1)
  let keyAllowed := scan.keyAllowed || (passed && !scan.inFlow)
  (dropStaleKeys { scan with cursor, keyAllowed }).map fun scan => scan.unwind cursor.column

/-- Reads one more token, or the end of the text, and tells whether the text goes on. -/
def step (scan : Scan) : Except Fault (Bool × Scan) := do
  let scan ← scan.advance
  match scan.cursor.head? with
  | none => return (false, ← forgetKey (scan.unwind (-1)))
  | some c => return (true, ← scan.token c)

/-- Reads the tokens up to the end of the text; each takes a character. -/
def run (scan : Scan) : Nat → List Token
  | 0 => scan.tokens.toList
  | steps + 1 =>
    match dropStaleKeys scan with
    | .error fault => scan.brokenBy fault
    | .ok scan =>
      match scan.step with
      | .error fault => scan.brokenBy fault
      | .ok (goesOn, scan) => if goesOn then scan.run steps else scan.tokens.toList

end Scan

def isAllowed (c : Char) : Bool :=
  c == '\t' || c == '\n' || c == '\r' || (' ' ≤ c && c ≤ '~') || c == '\u0085'
    || ('\u00a0' ≤ c && c.toNat < 0xD800) || (0xE000 ≤ c.toNat && c.toNat < 0xFFFE)
    || 0x10000 ≤ c.toNat

def tokens (text : List Char) : List Token :=
  if !text.all isAllowed then [.broken .unprintable]
  else
    let scan := Scan.start text
    let cursor := if scan.cursor.head? == some byteOrderMark then scan.cursor.next else scan.cursor
    { scan with cursor }.run (text.length + 1)

end SubmissionGate.Yaml
