import Std.Data.HashMap
import SubmissionGate.Number.Numeral
import SubmissionGate.Value

/-!
# JSON documents

A document is read by one pass with an explicit stack of open containers. The reader accepts the
three words for numbers that are not finite, refuses control characters inside strings, bounds the
digits of integers, lets as many containers be open at once as it is told to, and says where and why
it stopped otherwise.
-/

namespace SubmissionGate.Json

inductive Problem where
  | value
  | extraData
  | propertyName
  | colon
  | comma
  | unterminatedString
  | controlCharacter
  | badEscape
  | badCodeEscape
  | byteOrderMark
  deriving DecidableEq, Repr

inductive Container where
  | array
  | object
  deriving DecidableEq, Repr

inductive Fault where
  | malformed (problem : Problem) (position : Nat)
  | tooDeep (container : Container)
  | tooManyDigits (count : Nat)
  deriving DecidableEq, Repr

/-- An unfinished container: its parts so far in reverse, and the key of the part to come. -/
inductive Frame where
  | items (done : List Value)
  | entries (done : List (String × Value)) (key : String)

structure Cursor where
  position : Nat
  chars : List Char

def isBlank (c : Char) : Bool := c == ' ' || c == '\t' || c == '\n' || c == '\r'

namespace Cursor

def advance (cursor : Cursor) (count : Nat) : Cursor :=
  ⟨cursor.position + count, cursor.chars.drop count⟩

def skipBlanks (cursor : Cursor) : Cursor :=
  cursor.advance (cursor.chars.takeWhile isBlank).length

def fail {α : Type} (cursor : Cursor) (problem : Problem) : Except Fault α :=
  .error (.malformed problem cursor.position)

end Cursor

def hexValue? (c : Char) : Option Nat :=
  if c.isDigit then some (c.toNat - 48)
  else if 'a' ≤ c && c ≤ 'f' then some (c.toNat - 87)
  else if 'A' ≤ c && c ≤ 'F' then some (c.toNat - 55)
  else none

def codeUnit? : List Char → Option Nat
  | [a, b, c, d] => do
    some (((← hexValue? a) * 16 + (← hexValue? b)) * 256 + (← hexValue? c) * 16 + (← hexValue? d))
  | _ => none

def isHighSurrogate (unit : Nat) : Bool := 0xD800 ≤ unit && unit < 0xDC00

def isLowSurrogate (unit : Nat) : Bool := 0xDC00 ≤ unit && unit < 0xE000

def simpleEscape? : Char → Option Char
  | '"' => some '"'
  | '\\' => some '\\'
  | '/' => some '/'
  | 'b' => some '\x08'
  | 'f' => some '\x0c'
  | 'n' => some '\n'
  | 'r' => some '\r'
  | 't' => some '\t'
  | _ => none

def isLonger (size : Nat) (chars : List Char) : Bool := !(chars.drop size).isEmpty

/-- The character that stands for half of a surrogate pair. -/
def ofUnit (unit : Nat) : Char :=
  if isHighSurrogate unit || isLowSurrogate unit then '\uFFFD' else Char.ofNat unit

/-- The character of a code escape whose digits start here, and how many characters it takes. -/
def codeEscape (position : Nat) (digits : List Char) : Except Fault (Char × Nat) :=
  if !isLonger 4 digits then .error (.malformed .badCodeEscape (position - 1))
  else match codeUnit? (digits.take 4) with
    | none => .error (.malformed .badCodeEscape (position - 1))
    | some high =>
      match digits.drop 4 with
      | '\\' :: 'u' :: more =>
        if isHighSurrogate high && isLonger 4 more then
          match codeUnit? (more.take 4) with
          | none => .error (.malformed .badCodeEscape (position + 5))
          | some low =>
            if isLowSurrogate low then
              .ok (Char.ofNat (0x10000 + (high - 0xD800) * 1024 + (low - 0xDC00)), 10)
            else .ok (ofUnit high, 4)
        else .ok (ofUnit high, 4)
      | _ => .ok (ofUnit high, 4)

/-- Reads a string whose opening quote is at `start`, from a position inside it. -/
def readString (start position : Nat) (chars read : List Char) : Except Fault (String × Cursor) :=
  match chars with
  | [] => .error (.malformed .unterminatedString start)
  | '"' :: rest => .ok (String.ofList read.reverse, ⟨position + 1, rest⟩)
  | ['\\'] => .error (.malformed .unterminatedString start)
  | '\\' :: c :: rest =>
    if c == 'u' then
      match codeEscape (position + 2) rest with
      | .error fault => .error fault
      | .ok (c, size) =>
        readString start (position + 2 + size) (rest.drop size) (c :: read)
    else match simpleEscape? c with
      | none => .error (.malformed .badEscape position)
      | some escaped => readString start (position + 2) rest (escaped :: read)
  | c :: rest =>
    if c.toNat ≤ 0x1f then .error (.malformed .controlCharacter position)
    else readString start (position + 1) rest (c :: read)
termination_by chars.length
decreasing_by all_goals (simp; try omega)

/-- The length of the number at the head of a text, and whether it is an integer. -/
def numberShape? (chars : List Char) : Option (Nat × Bool) :=
  let signSize := if chars.head? == some '-' then 1 else 0
  let body := chars.drop signSize
  let whole :=
    match body with
    | '0' :: _ => 1
    | _ => (body.takeWhile Char.isDigit).length
  if whole == 0 then none
  else
    let rest := body.drop whole
    let fraction :=
      match rest with
      | '.' :: digits =>
        let size := (digits.takeWhile Char.isDigit).length
        if size == 0 then 0 else size + 1
      | _ => 0
    let exponent :=
      match rest.drop fraction with
      | mark :: digits =>
        if mark == 'e' || mark == 'E' then
          let signSize := if digits.head? == some '-' || digits.head? == some '+' then 1 else 0
          let size := ((digits.drop signSize).takeWhile Char.isDigit).length
          if size == 0 then 0 else 1 + signSize + size
        else 0
      | [] => 0
    some (signSize + whole + fraction + exponent, fraction == 0 && exponent == 0)

def readNumber (cursor : Cursor) : Except Fault (Value × Cursor) :=
  match numberShape? cursor.chars with
  | none => cursor.fail .value
  | some (size, integral) =>
    let numeral := cursor.chars.take size
    let (negative, body) := Numeral.splitSign numeral
    if integral then
      if body.length > Numeral.digitLimit then .error (.tooManyDigits body.length)
      else
        let n := Binary64.signed negative (Numeral.ofDigits body)
        .ok (.number (.int n), cursor.advance size)
    else match Numeral.decimal? negative body with
      | some x => .ok (.number (.real x), cursor.advance size)
      | none => cursor.fail .value

def valueWords : List (String × Value) :=
  [("null", .null), ("true", .bool true), ("false", .bool false), ("NaN", .real .nan),
    ("Infinity", .real (.infinity false)), ("-Infinity", .real (.infinity true))]

def readPlain (cursor : Cursor) : Except Fault (Value × Cursor) :=
  match valueWords.find? fun word => word.1.toList.isPrefixOf cursor.chars with
  | some (word, value) => .ok (value, cursor.advance word.length)
  | none => readNumber cursor

/-- The entries of an object in order of arrival; of a repeated key the last value counts. -/
def distinctEntries (entries : List (String × Value)) : List (Value × Value) :=
  let step := fun (state : Std.HashMap String Nat × Array (Value × Value))
      (entry : String × Value) =>
    match state.1[entry.1]? with
    | some index => (state.1, state.2.setIfInBounds index (.text entry.1, entry.2))
    | none => (state.1.insert entry.1 state.2.size, state.2.push (.text entry.1, entry.2))
  (entries.foldl step (∅, #[])).2.toList

def readKey (cursor : Cursor) : Except Fault (String × Cursor) :=
  match cursor.chars with
  | '"' :: rest =>
    match readString cursor.position (cursor.position + 1) rest [] with
    | .error fault => .error fault
    | .ok (key, cursor) =>
      let cursor := cursor.skipBlanks
      if cursor.chars.head? == some ':' then .ok (key, (cursor.advance 1).skipBlanks)
      else cursor.fail .colon
  | _ => cursor.fail .propertyName

inductive Task where
  | value
  | give (value : Value)

/-- Works through a text with a stack of open containers, of which so many may be open at once. -/
def run (nesting : Nat) (stack : List Frame) (cursor : Cursor) (task : Task) :
    Nat → Except Fault (Value × Cursor)
  | 0 => cursor.fail .value
  | fuel + 1 =>
    match task with
    | .value =>
      match cursor.chars with
      | '"' :: rest =>
        match readString cursor.position (cursor.position + 1) rest [] with
        | .error fault => .error fault
        | .ok (s, cursor) => run nesting stack cursor (.give (.text s)) fuel
      | '[' :: _ =>
        if stack.length ≥ nesting then .error (.tooDeep .array)
        else
          let cursor := (cursor.advance 1).skipBlanks
          if cursor.chars.head? == some ']' then
            run nesting stack (cursor.advance 1) (.give (.list [])) fuel
          else run nesting (.items [] :: stack) cursor .value fuel
      | '\x7b' :: _ =>
        if stack.length ≥ nesting then .error (.tooDeep .object)
        else
          let cursor := (cursor.advance 1).skipBlanks
          if cursor.chars.head? == some '\x7d' then
            run nesting stack (cursor.advance 1) (.give (.map [])) fuel
          else match readKey cursor with
            | .error fault => .error fault
            | .ok (key, cursor) => run nesting (.entries [] key :: stack) cursor .value fuel
      | _ =>
        match readPlain cursor with
        | .error fault => .error fault
        | .ok (value, cursor) => run nesting stack cursor (.give value) fuel
    | .give value =>
      match stack with
      | [] => .ok (value, cursor)
      | .items done :: outer =>
        let cursor := cursor.skipBlanks
        match cursor.chars with
        | ']' :: _ =>
          run nesting outer (cursor.advance 1) (.give (.list (value :: done).reverse)) fuel
        | ',' :: _ =>
          run nesting (.items (value :: done) :: outer) (cursor.advance 1).skipBlanks .value fuel
        | _ => cursor.fail .comma
      | .entries done key :: outer =>
        let cursor := cursor.skipBlanks
        let done := (key, value) :: done
        match cursor.chars with
        | '\x7d' :: _ =>
          run nesting outer (cursor.advance 1) (.give (.map (distinctEntries done.reverse))) fuel
        | ',' :: _ =>
          match readKey (cursor.advance 1).skipBlanks with
          | .error fault => .error fault
          | .ok (key, cursor) => run nesting (.entries done key :: outer) cursor .value fuel
        | _ => cursor.fail .comma

def read (nesting : Nat) (text : List Char) : Except Fault Value :=
  let start : Cursor := ⟨0, text⟩
  if text.head? == some '\uFEFF' then start.fail .byteOrderMark
  else match run nesting [] start.skipBlanks .value (2 * text.length + 2) with
    | .error fault => .error fault
    | .ok (value, cursor) =>
      let cursor := cursor.skipBlanks
      if cursor.chars.isEmpty then .ok value else cursor.fail .extraData

def Problem.message : Problem → String
  | .value => "Expecting value"
  | .extraData => "Extra data"
  | .propertyName => "Expecting property name enclosed in double quotes"
  | .colon => "Expecting ':' delimiter"
  | .comma => "Expecting ',' delimiter"
  | .unterminatedString => "Unterminated string starting at"
  | .controlCharacter => "Invalid control character at"
  | .badEscape => "Invalid \\escape"
  | .badCodeEscape => "Invalid \\uXXXX escape"
  | .byteOrderMark => "Unexpected UTF-8 BOM (decode using utf-8-sig)"

def Fault.message (text : List Char) : Fault → String
  | .malformed problem position =>
    let before := text.take position
    let line := before.count '\n' + 1
    let column := (before.reverse.takeWhile (· != '\n')).length + 1
    s!"{problem.message}: line {line} column {column} (char {position})"
  | .tooDeep .array =>
    "maximum recursion depth exceeded while decoding a JSON array from a unicode string"
  | .tooDeep .object =>
    "maximum recursion depth exceeded while decoding a JSON object from a unicode string"
  | .tooManyDigits count => Numeral.excessMessage count

end SubmissionGate.Json
