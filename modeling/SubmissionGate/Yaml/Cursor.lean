/-!
# Positions in a configuration text

A cursor is the rest of a text together with where it starts: its index, its line and its column.
Line breaks are those of the format, which knows five of them.
-/

namespace SubmissionGate.Yaml

structure Cursor where
  chars : List Char
  index : Nat
  line : Nat
  column : Nat

def byteOrderMark : Char := '\uFEFF'

def isBreak (c : Char) : Bool :=
  c == '\n' || c == '\r' || c == '\u0085' || c == '\u2028' || c == '\u2029'

def isGap (c : Option Char) : Bool :=
  match c with
  | none => true
  | some c => c == ' ' || c == '\t' || isBreak c

/-- Whether a character is a blank or ends a line; the end of the text does too. Unlike in a gap a
tab does not count. -/
def isPause (c : Option Char) : Bool :=
  match c with
  | none => true
  | some c => c == ' ' || isBreak c

/-- Whether a text starts with a document marker that stands alone. -/
def startsMarker (mark : Char) (chars : List Char) : Bool :=
  [mark, mark, mark].isPrefixOf chars && isGap (chars.drop 3).head?

def startsAnyMarker (chars : List Char) : Bool := startsMarker '-' chars || startsMarker '.' chars

namespace Cursor

def start (text : List Char) : Cursor := ⟨text, 0, 0, 0⟩

def head? (cursor : Cursor) : Option Char := cursor.chars.head?

def second? (cursor : Cursor) : Option Char := cursor.chars.tail.head?

/-- Whether the next character ends its line; of a pair of breaks only the last does. -/
def endsLine (c : Char) (rest : List Char) : Bool :=
  isBreak c && !(c == '\r' && rest.head? == some '\n')

def next (cursor : Cursor) : Cursor :=
  match cursor.chars with
  | [] => cursor
  | c :: rest =>
    if endsLine c rest then ⟨rest, cursor.index + 1, cursor.line + 1, 0⟩
    else if c == byteOrderMark then ⟨rest, cursor.index + 1, cursor.line, cursor.column⟩
    else ⟨rest, cursor.index + 1, cursor.line, cursor.column + 1⟩

def skip (cursor : Cursor) : Nat → Cursor
  | 0 => cursor
  | count + 1 => cursor.next.skip count

def skipWhile (cursor : Cursor) (holds : Char → Bool) : Cursor :=
  cursor.skip (cursor.chars.takeWhile holds).length

/-- The line break at the cursor, with the pair of breaks read as one, and the cursor behind it. -/
def lineBreak? (cursor : Cursor) : Option (Char × Cursor) :=
  match cursor.chars with
  | '\r' :: '\n' :: _ => some ('\n', cursor.next.next)
  | c :: _ =>
    if c == '\u2028' || c == '\u2029' then some (c, cursor.next)
    else if isBreak c then some ('\n', cursor.next)
    else none
  | [] => none

def skipComment (cursor : Cursor) : Cursor :=
  let cursor := cursor.skipWhile (· == ' ')
  if cursor.head? == some '#' then cursor.skipWhile fun c => !isBreak c else cursor

def lineEnd? (cursor : Cursor) : Option Cursor :=
  let cursor := cursor.skipComment
  match cursor.lineBreak? with
  | some (_, cursor) => some cursor
  | none => if cursor.chars.isEmpty then some cursor else none

/-- The cursor in front of the next token, and whether a line break was passed. -/
def toToken (cursor : Cursor) (passed : Bool) : Nat → Cursor × Bool
  | 0 => (cursor, passed)
  | lines + 1 =>
    let cursor := cursor.skipComment
    match cursor.lineBreak? with
    | some (_, cursor) => toToken cursor true lines
    | none => (cursor, passed)

end Cursor

/-- What a line break between two words of a scalar stands for: a blank, or the breaks that follow
it. -/
def folded (first : Char) (breaks : List Char) : List Char :=
  if first != '\n' then first :: breaks else if breaks.isEmpty then [' '] else breaks

end SubmissionGate.Yaml
