import SubmissionGate.Number.Numeral
import SubmissionGate.Yaml.Cursor
import SubmissionGate.Yaml.Fault

/-!
# Quoted scalars

A scalar between single quotes knows one escape, the doubled quote; between double quotes a
backslash escapes. Line breaks are folded in both.
-/

namespace SubmissionGate.Yaml.Quoted

def simpleEscapes : List (Char × Char) :=
  [('0', '\x00'), ('a', '\x07'), ('b', '\x08'), ('t', '\t'), ('\t', '\t'), ('n', '\n'),
    ('v', '\x0b'), ('f', '\x0c'), ('r', '\r'), ('e', '\x1b'), (' ', ' '), ('"', '"'), ('\\', '\\'),
    ('/', '/'), ('N', '\u0085'), ('_', '\u00a0'), ('L', '\u2028'), ('P', '\u2029')]

def codeEscapes : List (Char × Nat) := [('x', 2), ('u', 4), ('U', 8)]

def hexDigit? (c : Char) : Option Nat := (Numeral.digitValue? c).filter (· < 16)

def codePoint? (chars : List Char) (width : Nat) : Option Nat := do
  let digits ← (chars.take width).mapM hexDigit?
  if digits.length < width then none
  else some (digits.foldl (fun point digit => 16 * point + digit) 0)

def character (point : Nat) : Except Fault Char :=
  if 0x10FFFF < point then .error (.farCodePoint point)
  else if point.isValidChar then .ok (Char.ofNat point)
  else .error .badEscape

def breaks (cursor : Cursor) (read : List Char) : Nat → Except Fault (List Char × Cursor)
  | 0 => .ok (read.reverse, cursor)
  | lines + 1 =>
    if startsAnyMarker cursor.chars then .error .unclosedQuote
    else
      let cursor := cursor.skipWhile fun c => c == ' ' || c == '\t'
      match cursor.lineBreak? with
      | some (c, cursor) => breaks cursor (c :: read) lines
      | none => .ok (read.reverse, cursor)

def escape (cursor : Cursor) : Except Fault (List Char × Cursor) :=
  match cursor.head? with
  | none => .error .badEscape
  | some c =>
    match simpleEscapes.lookup c with
    | some meaning => .ok ([meaning], cursor.next)
    | none =>
      match codeEscapes.lookup c with
      | some width =>
        match codePoint? cursor.next.chars width with
        | some point => (character point).map fun c => ([c], cursor.skip (width + 1))
        | none => .error .badEscape
      | none =>
        match cursor.lineBreak? with
        | some (_, cursor) => breaks cursor [] cursor.chars.length
        | none => .error .badEscape

def space (cursor : Cursor) : Except Fault (List Char × Cursor) :=
  let blanks := cursor.chars.takeWhile fun c => c == ' ' || c == '\t'
  let cursor := cursor.skip blanks.length
  match cursor.lineBreak? with
  | some (c, cursor) =>
    (breaks cursor [] cursor.chars.length).map fun (rest, cursor) => (folded c rest, cursor)
  | none => if cursor.chars.isEmpty then .error .unclosedQuote else .ok (blanks, cursor)

/-- The text up to the closing quote and the cursor behind it. Each piece takes a character. -/
def content (quote : Char) (cursor : Cursor) (read : List Char) :
    Nat → Except Fault (List Char × Cursor)
  | 0 => .error .unclosedQuote
  | pieces + 1 =>
    match cursor.head? with
    | none => .error .unclosedQuote
    | some c =>
      if c == quote then
        if quote == '\'' && cursor.second? == some quote then
          content quote cursor.next.next (quote :: read) pieces
        else .ok (read.reverse, cursor.next)
      else if c == '\\' && quote == '"' then
        match escape cursor.next with
        | .error fault => .error fault
        | .ok (text, cursor) => content quote cursor (text.reverse ++ read) pieces
      else if isGap (some c) then
        match space cursor with
        | .error fault => .error fault
        | .ok (text, cursor) => content quote cursor (text.reverse ++ read) pieces
      else content quote cursor.next (c :: read) pieces

def read (quote : Char) (cursor : Cursor) : Except Fault (List Char × Cursor) :=
  content quote cursor [] (cursor.chars.length + 1)

end SubmissionGate.Yaml.Quoted
