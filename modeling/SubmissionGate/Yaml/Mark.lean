import SubmissionGate.Text.Utf8
import SubmissionGate.Yaml.Quoted

/-!
# Anchors and tags

An anchor names a node so that a reference can stand for it later. A tag tells the type of a node:
by a handle with a suffix, or whole between angle brackets. What a handle abbreviates is not asked
here.
-/

namespace SubmissionGate.Yaml.Mark

def isNameChar (c : Char) : Bool := c.isAlphanum || c == '-' || c == '_'

def name (cursor : Cursor) : List Char × Cursor :=
  (cursor.chars.takeWhile isNameChar, cursor.skipWhile isNameChar)

def endsName (c : Option Char) : Bool :=
  isGap c || c.any fun c => "?:,]\x7d%@\x60".toList.contains c

def anchor (cursor : Cursor) : Except Fault (String × Cursor) :=
  let (chars, rest) := name cursor
  if !chars.isEmpty && endsName rest.head? then .ok (String.ofList chars, rest)
  else .error .badMark

/-- The handle of a tag: a name between exclamation marks, or such a mark alone. -/
def handle (cursor : Cursor) : Except Fault (String × Cursor) :=
  if cursor.head? != some '!' then .error .badMark
  else if cursor.second? == some ' ' then .ok ("!", cursor.next)
  else
    let (chars, rest) := name cursor.next
    if rest.head? == some '!' then .ok ("!" ++ String.ofList chars ++ "!", rest.next)
    else .error .badMark

def isSuffixChar (c : Char) : Bool :=
  c.isAlphanum || "-;/?:@&=+$,_.!~*\x27()[]".toList.contains c

/-- The bytes that escapes in hexadecimal spell, one behind the other. -/
def escapedBytes : List Char → Except Fault (List UInt8)
  | '%' :: high :: low :: rest =>
    match Quoted.hexDigit? high, Quoted.hexDigit? low with
    | some high, some low => (escapedBytes rest).map (UInt8.ofNat (16 * high + low) :: ·)
    | _, _ => .error .badMark
  | '%' :: _ => .error .badMark
  | _ => .ok []

/-- The characters of a suffix, where escaped bytes are UTF-8. Each step takes a character. -/
def suffixChars (cursor : Cursor) (read : List Char) : Nat → Except Fault (List Char × Cursor)
  | 0 => .ok (read.reverse, cursor)
  | steps + 1 =>
    match cursor.head? with
    | none => .ok (read.reverse, cursor)
    | some c =>
      if c == '%' then
        match escapedBytes cursor.chars with
        | .error fault => .error fault
        | .ok bytes =>
          match Utf8.decode bytes with
          | .error _ => .error .badMark
          | .ok text => suffixChars (cursor.skip (3 * bytes.length)) (text.reverse ++ read) steps
      else if isSuffixChar c then suffixChars cursor.next (c :: read) steps
      else .ok (read.reverse, cursor)

def suffix (cursor : Cursor) : Except Fault (String × Cursor) :=
  match suffixChars cursor [] cursor.chars.length with
  | .error fault => .error fault
  | .ok (chars, rest) =>
    if chars.isEmpty then .error .badMark else .ok (String.ofList chars, rest)

def wholeTag (cursor : Cursor) : Except Fault (String × Cursor) :=
  match suffix cursor with
  | .error fault => .error fault
  | .ok (text, rest) => if rest.head? == some '>' then .ok (text, rest.next) else .error .badMark

def shortTag (cursor : Cursor) : Except Fault (String × String × Cursor) := do
  let word := cursor.next.chars.takeWhile fun c => !isPause (some c)
  let (handle, rest) ← if word.contains '!' then handle cursor else .ok ("!", cursor.next)
  let (text, rest) ← suffix rest
  return (handle, text, rest)

/-- The tag at the cursor: its handle unless it is whole, and its text. An exclamation mark alone is
a whole tag. -/
def tag (cursor : Cursor) : Except Fault (Option String × String × Cursor) := do
  let (handle, text, rest) ←
    if cursor.second? == some '<' then
      (wholeTag (cursor.skip 2)).map fun (text, rest) => (none, text, rest)
    else if isGap cursor.second? then .ok (none, "!", cursor.next)
    else (shortTag cursor).map fun (handle, text, rest) => (some handle, text, rest)
  if isPause rest.head? then return (handle, text, rest) else throw .badMark

end SubmissionGate.Yaml.Mark
