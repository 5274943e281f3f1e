import SubmissionGate.Value
import SubmissionGate.Text.Quoted

/-!
# Writing JSON

Values are written in ASCII, on one line or indented by two blanks a level. Characters above the
basic plane become two code escapes.
-/

namespace SubmissionGate.Json

def codeEscapeText (unit : Nat) : List Char := '\\' :: 'u' :: Text.Quoted.hex 4 unit

def escapeChar (c : Char) : List Char :=
  if c == '"' || c == '\\' then ['\\', c]
  else if c == '\n' then ['\\', 'n']
  else if c == '\r' then ['\\', 'r']
  else if c == '\t' then ['\\', 't']
  else if c == '\x0c' then ['\\', 'f']
  else if c == '\x08' then ['\\', 'b']
  else
    let point := c.toNat
    if 0x20 ≤ point && point < 0x7f then [c]
    else if point < 0x10000 then codeEscapeText point
    else
      let high := 0xD800 + (point - 0x10000) / 1024
      let low := 0xDC00 + (point - 0x10000) % 1024
      codeEscapeText high ++ codeEscapeText low

def quote (s : String) : String :=
  String.ofList ('"' :: (s.toList.flatMap escapeChar ++ ['"']))

def numberText : Number → String
  | .real .nan => "NaN"
  | .real (.infinity negative) => if negative then "-Infinity" else "Infinity"
  | n => n.text

inductive Style where
  | compact
  | indented (level : Nat)

namespace Style

def deeper : Style → Style
  | compact => compact
  | indented level => indented (level + 1)

def lead : Style → String
  | compact => ""
  | indented level => "\n" ++ String.ofList (List.replicate (2 * level) ' ')

def colon : Style → String
  | compact => ":"
  | indented _ => ": "

end Style

mutual

def append (style : Style) (out : String) : Value → String
  | .null => out ++ "null"
  | .bool b => out ++ (if b then "true" else "false")
  | .number n => out ++ numberText n
  | .text s => out ++ quote s
  | .bytes data => out ++ quote (Text.Quoted.bytes data)
  | .timestamp t => out ++ quote t.text
  | .list [] => out ++ "[]"
  | .list (item :: rest) =>
    let inner := style.deeper
    let out := append inner (out ++ "[" ++ inner.lead) item
    appendItems inner out rest ++ style.lead ++ "]"
  | .map [] => out ++ "\x7b\x7d"
  | .map ((key, item) :: rest) =>
    let inner := style.deeper
    let out := append inner (out ++ "\x7b" ++ inner.lead ++ quote key.display ++ inner.colon) item
    appendEntries inner out rest ++ style.lead ++ "\x7d"

def appendItems (style : Style) (out : String) : List Value → String
  | [] => out
  | item :: rest => appendItems style (append style (out ++ "," ++ style.lead) item) rest

def appendEntries (style : Style) (out : String) : List (Value × Value) → String
  | [] => out
  | (key, item) :: rest =>
    let out := out ++ "," ++ style.lead ++ quote key.display ++ style.colon
    appendEntries style (append style out item) rest

end

def compact (value : Value) : String := append .compact "" value

def indented (value : Value) : String := append (.indented 0) "" value

end SubmissionGate.Json
