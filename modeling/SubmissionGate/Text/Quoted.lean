import SubmissionGate.Text.Printable
import SubmissionGate.Text.Utf8

/-!
# Quoted text

A text between quotes on one line: the quote is single unless only that one occurs inside, and
whatever does not print is escaped by its code point.
-/

namespace SubmissionGate.Text.Quoted

def quoteFor (text : List Char) : Char :=
  if text.contains '\'' && !text.contains '"' then '"' else '\''

def hex (width n : Nat) : List Char :=
  let digits := Nat.toDigits 16 n
  List.replicate (width - digits.length) '0' ++ digits

def escapeCode (point : Nat) : List Char :=
  if point < 0x100 then '\\' :: 'x' :: hex 2 point
  else if point < 0x10000 then '\\' :: 'u' :: hex 4 point
  else '\\' :: 'U' :: hex 8 point

def escape (quote c : Char) : List Char :=
  if c == quote || c == '\\' then ['\\', c]
  else if c == '\n' then ['\\', 'n']
  else if c == '\r' then ['\\', 'r']
  else if c == '\t' then ['\\', 't']
  else if isPrintable c then [c]
  else escapeCode c.toNat

def encode (text : List Char) : List Char :=
  let quote := quoteFor text
  quote :: (text.flatMap (escape quote) ++ [quote])

def text (s : String) : String := String.ofList (encode s.toList)

/-- The quoted form of a byte string: only printable ASCII stands for itself. -/
def bytes (data : List UInt8) : String :=
  let chars := data.map fun byte => Char.ofNat byte.toNat
  let quote := quoteFor chars
  let body := chars.flatMap fun c =>
    if c.toNat < 127 then escape quote c else escapeCode c.toNat
  String.ofList ('b' :: quote :: (body ++ [quote]))

end SubmissionGate.Text.Quoted
