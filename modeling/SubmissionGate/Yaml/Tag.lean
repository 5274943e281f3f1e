import SubmissionGate.Number.Numeral
import SubmissionGate.Yaml.Timestamp

/-!
# Types of nodes

A tag tells the type of a node by its name. A plain scalar without a tag has the type of its form:
it spells nothing, a truth value, a number or a timestamp, or else is a text. Numbers may hold
underscores, have one of four bases, or count in sixties between colons.
-/

namespace SubmissionGate.Yaml

inductive Tag where
  | null
  | bool
  | int
  | real
  | text
  | binary
  | timestamp
  | list
  | map
  | set
  | pairs
  /-- A key under which other maps are merged. -/
  | merge
  /-- The mark for a default, which is a text as a key. -/
  | default
  | unknown
  deriving DecidableEq, Repr, Inhabited

namespace Tag

def commonName : String := "tag:yaml.org,2002:"

def names : List (String × Tag) :=
  [("null", null), ("bool", bool), ("int", int), ("float", real), ("str", text),
    ("binary", binary), ("timestamp", timestamp), ("seq", list), ("map", map), ("set", set),
    ("omap", pairs), ("pairs", pairs), ("merge", merge), ("value", default)]

def ofName (name : String) : Tag :=
  ((names.find? fun entry => commonName ++ entry.1 == name).map (·.2)).getD unknown

def hasParts : Tag → Bool
  | list | map | set | pairs => true
  | _ => false

end Tag

namespace Form

def nullWords : List String := ["", "~", "null", "Null", "NULL"]

def boolWords : List String :=
  ["yes", "Yes", "YES", "no", "No", "NO", "true", "True", "TRUE", "false", "False", "FALSE",
    "on", "On", "ON", "off", "Off", "OFF"]

def reservedWords : List String := ["!", "&", "*"]

def isDigitOrLow (c : Char) : Bool := c.isDigit || c == '_'

def isDigits : List Char → Bool
  | [] => false
  | c :: rest => c.isDigit && rest.all isDigitOrLow

def colonParts : List Char → List (List Char)
  | [] => [[]]
  | c :: rest =>
    if c == ':' then [] :: colonParts rest
    else match colonParts rest with
      | [] => [[c]]
      | part :: parts => (c :: part) :: parts

def isSixtieth : List Char → Bool
  | [c] => c.isDigit
  | [c, d] => '0' ≤ c && c ≤ '5' && d.isDigit
  | _ => false

def isExponent : List Char → Bool
  | [] => true
  | [_] => false
  | mark :: sign :: digits =>
    (mark == 'e' || mark == 'E') && (sign == '+' || sign == '-') && !digits.isEmpty
      && digits.all Char.isDigit

def isFraction (signed : Bool) (body : List Char) : Bool :=
  let whole := body.takeWhile isDigitOrLow
  match body.dropWhile isDigitOrLow with
  | '.' :: rest =>
    let digits := rest.takeWhile isDigitOrLow
    isExponent (rest.dropWhile isDigitOrLow) &&
      if whole.isEmpty then !signed && isDigits digits else isDigits whole
  | _ => false

def isSixtiesWithFraction (body : List Char) : Bool :=
  let parts := colonParts body
  let last := parts.getLastD []
  let rest := last.dropWhile Char.isDigit
  1 < parts.length && isDigits (parts.headD [])
    && ((parts.drop 1).dropLast).all isSixtieth && isSixtieth (last.takeWhile Char.isDigit)
    && rest.head? == some '.' && rest.tail.all isDigitOrLow

def isNonFinite (text body : List Char) : Bool :=
  [".inf", ".Inf", ".INF"].contains (String.ofList body)
    || [".nan", ".NaN", ".NAN"].contains (String.ofList text)

def isReal (text : List Char) : Bool :=
  let (_, body) := Numeral.splitSign text
  isNonFinite text body || isFraction (body.length < text.length) body
    || isSixtiesWithFraction body

def isBinary (c : Char) : Bool := c == '0' || c == '1' || c == '_'

def isOctal (c : Char) : Bool := ('0' ≤ c && c ≤ '7') || c == '_'

def isHex (c : Char) : Bool :=
  isDigitOrLow c || ('a' ≤ c && c ≤ 'f') || ('A' ≤ c && c ≤ 'F')

def isDecimal (body : List Char) : Bool :=
  body == ['0'] || (isDigits body && body.head? != some '0')

def isSixties (body : List Char) : Bool :=
  let parts := colonParts body
  let first := parts.headD []
  1 < parts.length && isDecimal first && first != ['0'] && (parts.drop 1).all isSixtieth

def isInt (text : List Char) : Bool :=
  match (Numeral.splitSign text).2 with
  | '0' :: 'b' :: digits => !digits.isEmpty && digits.all isBinary
  | '0' :: 'x' :: digits => !digits.isEmpty && digits.all isHex
  | '0' :: digit :: digits => (digit :: digits).all isOctal
  | body => isDecimal body || isSixties body

/-- The text without a line break at its end, unless it is nothing else. -/
def withoutLastBreak (text : List Char) : List Char :=
  if 1 < text.length && text.getLast? == some '\n' then text.dropLast else text

end Form

open Form in
def Tag.ofForm (text : List Char) : Tag :=
  let text := withoutLastBreak text
  let word := String.ofList text
  if boolWords.contains word then bool
  else if isReal text then real
  else if isInt text then int
  else if word == "<<" then merge
  else if nullWords.contains word then null
  else if isTimestamp text then timestamp
  else if word == "=" then default
  else if reservedWords.contains word then unknown
  else .text

end SubmissionGate.Yaml
