import SubmissionGate.Text.LetterCase
import SubmissionGate.Text.Space

/-!
# Hosts of script addresses

The host that a script address names. Control characters before an address and tabs and line breaks
inside it are ignored; an address whose authority is malformed, or whose scheme is neither `http`
nor `https`, has no host.
-/

namespace SubmissionGate.Url

open SubmissionGate.Text

def isControlOrSpace (c : Char) : Bool := c.toNat ≤ 32

def isTabOrBreak (c : Char) : Bool := c == '\t' || c == '\n' || c == '\r'

def isSchemeChar (c : Char) : Bool := c.isAlphanum || c == '+' || c == '-' || c == '.'

/-- An address without control characters before it and without tabs and line breaks inside it. -/
def stripped (address : List Char) : List Char :=
  (address.dropWhile isControlOrSpace).filter fun c => !isTabOrBreak c

def cleaned (address : List Char) : List Char := stripped (trim address)

def splitFirst (c : Char) (text : List Char) : List Char × Option (List Char) :=
  let before := text.takeWhile (· != c)
  match text.drop before.length with
  | [] => (before, none)
  | _ :: behind => (before, some behind)

def behindLast (c : Char) (text : List Char) : List Char :=
  (text.reverse.takeWhile (· != c)).reverse

/-- The scheme of an address, in lower case and empty if it has none, and the rest. -/
def splitScheme (address : List Char) : List Char × List Char :=
  match splitFirst ':' address with
  | (scheme, some rest) =>
    if scheme.head?.any Char.isAlpha && scheme.all isSchemeChar then (lower scheme, rest)
    else ([], address)
  | (_, none) => ([], address)

/-- The authority of an address behind its scheme; it ends at a slash, a question mark or a hash. -/
def authority (rest : List Char) : List Char :=
  match rest with
  | '/' :: '/' :: rest => rest.takeWhile fun c => !(c == '/' || c == '?' || c == '#')
  | _ => []

/-- Characters whose compatibility form holds one that delimits an authority. -/
def disguisedDelimiters : List Nat :=
  [0x2047, 0x2048, 0x2049, 0x2100, 0x2101, 0x2105, 0x2106, 0x2A74, 0xFE13, 0xFE16, 0xFE55, 0xFE56,
    0xFE5F, 0xFE6B, 0xFF03, 0xFF0F, 0xFF1A, 0xFF1F, 0xFF20]

def isDisguised (c : Char) : Bool := disguisedDelimiters.contains c.toNat

def isHexDigit (c : Char) : Bool :=
  c.isDigit || ('a' ≤ c && c ≤ 'f') || ('A' ≤ c && c ≤ 'F')

def pieces (c : Char) (text : List Char) : List (List Char) :=
  let (found, last) := text.foldr
    (fun x (found, last) => if x == c then (last :: found, []) else (found, x :: last))
    (([] : List (List Char)), ([] : List Char))
  last :: found

def isOctet (text : List Char) : Bool :=
  !text.isEmpty && text.length ≤ 3 && text.all Char.isDigit
    && (text == ['0'] || text.head? != some '0')
    && text.foldl (fun n c => 10 * n + (c.toNat - 48)) 0 ≤ 255

def isDotted (text : List Char) : Bool :=
  let octets := pieces '.' text
  octets.length == 4 && octets.all isOctet

def isHextet (text : List Char) : Bool :=
  !text.isEmpty && text.length ≤ 4 && text.all isHexDigit

/-- The pieces with a dotted address at the end counted as two numbers. -/
def expandDotted (parts : List (List Char)) : Option (List (List Char)) :=
  match parts.getLast? with
  | some last =>
    if last.contains '.' then
      if isDotted last then some (parts.dropLast ++ [['0'], ['0']]) else none
    else some parts
  | none => none

/-- Whether the pieces around one gap, or without a gap, make up eight numbers. -/
def hasEightNumbers (parts : List (List Char)) : Bool :=
  let inner := parts.drop 1 |>.dropLast
  let gaps := inner.filter List.isEmpty
  if gaps.isEmpty then parts.length == 8 && parts.all isHextet
  else
    let before := parts.takeWhile fun part => !part.isEmpty
    let (high, rest) :=
      if before.isEmpty then ([], parts.drop 2) else (before, parts.drop (before.length + 1))
    let edge := if before.isEmpty then ((parts[1]?).getD ['0']).isEmpty else true
    let low := if rest == [[]] then [] else rest
    gaps.length == 1 && edge && high.all isHextet && low.all isHextet
      && high.length + low.length ≤ 7

def isColonAddress (text : List Char) : Bool :=
  let (address, zone) := splitFirst '%' text
  let zoneOk := match zone with
    | none => true
    | some zone => !zone.isEmpty && !zone.contains '%'
  let parts := pieces ':' address
  zoneOk && 3 ≤ parts.length &&
    match expandDotted parts with
    | none => false
    | some parts => parts.length ≤ 9 && hasEightNumbers parts

def isFutureAddress (text : List Char) : Bool :=
  match text with
  | 'v' :: rest =>
    let version := rest.takeWhile isHexDigit
    match rest.drop version.length with
    | '.' :: _ :: _ => !version.isEmpty
    | _ => false
  | _ => false

def isBracketedHost (text : List Char) : Bool :=
  if text.head? == some 'v' then isFutureAddress text else isColonAddress text

/-- Whether the host of an authority with brackets is an address, in brackets with at most a port
behind them. This is the rule of 3.11.12 and later; up to 3.11.10 `//a[::1]/x.js` has a host too. -/
def hasBracketedHost (authority : List Char) : Bool :=
  let behindUser := behindLast '@' authority
  match splitFirst '[' behindUser with
  | (before, some bracketed) =>
    let (host, port) := splitFirst ']' bracketed
    let port := port.getD []
    before.isEmpty && (port.isEmpty || port.head? == some ':') && isBracketedHost host
  | (_, none) => isBracketedHost (splitFirst ':' behindUser).1

def isWellFormed (authority : List Char) : Bool :=
  let opens := authority.contains '['
  let closes := authority.contains ']'
  let bracketsOk := if opens && closes then hasBracketedHost authority else !opens && !closes
  bracketsOk && !authority.any isDisguised

def hostOf (authority : List Char) : List Char :=
  let behindUser := behindLast '@' authority
  match splitFirst '[' behindUser with
  | (_, some bracketed) => (splitFirst ']' bracketed).1
  | (_, none) => (splitFirst ':' behindUser).1

/-- The host of a script address in lower case; empty if it has none. -/
def hostOfScript (address : List Char) : List Char :=
  let (scheme, rest) := splitScheme (cleaned address)
  let authority := authority rest
  if !isWellFormed authority then []
  else if !scheme.isEmpty && scheme != "http".toList && scheme != "https".toList then []
  else
    let (name, zone) := splitFirst '%' (hostOf authority)
    lower (lower name ++ (match zone with
      | none => []
      | some zone => '%' :: zone))

end SubmissionGate.Url
