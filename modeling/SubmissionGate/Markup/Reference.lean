import Std.Data.HashMap
import SubmissionGate.Json.Document
import SubmissionGate.Markup.ReferenceTable

/-!
# Character references

A character reference is replaced by the characters it stands for. Numeric references follow the
HTML standard's repairs; of a name without its semicolon the longest known beginning counts. A
decimal reference with too many digits cannot be read at all.
-/

namespace SubmissionGate.Markup

def hexNumber (digits : List Char) : Nat :=
  digits.foldl (fun n c => 16 * n + (Json.hexValue? c).getD 0) 0

def pointsText (word : List Char) : List Char :=
  let (points, last) := word.foldl
    (fun (points, point) c =>
      if c == '.' then (Char.ofNat point :: points, 0)
      else (points, 16 * point + (Json.hexValue? c).getD 0))
    (([] : List Char), 0)
  (Char.ofNat last :: points).reverse

def addReferences (table : Std.HashMap String (List Char)) :
    List (List Char) → Std.HashMap String (List Char)
  | name :: points :: rest =>
    addReferences (table.insert (String.ofList name) (pointsText points)) rest
  | _ => table

def namedReferences : Std.HashMap String (List Char) :=
  referenceLines.foldl (fun table line => addReferences table (Text.words line.toList)) ∅

/-- What the code points from 128 to 159 are taken for. -/
def controlRepairs : List Nat :=
  [0x20AC, 0x81, 0x201A, 0x192, 0x201E, 0x2026, 0x2020, 0x2021, 0x2C6, 0x2030, 0x160, 0x2039,
    0x152, 0x8D, 0x17D, 0x8F, 0x90, 0x2018, 0x2019, 0x201C, 0x201D, 0x2022, 0x2013, 0x2014, 0x2DC,
    0x2122, 0x161, 0x203A, 0x153, 0x9D, 0x17E, 0x178]

def isDropped (point : Nat) : Bool :=
  (1 ≤ point && point ≤ 8) || point == 0xB || (0xE ≤ point && point ≤ 0x1F) || point == 0x7F
    || (0xFDD0 ≤ point && point ≤ 0xFDEF) || 0xFFFE ≤ point % 0x10000

def numericText (point : Nat) : List Char :=
  if point == 0 then ['\uFFFD']
  else if 0x80 ≤ point && point ≤ 0x9F then
    [Char.ofNat ((controlRepairs[point - 0x80]?).getD point)]
  else if (0xD800 ≤ point && point ≤ 0xDFFF) || 0x10FFFF < point then ['\uFFFD']
  else if isDropped point then []
  else [Char.ofNat point]

def continuesReference (c : Char) : Bool :=
  !(c == '\t' || c == '\n' || c == '\x0c' || c == ' ' || c == '<' || c == '&' || c == '#'
    || c == ';')

/-- The longest beginning of a name, of at most the given length, that is a name of its own. -/
def longestName (name : List Char) : Nat → Option (List Char × List Char)
  | 0 => none
  | 1 => none
  | size + 1 =>
    match namedReferences[String.ofList (name.take (size + 1))]? with
    | some text => some (text, name.drop (size + 1))
    | none => longestName name size

def namedText (name : List Char) : List Char :=
  match namedReferences[String.ofList name]? with
  | some text => text
  | none =>
    match longestName name (name.length - 1) with
    | some (text, rest) => text ++ rest
    | none => '&' :: name

def semicolon (rest : List Char) : Nat := if rest.head? == some ';' then 1 else 0

/-- The text of the reference behind an ampersand and its length; `none` where there is none. A
decimal reference beyond the digit limit is a fault with its digit count. -/
def reference (rest : List Char) : Except Nat (Option (List Char × Nat)) :=
  match rest with
  | '#' :: x :: digits =>
    if x == 'x' || x == 'X' then
      let hex := digits.takeWhile fun c => (Json.hexValue? c).isSome
      if hex.isEmpty then .ok none
      else
        let size := 2 + hex.length
        .ok (some (numericText (hexNumber hex), size + semicolon (rest.drop size)))
    else
      let decimal := (x :: digits).takeWhile Char.isDigit
      if decimal.isEmpty then .ok none
      else if decimal.length > Numeral.digitLimit then .error decimal.length
      else
        let size := 1 + decimal.length
        .ok (some (numericText (Numeral.ofDigits decimal), size + semicolon (rest.drop size)))
  | _ =>
    let name := (rest.take 32).takeWhile continuesReference
    if name.isEmpty then .ok none
    else
      let size := name.length + semicolon (rest.drop name.length)
      .ok (some (namedText (rest.take size), size))

/-- Replaces the references of a text, behind what was read so far in reverse. -/
def resolveFrom (text read : List Char) : Except Nat (List Char) :=
  match text with
  | [] => .ok read.reverse
  | '&' :: rest =>
    match reference rest with
    | .error count => .error count
    | .ok none => resolveFrom rest ('&' :: read)
    | .ok (some (image, size)) => resolveFrom (rest.drop size) (image.reverse ++ read)
  | c :: rest => resolveFrom rest (c :: read)
termination_by text.length
decreasing_by all_goals (simp; try omega)

def resolveReferences (text : List Char) : Except Nat (List Char) :=
  if text.contains '&' then resolveFrom text [] else .ok text

end SubmissionGate.Markup
