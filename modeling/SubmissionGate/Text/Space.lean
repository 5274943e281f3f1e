import SubmissionGate.Text.CodePoints

/-!
# Blank characters

White space is the white space and separator class of Unicode 14 together with the four ASCII
information separators. Trimming, splitting into words and collapsing all use this one class.
-/

namespace SubmissionGate.Text

def spaceRanges : CodePoints := #[
  (0x9, 0xD), (0x1C, 0x20), (0x85, 0x85), (0xA0, 0xA0), (0x1680, 0x1680), (0x2000, 0x200A),
  (0x2028, 0x2029), (0x202F, 0x202F), (0x205F, 0x205F), (0x3000, 0x3000)]

def isSpace (c : Char) : Bool :=
  let point := c.toNat
  if point < 128 then (9 ≤ point && point ≤ 13) || (28 ≤ point && point ≤ 32)
  else spaceRanges.holds point

def trimEnd (text : List Char) : List Char := (text.reverse.dropWhile isSpace).reverse

def trim (text : List Char) : List Char := trimEnd (text.dropWhile isSpace)

def collapse (text : List Char) : List Char := text.filter fun c => !isSpace c

def words (text : List Char) : List (List Char) :=
  loop text [] []
where
  loop : List Char → List Char → List (List Char) → List (List Char)
    | [], word, found => (close word found).reverse
    | c :: rest, word, found =>
      if isSpace c then loop rest [] (close word found) else loop rest (c :: word) found
  close (word : List Char) (found : List (List Char)) : List (List Char) :=
    if word.isEmpty then found else word.reverse :: found

def trimmed (text : String) : String := String.ofList (trim text.toList)

end SubmissionGate.Text
