import SubmissionGate.Text.CaseTable

/-!
# Letter case

Full Unicode case conversion of a text. Lower-casing a capital sigma depends on its neighbours:
at the end of a word it becomes the final form, elsewhere the ordinary one.
-/

namespace SubmissionGate.Text

def isCaseIgnorable (c : Char) : Bool := caseIgnorableRanges.holds c.toNat

def isCased (c : Char) : Bool := casedRanges.holds c.toNat

def lowerChar (c : Char) : List Char :=
  let point := c.toNat
  if point < 128 then [c.toLower]
  else if point == 0x130 then ['i', '\u0307']
  else match CaseRun.search lowerRuns point 0 lowerRuns.size with
    | some image => [Char.ofNat image]
    | none => [c]

def upperChar (c : Char) : List Char :=
  let point := c.toNat
  if point < 128 then [c.toUpper]
  else match upperExpansions.find? (·.1 == point) with
    | some (_, image) => image.map Char.ofNat
    | none => match CaseRun.search upperRuns point 0 upperRuns.size with
      | some image => [Char.ofNat image]
      | none => [c]

def titleChar (c : Char) : List Char :=
  match titleExceptions.find? (·.1 == c.toNat) with
  | some (_, image) => image.map Char.ofNat
  | none => upperChar c

def startsCased (text : List Char) : Bool :=
  match text.dropWhile isCaseIgnorable with
  | [] => false
  | c :: _ => isCased c

/-- Lower-cases a text whose preceding character that counts was cased or not. -/
def lowerAfter (afterCased : Bool) : List Char → List Char → List Char
  | [], lowered => lowered.reverse
  | c :: rest, lowered =>
    let image :=
      if c == 'Σ' then (if afterCased && !startsCased rest then ['ς'] else ['σ']) else lowerChar c
    let cased := if isCaseIgnorable c then afterCased else isCased c
    lowerAfter cased rest (image.reverse ++ lowered)

def lower (text : List Char) : List Char := lowerAfter false text []

def upper (text : List Char) : List Char := text.flatMap upperChar

def capitalize : List Char → List Char
  | [] => []
  | c :: rest =>
    let cased := if isCaseIgnorable c then false else isCased c
    titleChar c ++ lowerAfter cased rest []

def lowercased (text : String) : String := String.ofList (lower text.toList)

def uppercased (text : String) : String := String.ofList (upper text.toList)

def capitalized (text : String) : String := String.ofList (capitalize text.toList)

end SubmissionGate.Text
