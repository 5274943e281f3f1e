import SubmissionGate.Yaml.Cursor
import SubmissionGate.Yaml.Fault

/-!
# Block scalars

A block scalar consists of the lines below its mark that are indented far enough. Its first line may
say how far that is and what becomes of the line breaks at its end. In a folded scalar a line break
between two lines that start with text stands for a blank.
-/

namespace SubmissionGate.Yaml.Block

/-- What becomes of the line breaks at the end: all go, one stays or all stay. -/
inductive Chomping where
  | strip
  | clip
  | keep
  deriving DecidableEq, Repr

structure Header where
  chomping : Chomping
  /-- How far the lines are indented beyond the collection around them. -/
  width : Option Nat

def chomping? (cursor : Cursor) : Option Chomping × Cursor :=
  match cursor.head? with
  | some '+' => (some .keep, cursor.next)
  | some '-' => (some .strip, cursor.next)
  | _ => (none, cursor)

def width? (cursor : Cursor) : Except Fault (Option Nat × Cursor) :=
  match cursor.head? with
  | some c =>
    if c == '0' then .error .badHeader
    else if c.isDigit then .ok (some (c.toNat - '0'.toNat), cursor.next)
    else .ok (none, cursor)
  | none => .ok (none, cursor)

def header (cursor : Cursor) : Except Fault (Header × Cursor) := do
  let (early, cursor) := chomping? cursor
  let (width, cursor) ← width? cursor
  let (chomping, cursor) := if early.isSome then (early, cursor) else chomping? cursor
  if !isPause cursor.head? then throw .badHeader
  match cursor.lineEnd? with
  | some cursor => return (⟨chomping.getD .clip, width⟩, cursor)
  | none => throw .badHeader

/-- The line breaks in front of the first line with a text, last first, and the rightmost column
that is reached on the way. Each step takes a character. -/
def leadingBreaks (cursor : Cursor) (read : List Char) (column : Nat) :
    Nat → List Char × Nat × Cursor
  | 0 => (read, column, cursor)
  | steps + 1 =>
    if cursor.head? == some ' ' then
      leadingBreaks cursor.next read (max column cursor.next.column) steps
    else match cursor.lineBreak? with
      | some (c, cursor) => leadingBreaks cursor (c :: read) column steps
      | none => (read, column, cursor)

def indented (indent : Nat) (cursor : Cursor) : Cursor :=
  let blanks := (cursor.chars.takeWhile (· == ' ')).length
  cursor.skip (min blanks (indent - cursor.column))

/-- The line breaks of lines without a text, last first, and the cursor where the next line starts.
Each step takes a character. -/
def breaks (indent : Nat) (cursor : Cursor) (read : List Char) : Nat → List Char × Cursor
  | 0 => (read, indented indent cursor)
  | steps + 1 =>
    let cursor := indented indent cursor
    match cursor.lineBreak? with
    | some (c, cursor) => breaks indent cursor (c :: read) steps
    | none => (read, cursor)

structure Lines where
  cursor : Cursor
  text : List Char
  /-- The line break behind the last line with a text, if there is one. -/
  lineBreak : List Char
  breaks : List Char

def isBlank (c : Option Char) : Bool := c == some ' ' || c == some '\t'

/-- What joins a line to the next one, from the line break between them and the breaks behind it. -/
def joint (folds : Bool) (lineBreak breaks : List Char) : List Char :=
  if folds && lineBreak == ['\n'] then if breaks.isEmpty then [' '] else [] else lineBreak

/-- Reads the lines that are indented up to a column. Each of them takes a character. -/
def readLines (folded : Bool) (indent : Nat) (lines : Lines) : Nat → Lines
  | 0 => lines
  | steps + 1 =>
    let starts := fun (cursor : Cursor) => cursor.column == indent && !cursor.chars.isEmpty
    if !starts lines.cursor then lines
    else
      let first := lines.cursor.head?
      let line := lines.cursor.chars.takeWhile fun c => !isBreak c
      let behind := lines.cursor.skip line.length
      let (lineBreak, cursor) := match behind.lineBreak? with
        | some (c, cursor) => ([c], cursor)
        | none => ([], behind)
      let (blankLines, cursor) := breaks indent cursor [] cursor.chars.length
      let text := line.reverse ++ lines.breaks ++ lines.text
      if starts cursor then
        let folds := folded && !isBlank first && !isBlank cursor.head?
        let text := joint folds lineBreak blankLines ++ text
        readLines folded indent ⟨cursor, text, lineBreak, blankLines⟩ steps
      else ⟨cursor, text, lineBreak, blankLines⟩

def Lines.chomped (lines : Lines) (chomping : Chomping) : List Char :=
  match chomping with
  | .strip => lines.text.reverse
  | .clip => (lines.lineBreak ++ lines.text).reverse
  | .keep => (lines.breaks ++ lines.lineBreak ++ lines.text).reverse

def read (folded : Bool) (around : Int) (cursor : Cursor) : Except Fault (List Char × Cursor) := do
  let (header, cursor) ← header cursor
  let least := max 1 (around + 1).toNat
  let (indent, blankLines, cursor) := match header.width with
    | none =>
      let (found, column, cursor) := leadingBreaks cursor [] 0 cursor.chars.length
      (max least column, found, cursor)
    | some width =>
      let indent := least + width - 1
      let (found, cursor) := breaks indent cursor [] cursor.chars.length
      (indent, found, cursor)
  let lines := readLines folded indent ⟨cursor, [], [], blankLines⟩ cursor.chars.length
  return (lines.chomped header.chomping, lines.cursor)

end SubmissionGate.Yaml.Block
