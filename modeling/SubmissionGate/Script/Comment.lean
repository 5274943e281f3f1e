import SubmissionGate.Script.Segment

/-!
# Removing comments

One pass drops every line comment and leaves of a block comment its line breaks, or one blank where
it spans none. Removing a comment may turn what a failed regular expression hid into a new one, so
the pass is repeated until the text no longer changes, at most `passLimit` times.
-/

namespace SubmissionGate.Script

def Segment.kept (segment : Segment) : List Char :=
  match segment.kind with
  | .lineComment => []
  | .blockComment =>
    let breaks := segment.text.count '\n'
    if breaks == 0 then [' '] else List.replicate breaks '\n'
  | _ => segment.text

def stripPass (source : List Char) : List Char := (scan source).flatMap Segment.kept

/-- The most passes that are made over a script. -/
def passLimit : Nat := 8

/-- Repeats the pass until nothing changes, at most the given number of times. -/
def stripWithin : Nat → List Char → List Char
  | 0, text => text
  | passes + 1, text =>
    let stripped := stripPass text
    if stripped == text then text else stripWithin passes stripped

def stripComments (source : List Char) : List Char :=
  if source.contains '/' then stripWithin passLimit source else source

end SubmissionGate.Script
