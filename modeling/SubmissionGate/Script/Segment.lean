import SubmissionGate.Text.Alphanumeric
import SubmissionGate.Text.Space

/-!
# Lexical segments of a script

A script is cut into contiguous segments: code, strings, template text, regular expressions and
comments. The scan keeps just enough state to tell them apart: the depth of the code braces, the
depths at which template interpolations were opened, and whether a slash may start a regular
expression. The segments spell the script.
-/

namespace SubmissionGate.Script

open SubmissionGate.Text

inductive SegmentKind where
  | code
  | string
  | template
  | regex
  | lineComment
  | blockComment
  deriving DecidableEq, Repr

/-- A piece of a script of one lexical kind; `nested` marks what lies inside an interpolation. -/
structure Segment where
  kind : SegmentKind
  text : List Char
  nested : Bool
  deriving DecidableEq, Repr

def Segment.isComment (segment : Segment) : Bool :=
  segment.kind == .lineComment || segment.kind == .blockComment

structure ScanState where
  depth : Nat
  /-- The brace depths at which the open interpolations began, the innermost first. -/
  holes : List Nat
  regexAllowed : Bool
  /-- Set after a failed attempt at a regular expression, until the line ends. -/
  regexBarred : Bool
  deriving DecidableEq, Repr

def ScanState.start : ScanState := ⟨0, [], true, false⟩

def ScanState.nested (state : ScanState) : Bool := !state.holes.isEmpty

def isBreak (c : Char) : Bool :=
  c == '"' || c == '\'' || c == '`' || c == '/' || c == '\x7b' || c == '\x7d'

def isIdentifierChar (c : Char) : Bool := isWordChar c || c == '$'

def wordsBeforeRegex : List String :=
  ["return", "typeof", "instanceof", "in", "of", "new", "delete", "void", "throw", "case", "do",
    "else", "yield", "await"]

/-- Whether a slash after a run of code may start a regular expression; `none` for a blank run. -/
def admitsRegex (run : List Char) : Option Bool :=
  match run.reverse.dropWhile isSpace with
  | [] => none
  | last :: before =>
    if isIdentifierChar last then
      let word := ((last :: before).takeWhile isIdentifierChar).reverse
      some (wordsBeforeRegex.contains (String.ofList word))
    else some (last != ')' && last != ']')

/-- The rest of a string behind its quote: to the closing quote, or up to the end of the line. -/
def stringTail (quote : Char) : List Char → List Char → List Char × List Char
  | [], taken => (taken.reverse, [])
  | '\\' :: c :: rest, taken => stringTail quote rest (c :: '\\' :: taken)
  | c :: rest, taken =>
    if c == quote then ((c :: taken).reverse, rest)
    else if c == '\n' then (taken.reverse, c :: rest)
    else stringTail quote rest (c :: taken)

/-- Template text up to its end, and whether it ended at the opener of an interpolation. -/
def templateTail : List Char → List Char → List Char × List Char × Bool
  | [], taken => (taken.reverse, [], false)
  | '\\' :: c :: rest, taken => templateTail rest (c :: '\\' :: taken)
  | '$' :: '\x7b' :: rest, taken => (('\x7b' :: '$' :: taken).reverse, rest, true)
  | c :: rest, taken =>
    if c == '`' then ((c :: taken).reverse, rest, false) else templateTail rest (c :: taken)

def regexTail (inClass : Bool) : List Char → List Char → Option (List Char × List Char)
  | [], _ => none
  | '\\' :: c :: rest, taken => regexTail inClass rest (c :: '\\' :: taken)
  | c :: rest, taken =>
    if c == '\n' || c == '\r' then none
    else if c == '/' && !inClass then some ((c :: taken).reverse, rest)
    else
      let inClass := if c == '[' then true else if c == ']' then false else inClass
      regexTail inClass rest (c :: taken)

def blockTail : List Char → List Char → List Char × List Char
  | [], taken => (taken.reverse, [])
  | '*' :: '/' :: rest, taken => (('/' :: '*' :: taken).reverse, rest)
  | c :: rest, taken => blockTail rest (c :: taken)

structure Step where
  segment : Segment
  rest : List Char
  state : ScanState

namespace ScanState

def codeStep (state : ScanState) (source : List Char) : Step :=
  let run := source.takeWhile fun c => !isBreak c
  { segment := ⟨.code, run, state.nested⟩
    rest := source.dropWhile fun c => !isBreak c
    state := { state with regexAllowed := (admitsRegex run).getD state.regexAllowed } }

def singleStep (state : ScanState) (c : Char) (rest : List Char) : Step :=
  { segment := ⟨.code, [c], state.nested⟩
    rest
    state := { state with regexAllowed := true } }

def stringStep (state : ScanState) (quote : Char) (rest : List Char) : Step :=
  let (taken, left) := stringTail quote rest [quote]
  { segment := ⟨.string, taken, state.nested⟩
    rest := left
    state := { state with regexAllowed := false } }

def templateStep (state : ScanState) (c : Char) (rest : List Char) : Step :=
  let (taken, left, opened) := templateTail rest [c]
  { segment := ⟨.template, taken, state.nested⟩
    rest := left
    state := { state with
      holes := if opened then state.depth :: state.holes else state.holes
      regexAllowed := opened } }

def commentStep (state : ScanState) (kind : SegmentKind) (taken left : List Char) : Step :=
  { segment := ⟨kind, taken, state.nested⟩, rest := left, state }

def slashStep (state : ScanState) (rest : List Char) : Step :=
  if state.regexAllowed && !state.regexBarred then
    match regexTail false rest ['/'] with
    | some (taken, left) =>
      { segment := ⟨.regex, taken, state.nested⟩
        rest := left
        state := { state with regexAllowed := false } }
    | none => { state with regexBarred := true }.singleStep '/' rest
  else state.singleStep '/' rest

def construct (state : ScanState) (c : Char) (rest : List Char) : Step :=
  if c == '"' || c == '\'' then state.stringStep c rest
  else if c == '`' then state.templateStep c rest
  else if c == '\x7d' then
    match state.holes with
    | hole :: outer =>
      if hole == state.depth then { state with holes := outer }.templateStep c rest
      else { state with depth := state.depth - 1 }.singleStep c rest
    | [] => { state with depth := state.depth - 1 }.singleStep c rest
  else if c == '\x7b' then { state with depth := state.depth + 1 }.singleStep c rest
  else if c == '/' then
    match rest with
    | '/' :: _ =>
      state.commentStep .lineComment ('/' :: rest.takeWhile (· != '\n'))
        (rest.dropWhile (· != '\n'))
    | '*' :: inner =>
      let (taken, left) := blockTail inner ['*', '/']
      state.commentStep .blockComment taken left
    | _ => state.slashStep rest
  else state.codeStep (c :: rest)

/-- The end of a line lifts the bar on regular expressions. -/
def afterText (state : ScanState) (text : List Char) : ScanState :=
  if state.regexBarred && text.contains '\n' then { state with regexBarred := false } else state

def next (state : ScanState) (c : Char) (rest : List Char) : Step :=
  let step := state.construct c rest
  { step with state := step.state.afterText step.segment.text }

end ScanState

theorem stringTail_append (quote : Char) (source taken : List Char) :
    (stringTail quote source taken).1 ++ (stringTail quote source taken).2 =
      taken.reverse ++ source := by
  fun_induction stringTail quote source taken <;> simp_all

theorem templateTail_append (source taken : List Char) :
    (templateTail source taken).1 ++ (templateTail source taken).2.1 =
      taken.reverse ++ source := by
  fun_induction templateTail source taken <;> simp_all

theorem blockTail_append (source taken : List Char) :
    (blockTail source taken).1 ++ (blockTail source taken).2 = taken.reverse ++ source := by
  fun_induction blockTail source taken <;> simp_all

theorem regexTail_append {inClass : Bool} {source taken text left : List Char}
    (h : regexTail inClass source taken = some (text, left)) :
    text ++ left = taken.reverse ++ source := by
  fun_induction regexTail inClass source taken with
  | case4 inClass c rest taken _ _ hSlash =>
    obtain ⟨rfl, rfl⟩ := Prod.mk.inj (Option.some.inj h)
    simp
  | case2 | case5 => simp_all
  | _ => simp at h

namespace ScanState

theorem codeStep_append (state : ScanState) (source : List Char) :
    (state.codeStep source).segment.text ++ (state.codeStep source).rest = source := by
  simp [codeStep]

theorem stringStep_append (state : ScanState) (c : Char) (rest : List Char) :
    (state.stringStep c rest).segment.text ++ (state.stringStep c rest).rest = c :: rest :=
  stringTail_append c rest [c]

theorem templateStep_append (state : ScanState) (c : Char) (rest : List Char) :
    (state.templateStep c rest).segment.text ++ (state.templateStep c rest).rest = c :: rest :=
  templateTail_append rest [c]

theorem slashStep_append (state : ScanState) (rest : List Char) :
    (state.slashStep rest).segment.text ++ (state.slashStep rest).rest = '/' :: rest := by
  unfold slashStep
  repeat' split
  · next h => exact regexTail_append h
  · rfl
  · rfl

/-- A segment and what follows it spell the script. -/
theorem construct_append (state : ScanState) (c : Char) (rest : List Char) :
    (state.construct c rest).segment.text ++ (state.construct c rest).rest = c :: rest := by
  unfold construct
  split
  · exact stringStep_append state c rest
  split
  · exact templateStep_append state c rest
  split
  · split
    · split
      · exact templateStep_append _ c rest
      · rfl
    · rfl
  split
  · rfl
  split
  · next hSlash =>
    obtain rfl : c = '/' := by simpa using hSlash
    split
    · simp [commentStep]
    · next inner => exact blockTail_append inner ['*', '/']
    · exact slashStep_append state rest
  · exact codeStep_append state (c :: rest)

theorem next_append (state : ScanState) (c : Char) (rest : List Char) :
    (state.next c rest).segment.text ++ (state.next c rest).rest = c :: rest :=
  construct_append state c rest

end ScanState

theorem stringTail_length (quote : Char) (source taken : List Char) :
    (stringTail quote source taken).2.length ≤ source.length := by
  fun_induction stringTail quote source taken <;> simp_all <;> omega

theorem templateTail_length (source taken : List Char) :
    (templateTail source taken).2.1.length ≤ source.length := by
  fun_induction templateTail source taken <;> simp_all <;> omega

theorem blockTail_length (source taken : List Char) :
    (blockTail source taken).2.length ≤ source.length := by
  fun_induction blockTail source taken <;> simp_all <;> omega

theorem regexTail_length {inClass : Bool} {source taken text left : List Char}
    (h : regexTail inClass source taken = some (text, left)) : left.length ≤ source.length := by
  fun_induction regexTail inClass source taken with
  | case4 inClass c rest taken _ _ hSlash =>
    obtain ⟨rfl, rfl⟩ := Prod.mk.inj (Option.some.inj h)
    simp
  | case2 inClass c rest taken ih => exact Nat.le_trans (ih h) (by simp; omega)
  | case5 inClass c rest taken _ _ _ _ ih => exact Nat.le_trans (ih h) (by simp)
  | _ => simp at h

namespace ScanState

theorem slashStep_length (state : ScanState) (rest : List Char) :
    (state.slashStep rest).rest.length ≤ rest.length := by
  unfold slashStep
  repeat' split
  · next h => exact regexTail_length h
  · exact Nat.le_refl _
  · exact Nat.le_refl _

/-- Every segment takes at least one character. -/
theorem construct_length (state : ScanState) (c : Char) (rest : List Char) :
    (state.construct c rest).rest.length ≤ rest.length := by
  unfold construct
  split
  · exact stringTail_length c rest [c]
  split
  · exact templateTail_length rest [c]
  split
  · split
    · split
      · exact templateTail_length rest [c]
      · exact Nat.le_refl _
    · exact Nat.le_refl _
  split
  · exact Nat.le_refl _
  split
  · split
    · exact (List.dropWhile_sublist _).length_le
    · next inner => exact Nat.le_trans (blockTail_length inner ['*', '/']) (by simp)
    · exact slashStep_length state rest
  · next hQuote hTick hClose hOpen hSlash =>
    have hBreak : isBreak c = false := by simp_all [isBreak]
    simpa [codeStep, hBreak] using (List.dropWhile_sublist _).length_le

theorem next_length (state : ScanState) (c : Char) (rest : List Char) :
    (state.next c rest).rest.length ≤ rest.length :=
  construct_length state c rest

end ScanState

/-- The segments of a script from a state on, behind those found so far in reverse. -/
def scanFrom (state : ScanState) (source : List Char) (found : List Segment) : List Segment :=
  match source with
  | [] => found.reverse
  | c :: rest =>
    let step := state.next c rest
    have := state.next_length c rest
    scanFrom step.state step.rest (step.segment :: found)
termination_by source.length

def scan (source : List Char) : List Segment := scanFrom .start source []

end SubmissionGate.Script
