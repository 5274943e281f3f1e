import SubmissionGate.Text.DecimalDigit
import SubmissionGate.Text.Quoted

/-!
# Command-line arguments

Arguments are switches, which start with a dash, and operands. A switch may be shortened as long as
only one begins that way, and its value may be joined to it by an equals sign. Behind a double dash
everything is an operand. Operands are taken in runs: the first run that suits the grammar is taken
whole, and what is left over is unrecognized.
-/

namespace SubmissionGate.Cli

inductive Arity where
  | help
  | flag
  | value
  deriving DecidableEq, Repr

structure Switch where
  names : List String
  arity : Arity
  refusal? : String → Option String

inductive Operands where
  | none
  | one (name : String)
  | many (name : String)
  | command (name : String) (choices : List String)
  deriving DecidableEq, Repr

structure Grammar where
  program : String
  switches : List Switch
  operands : Operands

inductive UsageFault where
  | ambiguous (argument : String) (matching : List String)
  | missingValue (label : String)
  | ignoredValue (label value : String)
  | refusedValue (label reason : String)
  | missingOperand (name : String)
  | unrecognized (arguments : List String)
  deriving DecidableEq, Repr

def UsageFault.message : UsageFault → String
  | ambiguous argument matching =>
    let list := ", ".intercalate matching
    s!"ambiguous option: {argument} could match {list}"
  | missingValue label => s!"argument {label}: expected one argument"
  | ignoredValue label value =>
    let quoted := Text.Quoted.text value
    s!"argument {label}: ignored explicit argument {quoted}"
  | refusedValue label reason => s!"argument {label}: {reason}"
  | missingOperand name => s!"the following arguments are required: {name}"
  | unrecognized arguments =>
    let list := " ".intercalate arguments
    s!"unrecognized arguments: {list}"

inductive Stop where
  | help (program : String)
  | fault (program : String) (fault : UsageFault)

def choiceRefusal? (choices : List String) (value : String) : Option String :=
  if choices.contains value then none
  else
    let quoted := Text.Quoted.text value
    let list := ", ".intercalate (choices.map Text.Quoted.text)
    some s!"invalid choice: {quoted} (choose from {list})"

def Switch.label (switch : Switch) : String := "/".intercalate switch.names

def Switch.key (switch : Switch) : String := switch.names.getLastD ""

inductive Word where
  | operand
  | separator
  | switch (switch : Switch) (name : String) (value : Option String)
  | unknown

def Word.isSwitch : Word → Bool
  | .switch .. | .unknown => true
  | _ => false

namespace Grammar

def spellings (grammar : Grammar) : List (String × Switch) :=
  grammar.switches.flatMap fun switch => switch.names.map fun name => (name, switch)

def switch? (grammar : Grammar) (name : String) : Option Switch := grammar.spellings.lookup name

def splitValue (argument : String) : String × Option String :=
  let chars := argument.toList
  match chars.dropWhile (· != '=') with
  | [] => (argument, none)
  | _ :: value => (String.ofList (chars.takeWhile (· != '=')), some (String.ofList value))

def longMatches (grammar : Grammar) (argument : String) : List (Switch × String × Option String) :=
  let (start, value) := splitValue argument
  (grammar.spellings.filter fun (name, _) => name.startsWith start).map fun (name, switch) =>
    (switch, name, value)

/-- What an argument with one dash may stand for: a short switch with its value, or the start of
another one. -/
def shortMatches (grammar : Grammar) (argument : String) :
    List (Switch × String × Option String) :=
  let chars := argument.toList
  let short := String.ofList (chars.take 2)
  grammar.spellings.filterMap fun (name, switch) =>
    if name == short then some (switch, name, some (String.ofList (chars.drop 2)))
    else if name.startsWith argument then some (switch, name, none)
    else none

def isNegativeNumber (chars : List Char) : Bool :=
  match chars with
  | '-' :: rest =>
    let fraction := rest.dropWhile Text.isDecimalDigit
    match fraction with
    | [] => !rest.isEmpty
    | '.' :: digits => !digits.isEmpty && digits.all Text.isDecimalDigit
    | _ => false
  | _ => false

def word (grammar : Grammar) (argument : String) : Except UsageFault Word :=
  match argument.toList with
  | '-' :: second :: _ =>
    match grammar.switch? argument with
    | some switch => .ok (.switch switch argument none)
    | none =>
      let (start, value) := splitValue argument
      match if value.isSome then grammar.switch? start else none with
      | some switch => .ok (.switch switch start value)
      | none =>
        let found :=
          if second == '-' then grammar.longMatches argument else grammar.shortMatches argument
        match found with
        | [(switch, name, value)] => .ok (.switch switch name value)
        | _ :: _ :: _ => .error (.ambiguous argument (found.map fun (_, name, _) => name))
        | [] =>
          if isNegativeNumber argument.toList || argument.contains ' ' then .ok .operand
          else .ok .unknown
  | _ => .ok .operand

/-- Takes every argument for something; all behind a double dash are operands. -/
def words (grammar : Grammar) : List String → Except UsageFault (List (String × Word))
  | [] => .ok []
  | argument :: arguments =>
    if argument == "--" then
      .ok ((argument, .separator) :: arguments.map fun argument => (argument, .operand))
    else do
      let word ← grammar.word argument
      let rest ← grammar.words arguments
      return (argument, word) :: rest

end Grammar

structure Parsed where
  /-- Switches by their keys, with their values, in order. -/
  settings : List (String × String)
  operands : Option (List String)
  extras : List String

namespace Parsed

def empty : Parsed := ⟨[], none, []⟩

def set (parsed : Parsed) (switch : Switch) (value : String) : Parsed :=
  { parsed with settings := parsed.settings ++ [(switch.key, value)] }

def leave (parsed : Parsed) (arguments : List String) : Parsed :=
  { parsed with extras := parsed.extras ++ arguments }

def has (parsed : Parsed) (key : String) : Bool := parsed.settings.any (·.1 == key)

def last? (parsed : Parsed) (key : String) : Option String :=
  parsed.settings.reverse.lookup key

def all (parsed : Parsed) (key : String) : List String :=
  (parsed.settings.filter (·.1 == key)).map (·.2)

end Parsed

namespace Grammar

/-- How many of the arguments in front the operands take; zero if they do not suit. -/
def operandSpan (operands : Operands) (words : List (String × Word)) : Nat :=
  let isSeparator := fun (word : String × Word) => match word.2 with
    | .separator => true
    | _ => false
  let leading := (words.takeWhile isSeparator).length
  match words.drop leading with
  | (_, .operand) :: rest =>
    match operands with
    | .none => 0
    | .one _ => leading + 1 + (rest.takeWhile isSeparator).length
    | .many _ => leading + 1 + (rest.takeWhile fun word => !word.2.isSwitch).length
    | .command .. => words.length
  | _ => 0

/-- The operands of a run, without its double dash. A command keeps it for itself. -/
def operandValues (operands : Operands) (arguments : List String) : List String :=
  match operands with
  | .command .. => arguments
  | _ => arguments.erase "--"

def takeOperands (grammar : Grammar) (parsed : Parsed) (words : List (String × Word)) :
    Except UsageFault (Parsed × List (String × Word)) :=
  let span := if parsed.operands.isSome then 0 else operandSpan grammar.operands words
  if span = 0 then .ok (parsed, words)
  else
    let values := operandValues grammar.operands ((words.take span).map (·.1))
    let refusal := match grammar.operands with
      | .command name choices => (choiceRefusal? choices (values.headD "")).map fun reason =>
          UsageFault.refusedValue name reason
      | _ => none
    match refusal with
    | some fault => .error fault
    | none => .ok ({ parsed with operands := some values }, words.drop span)

def assign (parsed : Parsed) (switch : Switch) (value : String) : Except UsageFault Parsed :=
  match switch.refusal? value with
  | some reason => .error (.refusedValue switch.label reason)
  | none => .ok (parsed.set switch value)

def applyBare (grammar : Grammar) (parsed : Parsed) (switch : Switch)
    (words : List (String × Word)) : Except Stop (Parsed × List (String × Word)) :=
  match switch.arity with
  | .help => .error (.help grammar.program)
  | .flag => .ok (parsed.set switch "", words)
  | .value =>
    match words with
    | (value, .operand) :: rest =>
      match assign parsed switch value with
      | .ok parsed => .ok (parsed, rest)
      | .error fault => .error (.fault grammar.program fault)
    | _ => .error (.fault grammar.program (.missingValue switch.label))

/-- Applies a switch with a text joined to it: its value, or more short switches. Short switches
take effect only once the last of them is known. -/
def applyJoined (grammar : Grammar) (parsed : Parsed) (pending : List Switch) (switch : Switch)
    (short : Bool) (words : List (String × Word)) :
    List Char → Except Stop (Parsed × List (String × Word))
  | [] =>
    match switch.arity with
    | .value => finish parsed pending (assign · switch "")
    | _ => .error (.fault grammar.program (.ignoredValue switch.label ""))
  | c :: rest =>
    let text := String.ofList (c :: rest)
    match switch.arity with
    | .value => finish parsed pending (assign · switch text)
    | _ =>
      let ignored : Stop := .fault grammar.program (.ignoredValue switch.label text)
      if !short then .error ignored
      else
        match grammar.switch? (String.ofList ['-', c]) with
        | none => .error ignored
        | some next =>
          if rest.isEmpty then do
            let parsed ← flags parsed (pending ++ [switch])
            grammar.applyBare parsed next words
          else grammar.applyJoined parsed (pending ++ [switch]) next true words rest
where
  flags (parsed : Parsed) : List Switch → Except Stop Parsed
    | [] => .ok parsed
    | switch :: switches =>
      match switch.arity with
      | .help => .error (.help grammar.program)
      | _ => flags (parsed.set switch "") switches
  finish (parsed : Parsed) (pending : List Switch) (set : Parsed → Except UsageFault Parsed) :
      Except Stop (Parsed × List (String × Word)) := do
    let parsed ← flags parsed pending
    match set parsed with
    | .ok parsed => .ok (parsed, words)
    | .error fault => .error (.fault grammar.program fault)

/-- Reads the arguments in order. Each round takes at least one. -/
def run (grammar : Grammar) (parsed : Parsed) (words : List (String × Word)) :
    Nat → Except Stop Parsed
  | 0 => .ok parsed
  | rounds + 1 =>
    match words with
    | [] => .ok parsed
    | (argument, .unknown) :: rest => grammar.run (parsed.leave [argument]) rest rounds
    | (_, .switch switch _ none) :: rest => do
      let (parsed, rest) ← grammar.applyBare parsed switch rest
      grammar.run parsed rest rounds
    | (_, .switch switch name (some value)) :: rest => do
      let short := name.toList[1]? != some '-'
      let (parsed, rest) ← grammar.applyJoined parsed [] switch short rest value.toList
      grammar.run parsed rest rounds
    | words =>
      match grammar.takeOperands parsed words with
      | .error fault => .error (.fault grammar.program fault)
      | .ok (next, rest) =>
        if rest.length < words.length then grammar.run next rest rounds
        else
          let skipped := words.takeWhile fun word => !word.2.isSwitch
          grammar.run (parsed.leave (skipped.map (·.1))) (words.drop skipped.length) rounds

def requiredOperand? (grammar : Grammar) : Option String :=
  match grammar.operands with
  | .none => none
  | .one name | .many name | .command name _ => some name

/-- Reads arguments, except that unrecognized ones are only collected. -/
def parse (grammar : Grammar) (arguments : List String) : Except Stop Parsed :=
  match grammar.words arguments with
  | .error fault => .error (.fault grammar.program fault)
  | .ok words => do
    let parsed ← grammar.run .empty words (arguments.length + 1)
    match grammar.requiredOperand? with
    | some name =>
      if parsed.operands.isNone then .error (.fault grammar.program (.missingOperand name))
      else .ok parsed
    | none => .ok parsed

end Grammar

end SubmissionGate.Cli
