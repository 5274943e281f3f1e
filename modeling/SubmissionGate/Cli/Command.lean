import SubmissionGate.Cli.Arguments
import SubmissionGate.FileTree
import SubmissionGate.Number.Numeral
import SubmissionGate.Submission

/-!
# Commands

The commands of the gate and what their arguments say. The arguments of a command are read by its
own grammar, behind those that all commands share.
-/

namespace SubmissionGate.Cli

structure ValidateOptions where
  config : Option String
  paths : List FilePath
  format : Option String
  dimensions : String
  tier : Option String
  libs : List String
  json : Bool
  jobs : Option Int
  seconds : Option Binary64

inductive Command where
  | validate (options : ValidateOptions)
  | stripComments (path : FilePath)
  | rules (config : Option String) (json : Bool)
  | serve (config : Option String) (host : String) (port : Int)

structure Invocation where
  verbose : Bool
  logFile : Option String
  command : Command

def program : String := "clawgate"

def anyValue (_ : String) : Option String := none

def intRefusal? (value : String) : Option String :=
  match Numeral.int? value.toList with
  | some _ => none
  | none =>
    let quoted := Text.Quoted.text value
    some s!"invalid int value: {quoted}"

def realRefusal? (value : String) : Option String :=
  match Numeral.real? value.toList with
  | some _ => none
  | none =>
    let quoted := Text.Quoted.text value
    some s!"invalid float value: {quoted}"

def helpSwitch : Switch := ⟨["-h", "--help"], .help, anyValue⟩

def verboseSwitch : Switch := ⟨["-v", "--verbose"], .flag, anyValue⟩

def configSwitch : Switch := ⟨["--config"], .value, anyValue⟩

def jsonSwitch : Switch := ⟨["--json"], .flag, anyValue⟩

def commandNames : List String := ["validate", "strip-comments", "rules", "serve"]

def sharedGrammar : Grammar where
  program
  switches := [helpSwitch, verboseSwitch, ⟨["--log-file"], .value, anyValue⟩]
  operands := .command "command" commandNames

def validateGrammar : Grammar where
  program := program ++ " validate"
  switches := [helpSwitch, verboseSwitch, configSwitch,
    ⟨["--format"], .value, choiceRefusal? ["html", "script"]⟩,
    ⟨["--dimensions"], .value, choiceRefusal? Submission.knownDimensions⟩,
    ⟨["--tier"], .value, anyValue⟩, ⟨["--lib"], .value, anyValue⟩, jsonSwitch,
    ⟨["--jobs"], .value, intRefusal?⟩, ⟨["--timeout"], .value, realRefusal?⟩]
  operands := .many "paths"

def stripGrammar : Grammar where
  program := program ++ " strip-comments"
  switches := [helpSwitch, verboseSwitch]
  operands := .one "path"

def rulesGrammar : Grammar where
  program := program ++ " rules"
  switches := [helpSwitch, verboseSwitch, configSwitch, jsonSwitch]
  operands := .none

def serveGrammar : Grammar where
  program := program ++ " serve"
  switches := [helpSwitch, verboseSwitch, configSwitch, ⟨["--host"], .value, anyValue⟩,
    ⟨["--port"], .value, intRefusal?⟩]
  operands := .none

def grammarOf (name : String) : Grammar :=
  match name with
  | "validate" => validateGrammar
  | "strip-comments" => stripGrammar
  | "rules" => rulesGrammar
  | _ => serveGrammar

def Parsed.int? (parsed : Parsed) (key : String) : Option Int :=
  (parsed.last? key).bind fun value => Numeral.int? value.toList

def Parsed.real? (parsed : Parsed) (key : String) : Option Binary64 :=
  (parsed.last? key).bind fun value => Numeral.real? value.toList

def commandOf (name : String) (parsed : Parsed) : Command :=
  let config := parsed.last? "--config"
  let paths := (parsed.operands.getD []).map FilePath.ofText
  match name with
  | "validate" => .validate {
      config
      paths
      format := parsed.last? "--format"
      dimensions := (parsed.last? "--dimensions").getD "2d"
      tier := parsed.last? "--tier"
      libs := parsed.all "--lib"
      json := parsed.has "--json"
      jobs := parsed.int? "--jobs"
      seconds := parsed.real? "--timeout" }
  | "strip-comments" => .stripComments (paths.headD (.ofText ""))
  | "rules" => .rules config (parsed.has "--json")
  | _ => .serve config ((parsed.last? "--host").getD "127.0.0.1")
      ((parsed.int? "--port").getD 8000)

def Invocation.parse (arguments : List String) : Except Stop Invocation := do
  let shared ← sharedGrammar.parse arguments
  let operands := shared.operands.getD []
  let name := operands.headD ""
  let parsed ← (grammarOf name).parse operands.tail
  let extras := shared.extras ++ parsed.extras
  if extras.isEmpty then
    return {
      verbose := shared.has "--verbose" || parsed.has "--verbose"
      logFile := shared.last? "--log-file"
      command := commandOf name parsed }
  else throw (.fault program (.unrecognized extras))

end SubmissionGate.Cli
