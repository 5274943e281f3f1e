import SubmissionGate.FileTree
import SubmissionGate.RuleTables.Override
import SubmissionGate.Text.LineBreak
import SubmissionGate.Text.Utf8
import SubmissionGate.Yaml.Fault

/-!
# Configuration

A configuration sets the time limit of a validation, the number of workers and overrides of the
rule tables. It is read from one file, by whatever reader of texts is at hand; where there is no
file the defaults hold. A setting that cannot be understood as a number is passed over, one out of
range is a fault.
-/

namespace SubmissionGate

structure Config where
  root : List String
  seconds : Binary64
  workers : Int
  rules : RuleTables
  isStandard : Bool

inductive ConfigFault where
  | unreadable (name reason : String)
  | unparsable (name : String)
  | notMap
  | seconds
  | workers
  | override (fault : OverrideFault)
  deriving DecidableEq, Repr

namespace Config

def fileName : String := ".clawgate.yml"

def defaultSeconds : Binary64 := .ofInt 10

def defaultWorkers : Int := 4

end Config

def ConfigFault.message : ConfigFault → String
  | unreadable name reason => s!"Failed to read {name}: {reason}"
  | unparsable name => s!"Failed to parse {name}"
  | notMap => s!"{Config.fileName} must contain a mapping at the root"
  | seconds => "timeout_seconds must be positive"
  | workers => "max_workers must be at least 1"
  | override fault => fault.message

/-- Why there is no configuration: a fault of it, or a path, number or date that breaks its reader.
-/
inductive ConfigHalt where
  | refused (fault : ConfigFault)
  | badScalar (fault : Yaml.Fault)
  | hugeSeconds
  | unwritable
  /-- A path in the home directory of nobody. -/
  | noHome

def ConfigHalt.ofOverride : OverrideFault → ConfigHalt
  | .unwritable => .unwritable
  | fault => .refused (.override fault)

namespace Config

def default (root : List String) : Config where
  root
  seconds := defaultSeconds
  workers := defaultWorkers
  rules := .standard
  isStandard := true

/-- A number of seconds; `none` for anything that is no number and spells none. -/
def seconds? : Value → Except ConfigHalt (Option Binary64)
  | .number limit =>
    match limit.rounded? with
    | none => .error .hugeSeconds
    | some x => .ok (some x)
  | .text s => .ok (Numeral.real? s.toList)
  | _ => .ok none

def isPositive (x : Binary64) : Bool := !(x.less .zero || x.same .zero)

def ofEntries (root : List String) (entries : List (Value × Value)) : Except ConfigHalt Config :=
  let field := Value.field? entries
  match seconds? ((field "timeout_seconds").getD .null) with
  | .error halt => .error halt
  | .ok seconds =>
    if !seconds.all isPositive then .error (.refused .seconds)
    else
      let workers := (field "max_workers").bind Value.asInt?
      if !workers.all (1 ≤ ·) then .error (.refused .workers)
      else
        match RuleTables.standard.override? (Value.asEntries (field "rules")) with
        | .error fault => .error (.ofOverride fault)
        | .ok rules => .ok {
            root
            seconds := seconds.getD defaultSeconds
            workers := workers.getD defaultWorkers
            rules := rules.getD .standard
            isStandard := rules.isNone }

/-- Whether a fault concerns a single scalar of a text that is well-formed otherwise. -/
def isScalarFault : Yaml.Fault → Bool
  | .farCodePoint _ | .badDigits .. | .tooManyDigits _ | .noDigits | .notReal _ | .hugeUnit
  | .notBool _ | .notTimestamp | .badTimestamp _ => true
  | _ => false

/-- A reader of texts gives the value of a text or says why there is none. A map that holds itself
comes unrolled, at least as deep as a configuration looks, and half of a surrogate pair as the
replacement character. -/
abbrev Reader := List Char → Except Yaml.Fault Value

def readEntries (read : Reader) (name : String) (text : List Char) :
    Except ConfigHalt (List (Value × Value)) :=
  if text.all Text.isSpace then .ok []
  else
    match read text with
    | .error fault =>
      .error (if isScalarFault fault then .badScalar fault else .refused (.unparsable name))
    | .ok .null => .ok []
    | .ok (.map entries) => .ok entries
    | .ok _ => .error (.refused .notMap)

def paths (tree : FileTree) (path : FilePath) : List FilePath :=
  match tree.expandHome? path with
  | none => []
  | some path => [path, { path with parts := path.parts ++ [fileName] }]

def place (tree : FileTree) (path : FilePath) : List String :=
  let place := tree.resolve path
  if tree.isDirectory path then place ++ [fileName] else place

/-- Loads the configuration that a path leads to, which has no tilde for a home directory. -/
def loadFrom (read : Reader) (tree : FileTree) (path : FilePath) : Except ConfigHalt Config :=
  let place := place tree path
  let root := place.dropLast
  let file := FileTree.absolute place
  let name := place.getLastD ""
  if (tree.node? place).isNone then .ok (default root)
  else
    match tree.read file with
    | .error fault => .error (.refused (.unreadable name (fault.message file.text)))
    | .ok content =>
      match Utf8.decode content.data.toList with
      | .error fault => .error (.refused (.unreadable name fault.message))
      | .ok text =>
        match readEntries read name (Text.unifyBreaks text) with
        | .error halt => .error halt
        | .ok entries => ofEntries root entries

def load (read : Reader) (tree : FileTree) (path : FilePath) : Except ConfigHalt Config :=
  match tree.expandHome? path with
  | none => .error .noHome
  | some path => loadFrom read tree path

end Config

end SubmissionGate
