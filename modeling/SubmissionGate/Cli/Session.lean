import SubmissionGate.Cli.Command
import SubmissionGate.Cli.Report
import SubmissionGate.Config
import SubmissionGate.Gate.Judgement
import SubmissionGate.Log.Setup
import SubmissionGate.Yaml.Document

/-!
# Sessions

One call of the gate from its arguments to its exit. A session looks at the files once, at its
start. It either ends at once or leaves something to be done that takes time: submissions to be
judged or a service to be run. The verdicts on the submissions then end it.
-/

namespace SubmissionGate.Cli

structure Outcome where
  exit : Nat
  stdout : String
  stderr : String

def rejectionExit : Nat := 1

def failureExit : Nat := 2

namespace Outcome

def printed (text : String) : Outcome := ⟨0, text, ""⟩

def failed (message : String) : Outcome := ⟨failureExit, "", message⟩

end Outcome

structure Job where
  paths : List String
  intakes : List Gate.Intake
  settings : Gate.Settings
  workers : Int
  json : Bool
  log : LogSetup

structure Serving where
  host : String
  port : Int
  config : Config

inductive Session where
  | ended (outcome : Outcome)
  | judging (job : Job)
  | serving (serving : Serving)
  | noLog (fault : FileFault) (path : String)
  | brokenConfig (halt : ConfigHalt)

def helpText (program : String) : String :=
  let commands := ", ".intercalate commandNames
  s!"usage: {program} [-h] [-v] ...\ncommands: {commands}\n"

def Stop.outcome : Stop → Outcome
  | .help program => .printed (helpText program)
  | .fault program cause => .failed s!"{program}: error: {cause.message}\n"

/-- Reads a file as text: UTF-8 behind an optional byte-order mark, with unified line breaks. A file
that only starts a mark is empty. -/
def readText (content : ByteArray) : Except Utf8.Fault (List Char) :=
  let bytes := content.data.toList
  if bytes.length < Utf8.mark.length && bytes.isPrefixOf Utf8.mark then .ok []
  else (Utf8.decodeMarked bytes).map Text.unifyBreaks

def cannotRead (path : FilePath) (reason : String) : Outcome :=
  .failed s!"Cannot read {path.text}: {reason}\n"

def stripComments (tree : FileTree) (path : FilePath) : Outcome :=
  match tree.read path with
  | .error fault => cannotRead path (fault.message path.text)
  | .ok content =>
    match readText content with
    | .error fault => cannotRead path fault.message
    | .ok text => .printed (String.ofList (Script.stripComments text))

/-- Reads the files of a command, up to the first one that cannot be read. -/
def readAll (tree : FileTree) : List FilePath → Except Outcome (List ByteArray)
  | [] => .ok []
  | path :: paths =>
    match tree.read path with
    | .error fault => .error (cannotRead path (fault.message path.text))
    | .ok content => (readAll tree paths).map (content :: ·)

def ValidateOptions.declared (options : ValidateOptions) : Gate.Declared :=
  let optional := fun (name : Option String) => (name.map Value.text).getD .null
  .entries [(.text "format", optional options.format),
    (.text "dimensions", .text options.dimensions), (.text "tier", optional options.tier),
    (.text "libs", .list (options.libs.map .text))]

def startValidation (tree : FileTree) (config : Config) (log : LogSetup)
    (options : ValidateOptions) : Session :=
  match readAll tree options.paths with
  | .error outcome => .ended outcome
  | .ok contents => .judging {
      paths := options.paths.map FilePath.text
      intakes := contents.map fun content => ⟨content, options.declared⟩
      settings := ⟨.standard, config.rules, some (.real (options.seconds.getD config.seconds))⟩
      workers := max 1 (options.jobs.getD config.workers)
      json := options.json
      log }

def withConfig (tree : FileTree) (path : Option String) (use : Config → Session) : Session :=
  match Config.load Yaml.read tree (.ofText (path.getD "")) with
  | .ok config => use config
  | .error (.refused fault) => .ended (.failed s!"Invalid configuration: {fault.message}\n")
  | .error halt => .brokenConfig halt

def Invocation.logSetup (invocation : Invocation) : LogSetup :=
  let (quiet, service) := match invocation.command with
    | .validate options => (options.json, false)
    | .rules _ json => (json, false)
    | .serve .. => (false, true)
    | .stripComments _ => (false, false)
  .configure invocation.verbose quiet service invocation.logFile

def Invocation.paths (tree : FileTree) (invocation : Invocation) : List FilePath :=
  let configPaths := fun (path : Option String) => Config.paths tree (.ofText (path.getD ""))
  (invocation.logFile.map FilePath.ofText).toList ++
    match invocation.command with
    | .stripComments path => [path]
    | .validate options => configPaths options.config ++ options.paths
    | .rules config _ | .serve config .. => configPaths config

def Command.start (tree : FileTree) (log : LogSetup) : Command → Session
  | .stripComments path => .ended (Cli.stripComments tree path)
  | .validate options =>
    withConfig tree options.config fun config => startValidation tree config log options
  | .rules path json =>
    withConfig tree path fun config =>
      if config.rules.isWritable then
        .ended (.printed (if json then rulesJson config.rules else rulesText config.rules))
      else .brokenConfig .unwritable
  | .serve path host port => withConfig tree path fun config => .serving ⟨host, port, config⟩

def Session.start (tree : FileTree) (arguments : List String) : Session :=
  match Invocation.parse arguments with
  | .error stop => .ended stop.outcome
  | .ok invocation =>
    match invocation.logFile.bind tree.logFault? with
    | some (fault, path) => .noLog fault path
    | none =>
      let opened := invocation.logFile.elim tree tree.withLog
      invocation.command.start opened invocation.logSetup

def Session.logFile? (arguments : List String) : Option String :=
  match Invocation.parse arguments with
  | .error _ => none
  | .ok invocation => invocation.logFile

namespace Job

def judged (job : Job) (verdicts : List Verdict) : List Judged :=
  (job.paths.zip verdicts).map fun (path, verdict) => ⟨path, verdict⟩

def closingRecords (job : Job) (verdicts : List Verdict) : List LogRecord :=
  let given := unfinished (job.judged verdicts)
  if given.isEmpty then []
  else
    [⟨.debug, "cli", s!"{given.length} of {verdicts.length} submission(s) did not finish"⟩]

def unfinishedText (judged : List Judged) : String :=
  String.join (judged.map fun judged =>
    let reason := judged.verdict.incomplete.getD ""
    s!"{program} validate failed for {judged.path}: {reason}\n")

/-- Ends a session with the verdicts on its submissions. `logged` has been written to the console
before. -/
def finish (job : Job) (verdicts : List Verdict) (logged : String) : Outcome :=
  let judged := job.judged verdicts
  let stdout := if job.json then jsonReport judged else textReport judged
  let given := unfinished judged
  if !given.isEmpty then ⟨failureExit, stdout, logged ++ unfinishedText given⟩
  else if verdicts.all Verdict.ok then ⟨0, stdout, logged⟩
  else ⟨rejectionExit, stdout, logged⟩

end Job

end SubmissionGate.Cli
