import Std.Time.Zoned
import SubmissionGate.Cli.Session

/-!
# Command line

The gate as a program. It takes a snapshot of the files that a call looks at, starts the session on
it and judges the submissions one after the other by the clock of the machine. Everything that is
decided is decided by the session; nothing here looks into a submission.
-/

namespace SubmissionGate.Cli

def directoryErrno : UInt32 := 21

def probe (place : List String) : IO (Option FileNode) := do
  try
    let content ← IO.FS.readBinFile (FileTree.absolute place).text
    return some (.file content)
  catch fault =>
    match fault with
    | .inappropriateType _ number _ =>
      return if number == directoryErrno then some .directory else none
    | _ => return none

def snapshot (arguments : List String) : IO FileTree := do
  let here ← IO.currentDir
  let home ← IO.getEnv "HOME"
  let homes := (home.map fun home => ("", FilePath.split home)).toList
  let bare : FileTree := ⟨FilePath.split here.toString, [], homes⟩
  match Invocation.parse arguments with
  | .error _ => return bare
  | .ok invocation =>
    let places := ((invocation.paths bare).flatMap bare.places).eraseDups
    let nodes ← places.mapM fun place => do
      return (← probe place).map fun node => (place, node)
    return { bare with nodes := nodes.filterMap id }

def timeText : IO String := do
  let now ← Std.Time.PlainDateTime.now
  let field := fun (width : Nat) (n : Int) =>
    let digits := toString n
    "".pushn '0' (width - digits.length) ++ digits
  let date := field 4 now.date.year ++ "-" ++ field 2 now.date.month.val ++ "-"
    ++ field 2 now.date.day.val
  let millis := now.time.nanosecond.val / 1000000
  return date ++ " " ++ field 2 now.time.hour.val ++ ":" ++ field 2 now.time.minute.val ++ ":"
    ++ field 2 now.time.second.val ++ "," ++ field 3 millis

def emit (setup : LogSetup) (file : Option IO.FS.Handle) (record : LogRecord) : IO Unit := do
  let time ← timeText
  (← IO.getStderr).putStr (setup.consoleText time record)
  match file with
  | some file => file.putStr (setup.fileText time record)
  | none => return ()

def clock : IO Number := do
  return .real (.ofRatio false (← IO.monoMsNow) 1000)

/-- Plays a run by the clock of the machine and writes its records as they come. -/
def playNow {α : Type} (write : LogRecord → IO Unit) (deadline : Deadline) :
    Run α → IO (Run.Ending α)
  | .done value => return .done value
  | .broken breakdown => return .broken breakdown
  | .record entry rest => do
    write entry
    playNow write deadline rest
  | .check stage rest => do
    if deadline.hasPassed (← clock) then return .expired stage
    else playNow write deadline (rest ())

attribute [local instance] Platform.bare

def judgeNow (settings : Gate.Settings) (write : LogRecord → IO Unit) (intake : Gate.Intake) :
    IO Gate.Judgement := do
  match intake.submission with
  | .error breakdown => return .breakdown breakdown
  | .ok submission =>
    match Deadline.start settings.seconds (← clock) with
    | .error breakdown => return .breakdown breakdown
    | .ok deadline =>
      let run := Gate.validate settings.plan settings.rules submission
      return .ofEnding deadline (← playNow write deadline run)

/-- Judges all submissions, up to the first one that leaves no verdict. -/
def judgeAllNow (settings : Gate.Settings) (write : LogRecord → IO Unit) :
    List Gate.Intake → IO (Except Breakdown (List Verdict))
  | [] => return .ok []
  | intake :: intakes => do
    let judgement ← judgeNow settings write intake
    match Gate.settle intake.payload.size judgement with
    | .error breakdown => return .error breakdown
    | .ok (verdict, notes) =>
      notes.forM write
      let rest ← judgeAllNow settings write intakes
      return rest.map (verdict :: ·)

def Outcome.print (outcome : Outcome) : IO UInt32 := do
  (← IO.getStdout).putStr outcome.stdout
  (← IO.getStderr).putStr outcome.stderr
  return outcome.exit.toUInt32

def Job.carryOut (job : Job) (file : Option IO.FS.Handle) : IO UInt32 := do
  let write := emit job.log file
  match ← judgeAllNow job.settings write job.intakes with
  | .error breakdown => (Outcome.failed s!"{breakdown.message}\n").print
  | .ok verdicts =>
    (job.closingRecords verdicts).forM write
    (job.finish verdicts "").print

def openLog (arguments : List String) : IO (Option IO.FS.Handle) := do
  match Session.logFile? arguments with
  | none => return none
  | some name => return some (← IO.FS.Handle.mk name .append)

end SubmissionGate.Cli

open SubmissionGate.Cli in
/-- Runs the gate on its arguments. Serving is left to a host that answers requests. -/
def main (arguments : List String) : IO UInt32 := do
  match Session.start (← snapshot arguments) arguments with
  | .noLog fault path => (Outcome.failed s!"{fault.message path}\n").print
  | .brokenConfig _ => (Outcome.failed "Invalid configuration: a value cannot be read\n").print
  | .ended outcome =>
    let _ ← openLog arguments
    outcome.print
  | .serving serving =>
    let _ ← openLog arguments
    (Outcome.failed s!"No host to serve {serving.host}:{serving.port}\n").print
  | .judging job => job.carryOut (← openLog arguments)
