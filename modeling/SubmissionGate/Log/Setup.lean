import SubmissionGate.Log

/-!
# Where log records go

Records from a level on are written to the console, and all of them to a file if one is given. A
console line is short unless a service writes it; file lines always carry time and component.
-/

namespace SubmissionGate

inductive LogFormat where
  | short
  | detailed
  deriving DecidableEq, Repr

def LogFormat.line (format : LogFormat) (time : String) (record : LogRecord) : String :=
  match format with
  | short => s!"[{LogRecord.root}] {record.level.name} {record.message}\n"
  | detailed =>
    s!"{time} {record.level.name} {LogRecord.fullName record.component}: {record.message}\n"

structure LogSetup where
  consoleLevel : LogLevel
  consoleFormat : LogFormat
  file : Option String
  deriving DecidableEq, Repr

namespace LogSetup

/-- The least level that is shown; being verbose wins over being quiet. -/
def levelFor (verbose quiet : Bool) : LogLevel :=
  if verbose then .debug else if quiet then .warning else .info

def configure (verbose quiet service : Bool) (file : Option String) : LogSetup where
  consoleLevel := levelFor verbose quiet
  consoleFormat := if service then .detailed else .short
  file

def level (setup : LogSetup) : LogLevel :=
  if setup.file.isSome then .debug else setup.consoleLevel

def consoleText (setup : LogSetup) (time : String) (record : LogRecord) : String :=
  if setup.level ≤ record.level && setup.consoleLevel ≤ record.level then
    setup.consoleFormat.line time record
  else ""

def fileText (setup : LogSetup) (time : String) (record : LogRecord) : String :=
  if setup.file.isSome && setup.level ≤ record.level && LogLevel.debug ≤ record.level then
    LogFormat.detailed.line time record
  else ""

def consoleTexts (setup : LogSetup) (time : String) (records : List LogRecord) : String :=
  String.join (records.map (setup.consoleText time))

def fileTexts (setup : LogSetup) (time : String) (records : List LogRecord) : String :=
  String.join (records.map (setup.fileText time))

end LogSetup

end SubmissionGate
