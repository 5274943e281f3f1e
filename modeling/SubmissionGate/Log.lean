/-!
# Log records

What a run reports about itself: a level, the component that reports, and a message. Any number is
a level; five of them have names.
-/

namespace SubmissionGate

abbrev LogLevel := Int

namespace LogLevel

def debug : LogLevel := 10

def info : LogLevel := 20

def warning : LogLevel := 30

def error : LogLevel := 40

def critical : LogLevel := 50

def names : List (LogLevel × String) :=
  [(debug, "DEBUG"), (info, "INFO"), (warning, "WARNING"), (error, "ERROR"),
    (critical, "CRITICAL")]

def name (level : LogLevel) : String := (names.lookup level).getD s!"Level {level}"

end LogLevel

structure LogRecord where
  level : LogLevel
  component : String
  message : String
  deriving DecidableEq, Repr

namespace LogRecord

def root : String := "clawgate"

def fullName (component : String) : String :=
  if component.isEmpty then root else root ++ "." ++ component

end LogRecord

end SubmissionGate
