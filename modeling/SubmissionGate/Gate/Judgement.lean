import SubmissionGate.Gate.Validation

/-!
# Judgements

What a validation comes to under a deadline: a verdict, a timeout or a breakdown. A clock is given
by its successive readings, the first of which sets the deadline. Metadata may come in as a map that
is still to be read. In a batch a timeout becomes an incomplete verdict, so that the other
submissions keep theirs.
-/

namespace SubmissionGate.Gate

structure Settings where
  plan : Plan
  rules : RuleTables
  seconds : Option Number

inductive Judgement where
  | verdict (verdict : Verdict)
  | timeout (timeout : Deadline.Timeout)
  | breakdown (breakdown : Breakdown)

def Judgement.ofEnding (deadline : Deadline) : Run.Ending Verdict → Judgement
  | .done result => .verdict result
  | .broken cause => .breakdown cause
  | .expired stage =>
    match deadline.timeout stage with
    | .ok missed => .timeout missed
    | .error cause => .breakdown cause

section

variable [Platform]

def judge (settings : Settings) (clock : Nat → Number) (submission : Submission) :
    Judgement × List LogRecord :=
  match Deadline.start settings.seconds (clock 0) with
  | .error breakdown => (.breakdown breakdown, [])
  | .ok deadline =>
    let run := validate settings.plan settings.rules submission
    let (ending, records) := run.play fun check => deadline.hasPassed (clock (check + 1))
    (.ofEnding deadline ending, records)

/-- Metadata as they are handed in: read before, or as a map. -/
inductive Declared where
  | settled (metadata : Metadata)
  | entries (fields : List (Value × Value))

def Declared.read : Declared → Except Breakdown Metadata
  | .settled metadata => .ok metadata
  | .entries fields => (Metadata.ofEntries fields).mapError .unwritable

/-- A submission as it is handed in. -/
structure Intake where
  payload : ByteArray
  declared : Declared

def Intake.submission (intake : Intake) : Except Breakdown Submission :=
  intake.declared.read.map (Submission.mk intake.payload)

/-- Judges what is handed in; the metadata are read before the clock. -/
def judgeIntake (settings : Settings) (clock : Nat → Number) (intake : Intake) :
    Judgement × List LogRecord :=
  match intake.submission with
  | .error breakdown => (.breakdown breakdown, [])
  | .ok submission => judge settings clock submission

end

def abandonNote (size : Nat) (timeout : Deadline.Timeout) : LogRecord :=
  ⟨.warning, component, s!"Abandoned {size} byte submission: {timeout.message}"⟩

/-- The verdict on one submission of a batch, with a record if it was given up. -/
def settle (size : Nat) : Judgement → Except Breakdown (Verdict × List LogRecord)
  | .verdict verdict => .ok (verdict, [])
  | .timeout timeout => .ok (.abandoned timeout.message, [abandonNote size timeout])
  | .breakdown breakdown => .error breakdown

/-- Judges what a batch hands in, each by a clock of its own, in their order. -/
def judgeAll [Platform] (settings : Settings) (clock : Nat → Nat → Number) :
    List Intake → Nat → Except Breakdown (List Verdict × List LogRecord)
  | [], _ => .ok ([], [])
  | intake :: intakes, place => do
    let (judgement, records) := judgeIntake settings (clock place) intake
    let (verdict, notes) ← settle intake.payload.size judgement
    let (verdicts, later) ← judgeAll settings clock intakes (place + 1)
    return (verdict :: verdicts, records ++ notes ++ later)

end SubmissionGate.Gate
