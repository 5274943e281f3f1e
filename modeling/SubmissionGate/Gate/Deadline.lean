import SubmissionGate.Gate.Breakdown

/-!
# Deadlines

A deadline lies a number of seconds behind the reading of the clock at which it was set. It has
passed once the clock reads more than that; without seconds it never passes. Seconds that are an
integer out of the range of a floating-point number break down where they meet one.
-/

namespace SubmissionGate

structure Deadline where
  seconds : Option Number
  expires : Option Number
  deriving DecidableEq, Repr

namespace Deadline

def start (seconds : Option Number) (now : Number) : Except Breakdown Deadline :=
  match seconds with
  | none => .ok ⟨none, none⟩
  | some limit =>
    match now.add? limit with
    | none => .error .hugeSeconds
    | some expires => .ok ⟨some limit, some expires⟩

def hasPassed (deadline : Deadline) (now : Number) : Bool :=
  match deadline.expires with
  | none => false
  | some expires => expires.less now

structure Timeout where
  stage : String
  seconds : Number
  deriving DecidableEq, Repr

def namedSeconds (deadline : Deadline) : Number :=
  match deadline.seconds with
  | none => .real .zero
  | some seconds => if seconds.isZero then .real .zero else seconds

def timeout (deadline : Deadline) (stage : String) : Except Breakdown Timeout :=
  match deadline.namedSeconds.rounded? with
  | none => .error .hugeSeconds
  | some _ => .ok ⟨stage, deadline.namedSeconds⟩

def Timeout.message (timeout : Timeout) : String :=
  let seconds := timeout.seconds.general
  s!"Validation exceeded {seconds}s during '{timeout.stage}'"

end Deadline

end SubmissionGate
