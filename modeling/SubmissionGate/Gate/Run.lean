import SubmissionGate.Gate.Breakdown
import SubmissionGate.Log

/-!
# Runs

A run is a computation that stops at points where time may be up and reports log records on its
way. It does not know the time: what a run comes to with a given clock is `Run.play`, and what it
comes to with all the time in the world is `Run.finish`. A clock can only cut a run short.
-/

namespace SubmissionGate

/-- A computation up to the next thing that it asks or reports. -/
inductive Run (α : Type) where
  | done (value : α)
  | broken (breakdown : Breakdown)
  | record (entry : LogRecord) (rest : Run α)
  /-- A point at which the run may be cut short, in front of the named stage. -/
  | check (stage : String) (rest : Unit → Run α)

namespace Run

variable {α β : Type}

def bind : Run α → (α → Run β) → Run β
  | .done value, next => next value
  | .broken breakdown, _ => .broken breakdown
  | .record entry rest, next => .record entry (rest.bind next)
  | .check stage rest, next => .check stage fun _ => (rest ()).bind next

instance : Monad Run where
  pure := .done
  bind := Run.bind

/-- What a run comes to if it is never cut short. -/
def finish : Run α → Except Breakdown α
  | .done value => .ok value
  | .broken breakdown => .error breakdown
  | .record _ rest => rest.finish
  | .check _ rest => (rest ()).finish

def records : Run α → List LogRecord
  | .done _ => []
  | .broken _ => []
  | .record entry rest => entry :: rest.records
  | .check _ rest => (rest ()).records

inductive Ending (α : Type) where
  | done (value : α)
  | broken (breakdown : Breakdown)
  | expired (stage : String)
  deriving Repr

/-- What a run comes to and reports when `expired n` tells whether time is up at its `n`-th
check, counted from `n` on. -/
def playFrom (expired : Nat → Bool) (n : Nat) : Run α → Ending α × List LogRecord
  | .done value => (.done value, [])
  | .broken breakdown => (.broken breakdown, [])
  | .record entry rest =>
    let (ending, entries) := playFrom expired n rest
    (ending, entry :: entries)
  | .check stage rest =>
    if expired n then (.expired stage, []) else playFrom expired (n + 1) (rest ())

def play (expired : Nat → Bool) (run : Run α) : Ending α × List LogRecord :=
  playFrom expired 0 run

end Run

end SubmissionGate
