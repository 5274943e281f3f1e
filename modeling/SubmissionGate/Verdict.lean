import SubmissionGate.Issue

/-!
# Verdicts

The verdict on a submission collects errors and warnings apart, each in order of arrival. A run
that was given up leaves its reason; such a verdict accepts nothing.
-/

namespace SubmissionGate

structure Verdict where
  errors : List Issue
  warnings : List Issue
  incomplete : Option String
  deriving Repr

namespace Verdict

def empty : Verdict := ⟨[], [], none⟩

def abandoned (reason : String) : Verdict := ⟨[], [], some reason⟩

def ok (verdict : Verdict) : Bool := verdict.errors.isEmpty && verdict.incomplete.isNone

def errorCode? (verdict : Verdict) : Option IssueCode := verdict.errors.head?.map (·.code)

def add (verdict : Verdict) (issue : Issue) : Verdict :=
  match issue.severity with
  | .error => { verdict with errors := verdict.errors ++ [issue] }
  | .warning => { verdict with warnings := verdict.warnings ++ [issue] }

def extend (verdict : Verdict) (issues : List Issue) : Verdict := issues.foldl add verdict

def codes (verdict : Verdict) : List String := verdict.errors.map (·.code.name)

end Verdict

end SubmissionGate
