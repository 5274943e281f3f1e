import SubmissionGate.Markup.Document
import SubmissionGate.Script.Comment
import SubmissionGate.Script.GameObject
import SubmissionGate.Submission

/-!
# Validation contexts

What the stages of one validation share: the submission with its limits, and whatever earlier
stages made of it.
-/

namespace SubmissionGate

structure CodeUnit where
  source : List Char

namespace CodeUnit

def stripped (unit : CodeUnit) : List Char := Script.stripComments unit.source

def outline (unit : CodeUnit) : Script.Outline := .ofSource unit.stripped

def compact (unit : CodeUnit) : List Char := Text.collapse unit.stripped

end CodeUnit

structure FoundGame where
  outline : Script.Outline
  object : Script.GameObject

structure Context where
  submission : Submission
  resolved : Submission.Resolved
  rules : RuleTables
  text : Option (List Char)
  document : Option Markup.Document
  units : List CodeUnit
  game : Option FoundGame

namespace Context

def start (rules : RuleTables) (submission : Submission) (resolved : Submission.Resolved) :
    Context where
  submission
  resolved
  rules
  text := none
  document := none
  units := []
  game := none

end Context

end SubmissionGate
