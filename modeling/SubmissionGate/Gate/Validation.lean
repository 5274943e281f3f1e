import SubmissionGate.Gate.Deadline
import SubmissionGate.Gate.Stage
import SubmissionGate.Verdict

/-!
# Validation

A submission is resolved, runs through the stages that decide until one of them stops it, and then,
if its text was decoded, through the stages that only warn. The verdict collects the issues of all
of them. In front of every stage the run may be cut short.
-/

namespace SubmissionGate.Gate

structure Plan where
  gating : List Stage
  warning : List Stage

def Plan.standard : Plan := ⟨Stage.gating, Stage.warning⟩

def component : String := "orchestrator"

variable [Platform]

/-- Runs the deciding stages until one stops. -/
def runGating (context : Context) (verdict : Verdict) : List Stage → Run (Context × Verdict)
  | [] => .done (context, verdict)
  | stage :: stages =>
    .check stage.name fun _ =>
      if stage.appliesTo context then
        (stage.run context).bind fun report =>
          let verdict := verdict.extend report.issues
          if report.stops then
            let reason := Issue.joinedMessage report.issues
            .record ⟨.debug, component, s!"Stage {stage.name} stopped the pipeline: {reason}"⟩
              (.done (report.context, verdict))
          else if report.issues.isEmpty then runGating report.context verdict stages
          else
            let count := report.issues.length
            .record ⟨.debug, component, s!"Stage {stage.name} reported {count} issue(s)"⟩
              (runGating report.context verdict stages)
      else runGating context verdict stages

/-- Runs the warning stages. They have no business to stop a validation, so one that does leaves no
verdict. -/
def runWarning (context : Context) (verdict : Verdict) : List Stage → Run Verdict
  | [] => .done verdict
  | stage :: stages =>
    .check stage.name fun _ =>
      if stage.appliesTo context then
        (stage.run context).bind fun report =>
          if report.stops then .broken (.stopped (Issue.joinedMessage report.issues))
          else runWarning report.context (verdict.extend report.issues) stages
      else runWarning context verdict stages

def verdictNote (verdict : Verdict) (kind : String) (size : Nat) : String :=
  if verdict.ok then
    s!"Accepted {kind} submission ({size} bytes, {verdict.warnings.length} warning(s))"
  else
    let codes := ", ".intercalate verdict.codes
    s!"Rejected {kind} submission ({size} bytes): {codes}"

def conclude (verdict : Verdict) (kind : String) (size : Nat) : Run Verdict :=
  .record ⟨.info, component, verdictNote verdict kind size⟩ (.done verdict)

def validateResolved (plan : Plan) (rules : RuleTables) (submission : Submission)
    (resolved : Submission.Resolved) : Run Verdict := do
  let (context, verdict) ←
    runGating (.start rules submission resolved) .empty plan.gating
  let verdict ←
    if context.text.isSome then runWarning context verdict plan.warning else pure verdict
  conclude verdict resolved.kind.name submission.payload.size

def validate (plan : Plan) (rules : RuleTables) (submission : Submission) : Run Verdict :=
  let size := submission.payload.size
  match submission.resolve rules with
  | .error (.broken breakdown) => .broken breakdown
  | .error (.refused fault) => conclude (Verdict.empty.add fault.issue) "unresolved" size
  | .ok resolved =>
    let note := s!"Resolved {size} byte submission as {resolved.kind.name} " ++
      s!"({resolved.dimensions}, limit {resolved.sizeLimit})"
    .record ⟨.debug, component, note⟩ (validateResolved plan rules submission resolved)

end SubmissionGate.Gate
