import SubmissionGate.Main
import SubmissionGate.Service
import SubmissionGate.Proofs.Bundle.Sizes
import SubmissionGate.Proofs.Bundle.Spending
import SubmissionGate.Proofs.Gate.Breakdowns
import SubmissionGate.Proofs.Gate.ScriptBundle
import SubmissionGate.Proofs.Gate.VerdictShape
import SubmissionGate.Proofs.Markup.InlineScript
import SubmissionGate.Proofs.Script.KeptText
import SubmissionGate.Proofs.Script.LineEnd
import SubmissionGate.Proofs.Script.PublishedLiteral
import SubmissionGate.Proofs.Url.ScriptHost
import SubmissionGate.Proofs.Script.Attempts
import SubmissionGate.Proofs.Script.TokenShape
import SubmissionGate.Proofs.Script.Operand
import SubmissionGate.Proofs.Gate.AddressScan
import SubmissionGate.Proofs.Script.RegexStart
import SubmissionGate.Proofs.Script.Bodies
import SubmissionGate.Proofs.Script.MethodSearch
import SubmissionGate.Proofs.Bundle.Exhaustion
import SubmissionGate.Proofs.Bundle.Ledger
import SubmissionGate.Proofs.RuleTables.Safety
import SubmissionGate.Proofs.Gate.Ceilings
import SubmissionGate.Proofs.Gate.ManifestNote
import SubmissionGate.Proofs.Script.Progress
import SubmissionGate.Proofs.Script.TokenCover
import SubmissionGate.Proofs.Config.Outcome
import SubmissionGate.Proofs.Script.Interpolation
