import SubmissionGate.Archive.Member
import SubmissionGate.Json.Document

/-!
# Breakdowns

A few flaws of a submission, of its metadata, of the rule tables or of the time limit end a run
without any verdict. They are causes of their own and no issues.
-/

namespace SubmissionGate

inductive Breakdown where
  /-- A field of the metadata has no text. -/
  | unwritable (fault : Value.TextFault)
  | missingKey (key : String)
  /-- Submissions of this kind have no size limit of their own. -/
  | noDirectLimit (kind : String)
  | unnamedEntry
  /-- An archive entry needs this version of the format, in tenths. -/
  | unknownVersion (needed : Nat)
  | farEntry
  /-- The decompressor of an entry gave up for a flaw of a kind that is not expected. -/
  | decompressor (reason : String)
  | longInteger (digits : Nat)
  | hugeSeconds
  /-- A stage that should only warn stopped the validation. -/
  | stopped (reason : String)
  deriving DecidableEq, Repr

def Breakdown.message : Breakdown → String
  | unwritable fault => fault.message
  | missingKey key => Text.Quoted.text key
  | noDirectLimit kind => s!"No direct size limit for kind '{kind}'"
  | unnamedEntry => "archive entry without a name"
  | unknownVersion needed => (Archive.DirectoryFault.version needed).message
  | farEntry => Archive.MemberFault.farOffset.message
  | decompressor reason => reason
  | longInteger digits => Numeral.excessMessage digits
  | hugeSeconds => "time limit out of range"
  | stopped reason => reason

end SubmissionGate
