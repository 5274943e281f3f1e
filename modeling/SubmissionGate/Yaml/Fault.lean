import SubmissionGate.Calendar

/-!
# Faults of a configuration text
-/

namespace SubmissionGate.Yaml

inductive Fault where
  | unprintable
  | unexpected
  | missingColon
  /-- A list item, key or value where none may start. -/
  | misplaced
  | unclosedQuote
  | badEscape
  /-- An escaped code point beyond the last one. -/
  | farCodePoint (point : Nat)
  | badMark
  | badHeader
  | structural
  | severalDocuments
  | badDirective
  | unknownHandle
  | repeatedAnchor
  | unknownAnchor
  | unknownTag
  | wrongShape
  | collectionKey
  | badMerge
  | badBinary
  | badDigits (digits : String) (base : Nat)
  | tooManyDigits (count : Nat)
  | noDigits
  | notReal (text : String)
  /-- A number that counts in sixties with more places than floating-point numbers reach. -/
  | hugeUnit
  | notBool (word : String)
  | notTimestamp
  | badTimestamp (fault : Calendar.Fault)
  deriving DecidableEq, Repr

end SubmissionGate.Yaml
