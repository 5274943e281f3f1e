import SubmissionGate.Platform
import SubmissionGate.Value
import SubmissionGate.Text.LetterCase
import SubmissionGate.Text.Space

/-!
# Submission metadata

What the submitter declares beside the payload. Names are trimmed and lower-cased; a field that
cannot be read is listed as malformed. A name is the text of any value, so there are no metadata
where that text cannot be written.
-/

namespace SubmissionGate

structure Metadata where
  format : Option String
  dimensions : String
  tier : Option String
  libs : List String
  malformed : List String
  deriving Repr

namespace Metadata

def default : Metadata := ⟨none, "2d", none, [], []⟩

variable [Platform]

/-- The name that a field gives with its value. -/
def normalName (field : String) (value : Value) : Except Value.TextFault String :=
  (value.displayWithin (Platform.room field)).map fun text => Text.lowercased (Text.trimmed text)

def optionalName (field : String) (value : Option Value) :
    Except Value.TextFault (Option String) :=
  match value with
  | none | some .null => .ok none
  | some value => (normalName field value).map fun name => if name.isEmpty then none else some name

/-- The dimensions that are declared, two where nothing is. -/
def dimensionsName (value : Option Value) : Except Value.TextFault String :=
  match value with
  | none => .ok "2d"
  | some value => if value.isBlank then .ok "2d" else normalName "dimensions" value

def text? : Value → Option String
  | .text s => some s
  | _ => none

/-- One name or a list of names; `none` for anything else. -/
def names? : Option Value → Option (List String)
  | none | some .null => some []
  | some (.text s) => some (if s.isEmpty then [] else [s])
  | some (.list items) => items.mapM text?
  | some _ => none

def ofEntries (entries : List (Value × Value)) : Except Value.TextFault Metadata :=
  if entries.isEmpty then .ok default
  else do
    let field := Value.field? entries
    let libs := names? (field "libs")
    let format ← optionalName "format" (field "format")
    let dimensions ← dimensionsName (field "dimensions")
    let tier ← optionalName "tier" (field "tier")
    return {
      format
      dimensions
      tier
      libs := libs.getD []
      malformed := if libs.isNone then ["libs"] else [] }

end Metadata

end SubmissionGate
