import SubmissionGate.Archive.Container
import SubmissionGate.Gate.Breakdown
import SubmissionGate.Metadata
import SubmissionGate.RuleTables

/-!
# Submissions

A submission is a payload with the metadata that was declared for it. Before anything is checked it
is resolved: to its kind, its dimensions and the limits that hold for it. A zip archive is an asset
bundle whatever its declared format; other archives are refused.
-/

namespace SubmissionGate

structure Submission where
  payload : ByteArray
  metadata : Metadata

namespace Submission

inductive Kind where
  | html
  | script
  | assetBundle
  deriving DecidableEq, Repr

namespace Kind

def name : Kind → String
  | html => "html"
  | script => "script"
  | assetBundle => "asset_bundle"

def ofFormat? (format : String) : Option Kind :=
  if format = html.name then some html
  else if format = script.name then some script
  else none

end Kind

structure Resolved where
  kind : Kind
  dimensions : String
  sizeLimit : Int
  tier : Option String
  assetLimits : Table Int
  deriving Repr

inductive Fault where
  | empty
  | malformedField (field : String)
  | dimensions (declared : String)
  | unknownTier (tier : String) (known : List String)
  | container (found : Archive.Container)
  | format (declared : String)
  | binary (label : String) (offset : Nat)
  | notText (label : String) (offset : Nat)
  deriving DecidableEq, Repr

def knownDimensions : List String := ["2d", "3d"]

namespace Fault

def code : Fault → IssueCode
  | unknownTier _ _ => .invalidAssetBundle
  | _ => .invalidGameFile

def message : Fault → String
  | empty => "Submission is empty"
  | malformedField field => s!"Metadata field '{field}' must be a name or a list of names"
  | dimensions declared =>
    let known := ", ".intercalate knownDimensions
    s!"Unsupported dimensions '{declared}'; expected one of {known}"
  | unknownTier tier _ => s!"Unknown asset bundle tier '{tier}'"
  | container found =>
    s!"Unsupported archive container '{found.name}'; bundles must be zip files"
  | format declared => s!"Unsupported format '{declared}'; expected html or script"
  | binary label _ => s!"{label} contains binary data"
  | notText label _ => s!"{label} is not valid UTF-8 text"

def detail : Fault → List (String × Value)
  | empty => []
  | malformedField field => [("field", .text field)]
  | dimensions declared => [("dimensions", .text declared)]
  | unknownTier tier known => [("tier", .text tier), ("tiers", .list (known.map .text))]
  | container found => [("container", .text found.name)]
  | format declared => [("format", .text declared)]
  | binary _ offset => [("offset", .int offset)]
  | notText _ offset => [("offset", .int offset)]

def issue (fault : Fault) : Issue := .error fault.code fault.message fault.detail

end Fault

/-- The size limit of a kind by name; bundles are limited by their tier instead. -/
def sizeLimit (rules : RuleTables) (kind dimensions : String) : Except Breakdown Int :=
  let look := fun key =>
    match rules.sizeLimits.get? key with
    | some limit => .ok limit
    | none => .error (.missingKey key)
  if kind = Kind.script.name then look "script"
  else if kind = Kind.html.name then look ("html_" ++ dimensions)
  else .error (.noDirectLimit kind)

/-- Why a submission is not resolved: a fault of its own, or one that leaves no verdict. -/
inductive Unresolved where
  | refused (fault : Fault)
  | broken (breakdown : Breakdown)

def resolveBundle (rules : RuleTables) (metadata : Metadata) : Except Unresolved Resolved :=
  let tier := rules.tierFor metadata.tier metadata.dimensions
  match rules.tierBudgets.get? tier with
  | none => .error (.refused (.unknownTier tier rules.tierBudgets.sortedKeys))
  | some budget => .ok {
      kind := .assetBundle
      dimensions := metadata.dimensions
      sizeLimit := budget
      tier := some tier
      assetLimits := rules.assetLimits }

def declaredFormat (metadata : Metadata) : String :=
  match metadata.format with
  | none => Kind.html.name
  | some format => if format.isEmpty then Kind.html.name else format

def resolveText (rules : RuleTables) (metadata : Metadata) : Except Unresolved Resolved :=
  let format := declaredFormat metadata
  match Kind.ofFormat? format with
  | none => .error (.refused (.format format))
  | some kind =>
    match sizeLimit rules kind.name metadata.dimensions with
    | .error breakdown => .error (.broken breakdown)
    | .ok sizeLimit => .ok {
        kind
        dimensions := metadata.dimensions
        sizeLimit
        tier := none
        assetLimits := [] }

def resolve (rules : RuleTables) (submission : Submission) : Except Unresolved Resolved :=
  let metadata := submission.metadata
  if submission.payload.isEmpty then .error (.refused .empty)
  else match metadata.malformed with
    | field :: _ => .error (.refused (.malformedField field))
    | [] =>
      if !knownDimensions.contains metadata.dimensions then
        .error (.refused (.dimensions metadata.dimensions))
      else match Archive.Container.sniff? submission.payload with
        | some .zip => resolveBundle rules metadata
        | some container => .error (.refused (.container container))
        | none => resolveText rules metadata

def nulOffset? (bytes : List UInt8) : Option Nat := bytes.findIdx? (· == 0)

/-- Decodes a payload as text: UTF-8, with or without a byte-order mark, and without NUL. -/
def textOfPayload (label : String) (payload : ByteArray) : Except Fault (List Char) :=
  let bytes := payload.data.toList
  match nulOffset? bytes with
  | some offset => .error (.binary label offset)
  | none =>
    match Utf8.decodeMarked bytes with
    | .ok text => .ok text
    | .error fault => .error (.notText label fault.offset)

end Submission

end SubmissionGate
