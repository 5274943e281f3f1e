import SubmissionGate.Bundle.Inventory
import SubmissionGate.Gate.Context

/-!
# Checks on a bundle

The issues that follow from the inventory of a bundle: its layout, the ceilings of its assets and
sprite sheets, its budget and its manifest. The manifest can only give a warning.
-/

namespace SubmissionGate.Bundle

def entryIssue (message entry : String) (detail : List (String × Value)) : Issue :=
  .error .invalidAssetBundle message (("entry", .text entry) :: detail)

def sortedOnce (names : List String) : List String :=
  names.eraseDups.mergeSort fun a b => a ≤ b

def duplicateIssues (inventory : Inventory) : List Issue :=
  (sortedOnce inventory.duplicates).map fun path =>
    entryIssue s!"Entry '{path}' appears more than once" path []

def placeIssue? (root path : String) : Role → Option Issue
  | .unsafePath => some (entryIssue s!"Entry '{path}' has an unsafe path" path [])
  | .stray => some (entryIssue s!"Entry '{path}' must live under {root}" path [])
  | _ => none

def placementIssues (rules : RuleTables) (inventory : Inventory) : List Issue :=
  duplicateIssues inventory ++
    inventory.roles.filterMap fun (path, role) => placeIssue? rules.bundleAssetRoot path role

def ceiling (limits : Table Int) (category : String) : Except Breakdown Int :=
  match limits.get? category with
  | some limit => .ok limit
  | none => .error (.missingKey category)

def assetIssue? (limits : Table Int) (asset : Asset) : Except Breakdown (Option Issue) :=
  match asset.category with
  | none =>
    let ext := if asset.extension.isEmpty then "(none)" else asset.extension
    .ok (some (entryIssue s!"Entry '{asset.path}' has unsupported extension '{ext}'" asset.path []))
  | some category =>
    if category = sheetCategory then .ok none
    else
      match ceiling limits category with
      | .error breakdown => .error breakdown
      | .ok limit =>
        if limit < asset.size then
          let label := Text.capitalized category
          .ok (some (entryIssue
            s!"{label} '{asset.path}' is {asset.size} bytes; the limit is {limit} bytes" asset.path
            [("category", .text category), ("actual", .int asset.size), ("allowed", .int limit)]))
        else .ok none

def sheets (assets : List Asset) : Table (List Asset) :=
  let parts := assets.filter fun asset => asset.category == some sheetCategory
  (sortedOnce (parts.map fun asset => stem asset.path)).map fun key =>
    (key, parts.filter fun asset => stem asset.path == key)

def combinedSize (assets : List Asset) : Nat := (assets.map (·.size)).foldr (· + ·) 0

def sheetIssue? (limits : Table Int) (key : String) (members : List Asset) :
    Except Breakdown (Option Issue) :=
  match ceiling limits sheetCategory with
  | .error breakdown => .error breakdown
  | .ok limit =>
    let size := combinedSize members
    if limit < size then
      .ok (some (entryIssue s!"Sprite sheet '{key}' is {size} bytes; the limit is {limit} bytes" key
        [("category", .text sheetCategory),
          ("members", .list (members.map fun asset => .text asset.path)), ("actual", .int size),
          ("allowed", .int limit)]))
    else .ok none

/-- The issues of the assets: each against its own ceiling, then the sprite sheets. -/
def ceilingIssues (limits : Table Int) (assets : List Asset) : Except Breakdown (List Issue) := do
  let single ← assets.mapM (assetIssue? limits)
  let combined ← (sheets assets).mapM fun (key, members) => sheetIssue? limits key members
  return (single ++ combined).filterMap id

def budgetIssues (resolved : Submission.Resolved) (inventory : Inventory) : List Issue :=
  if resolved.sizeLimit < inventory.totalSize then
    let tier := resolved.tier.getD "None"
    [.error .invalidAssetBundle
      (s!"Bundle contents total at least {inventory.totalSize} bytes; " ++
        s!"tier {tier} allows {resolved.sizeLimit} bytes")
      [("actual", .int inventory.totalSize), ("allowed", .int resolved.sizeLimit),
        ("tier", (resolved.tier.map Value.text).getD .null)]]
  else []

def manifestNote (message : String) (detail : List (String × Value)) : Issue :=
  .warning .manifestIgnored s!"{message}; it was ignored" detail

def preload? (entries : List (Value × Value)) : Option (List String) :=
  match Value.field? entries "preload" with
  | none => some []
  | some (.list items) => items.mapM Metadata.text?
  | some _ => none

def contentWarnings (name : String) (paths : List String) : Value → List Issue
  | .map entries =>
    match preload? entries with
    | none => [manifestNote s!"{name} 'preload' must be a list of paths" []]
    | some preload =>
      let absent := preload.filter fun path => !paths.contains path
      if absent.isEmpty then []
      else
        let list := ", ".intercalate absent
        [manifestNote s!"{name} preloads files missing from the bundle: {list}"
          [("missing", .list (absent.map .text))]]
  | _ => [manifestNote s!"{name} must contain a JSON object" []]

inductive Unparsable where
  | ignored (reason : String)
  | broken (breakdown : Breakdown)

variable [Platform]

def parseManifest (data : ByteArray) : Except Unparsable Value :=
  match Utf8.decodeMarked data.data.toList with
  | .error fault => .error (.ignored fault.message)
  | .ok text =>
    match Json.read Platform.nesting text with
    | .ok value => .ok value
    | .error (.tooManyDigits digits) => .error (.broken (.longInteger digits))
    | .error fault => .error (.ignored (fault.message text))

def component : String := "validators.bundle"

def manifestNotes (rules : RuleTables) (inventory : Inventory) : Run (List Issue) :=
  let name := rules.bundleManifest
  if !inventory.roles.has name then .done []
  else match inventory.manifest with
    | none =>
      match rules.assetLimits.get? jsonCategory with
      | none => .broken (.missingKey jsonCategory)
      | some limit => .done [manifestNote s!"{name} is larger than {limit} bytes" []]
    | some data =>
      match parseManifest data with
      | .error (.broken breakdown) => .broken breakdown
      | .error (.ignored reason) =>
        .record ⟨.debug, component, s!"Ignoring unparsable {name}: {reason}"⟩
          (.done [manifestNote s!"{name} is not valid JSON" []])
      | .ok value => .done (contentWarnings name inventory.roles.keys value)

end SubmissionGate.Bundle
