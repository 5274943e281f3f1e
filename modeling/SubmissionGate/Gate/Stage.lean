import SubmissionGate.Gate.BundleCheck
import SubmissionGate.Gate.Check

/-!
# Validation stages

A stage reads the context, may add to it and reports issues. It may also stop the validation, when
its failure leaves nothing for later stages to look at. Each stage says which contexts it applies
to; it can be run on others all the same.
-/

namespace SubmissionGate.Gate

inductive Stage where
  | size
  | decode
  | assetBundle
  | requiredTags
  | canvas
  | externalScripts
  | libraries
  | gameObject
  | methods
  | forbiddenApis
  | viewport
  | advisories
  deriving DecidableEq, Repr

namespace Stage

def name : Stage → String
  | size => "size"
  | decode => "decode"
  | assetBundle => "asset_bundle"
  | requiredTags => "structure"
  | canvas => "canvas"
  | externalScripts => "external_scripts"
  | libraries => "libraries"
  | gameObject => "game_object"
  | methods => "methods"
  | forbiddenApis => "forbidden_apis"
  | viewport => "viewport"
  | advisories => "advisories"

/-- The stages that decide, in order. -/
def gating : List Stage :=
  [size, decode, assetBundle, requiredTags, canvas, externalScripts, libraries, gameObject, methods,
    forbiddenApis]

/-- The stages that only warn. -/
def warning : List Stage := [viewport, advisories]

def hasDocument (context : Context) : Bool :=
  context.resolved.kind == .html && context.document.isSome

def appliesTo (stage : Stage) (context : Context) : Bool :=
  match stage with
  | size | libraries => true
  | decode => context.resolved.kind != .assetBundle
  | assetBundle => context.resolved.kind == .assetBundle
  | requiredTags | externalScripts | viewport => hasDocument context
  | canvas => hasDocument context && context.resolved.dimensions == "2d"
  | methods => context.game.isSome
  | gameObject | forbiddenApis | advisories => context.text.isSome

end Stage

structure Report where
  context : Context
  issues : List Issue
  /-- Whether later stages are pointless. -/
  stops : Bool

namespace Report

def clean (context : Context) : Report := ⟨context, [], false⟩

def finding (context : Context) (issues : List Issue) : Report := ⟨context, issues, false⟩

def stopping (context : Context) (issues : List Issue) : Report := ⟨context, issues, true⟩

end Report

def sizeStage (context : Context) : Report :=
  let issues := payloadIssues context
  ⟨context, issues, !issues.isEmpty⟩

def decodeStage (context : Context) : Report :=
  match Submission.textOfPayload "Submission" context.submission.payload with
  | .error fault => .stopping context [fault.issue]
  | .ok text =>
    let context := { context with text := some text }
    if context.resolved.kind == .html then
      match Markup.Document.ofText text with
      | .error fault => .stopping context [.error .invalidHtml fault.message []]
      | .ok document =>
        .clean { context with
          document := some document
          units := document.codeUnits.map CodeUnit.mk }
    else .clean { context with units := [⟨text⟩] }

def assetLimits (context : Context) : Table Int :=
  if context.resolved.assetLimits.isEmpty then context.rules.assetLimits
  else context.resolved.assetLimits

def scriptReport (context : Context) (inventory : Bundle.Inventory) (issues : List Issue) :
    Except Breakdown Report :=
  let name := context.rules.bundleScript
  if !inventory.roles.has name then
    let issue := Bundle.entryIssue s!"Bundle has no root {name}" name []
    .ok (.stopping context (issues ++ [issue]))
  else match context.rules.sizeLimits.get? "script" with
    | none => .error (.missingKey "script")
    | some limit =>
      match inventory.script with
      | none => .ok (tooLarge name limit)
      | some data =>
        if limit < inventory.scriptSize then .ok (tooLarge name limit)
        else match Submission.textOfPayload name data with
          | .error fault => .ok (.stopping context (issues ++ [fault.issue]))
          | .ok text => .ok (.finding { context with text := some text, units := [⟨text⟩] } issues)
where
  tooLarge (name : String) (limit : Int) : Report :=
    let issue := oversized name inventory.scriptSize limit [("entry", .text name)]
    .stopping context (issues ++ [issue])

/-- Opens a bundle, checks its entries and hands its script on. -/
def bundleStage [Platform] (context : Context) : Run Report := do
  let rules := context.rules
  let budget := context.resolved.sizeLimit
  match ← Bundle.read rules context.submission.payload budget with
  | .error fault => return .stopping context [fault.issue]
  | .ok inventory =>
    match Bundle.ceilingIssues (assetLimits context) inventory.assets with
    | .error breakdown => .broken breakdown
    | .ok ceilingIssues =>
      let issues := Bundle.placementIssues rules inventory ++ ceilingIssues
        ++ Bundle.budgetIssues context.resolved inventory
      let warnings ← Bundle.manifestNotes rules inventory
      match scriptReport context inventory (issues ++ warnings) with
      | .error breakdown => .broken breakdown
      | .ok report => return report

def gameStage (context : Context) : Report :=
  match findGame context.rules context.units with
  | some game => .clean { context with game := some game }
  | none => .stopping context [missingGameIssue context.rules]

def Stage.run [Platform] (stage : Stage) (context : Context) : Run Report :=
  match stage with
  | size => .done (sizeStage context)
  | decode => .done (decodeStage context)
  | assetBundle => bundleStage context
  | requiredTags => .done (.finding context (requiredTagIssues context))
  | canvas => .done (.finding context (canvasIssues context))
  | externalScripts => .done (.finding context (externalScriptIssues context))
  | libraries => .done (.finding context (libraryIssues context))
  | gameObject => .done (gameStage context)
  | methods => .done (.finding context (methodIssues context.rules context.game))
  | forbiddenApis => .done (.finding context (forbiddenIssues context))
  | viewport => .done (.finding context (viewportIssues context))
  | advisories => .done (.finding context (advisoryIssues context))

end SubmissionGate.Gate
