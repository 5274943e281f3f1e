import SubmissionGate.Gate.Context
import SubmissionGate.Script.ApiUse
import SubmissionGate.Script.Member
import SubmissionGate.Url

/-!
# Checks on text submissions

The issues that follow from a document, from the declared libraries and from the code units. None
of these checks depends on another one, except that methods are looked for in the game object that
was found.
-/

namespace SubmissionGate.Gate

open Script

def oversized (label : String) (actual : Nat) (allowed : Int) (detail : List (String × Value)) :
    Issue :=
  .error .fileTooLarge s!"{label} is {actual} bytes; the limit is {allowed} bytes"
    ([("actual", .int actual), ("allowed", .int allowed)] ++ detail)

def sizeLabel (resolved : Submission.Resolved) : String :=
  match resolved.kind with
  | .assetBundle =>
    let tier := resolved.tier.getD "None"
    s!"Asset bundle ({tier})"
  | kind => s!"{Text.uppercased kind.name} submission ({resolved.dimensions})"

def payloadIssues (context : Context) : List Issue :=
  let actual := context.submission.payload.size
  let allowed := context.resolved.sizeLimit
  if (actual : Int) ≤ allowed then []
  else [oversized (sizeLabel context.resolved) actual allowed []]

def requiredTagIssues (context : Context) : List Issue :=
  (Markup.absentTags (context.text.getD []) context.rules.requiredHtmlTags).map fun tag =>
    .error .invalidHtml s!"Missing required <{tag}> tag" [("tag", .text tag)]

def canvasIssues (context : Context) : List Issue :=
  let id := context.rules.canvasId
  match context.document with
  | none => []
  | some document =>
    if document.canvasIds.contains id.toList then []
    else
      [.error .missingCanvas s!"2D games need a <canvas id=\"{id}\"> element"
        [("canvas_id", .text id)]]

def externalScriptIssues (context : Context) : List Issue :=
  let allowed := context.rules.cdnHost
  let sources := (context.document.map Markup.Document.scriptSources).getD []
  sources.filterMap fun source =>
    let host := Url.hostOfScript source
    if host == allowed.toList then none
    else
      let src := String.ofList source
      some (.error .invalidExternalScript s!"Script '{src}' is not served from {allowed}"
        [("src", .text src), ("host", .text (String.ofList host))])

/-- The declared libraries that are unknown or served from elsewhere. -/
def libraryIssues (context : Context) : List Issue :=
  let rules := context.rules
  context.submission.metadata.libs.filterMap fun key =>
    match rules.libraries.get? key with
    | none =>
      let known := ", ".intercalate rules.libraries.sortedKeys
      some (.error .invalidExternalScript s!"Unknown library '{key}'; available: {known}"
        [("lib", .text key)])
    | some url =>
      if Url.hostOfScript url.toList == rules.cdnHost.toList then none
      else
        some (.error .invalidExternalScript s!"Library '{key}' is not served from {rules.cdnHost}"
          [("lib", .text key), ("src", .text url)])

def findGame (rules : RuleTables) (units : List CodeUnit) : Option FoundGame :=
  units.findSome? fun unit =>
    let outline := unit.outline
    (outline.gameObject? rules.gameObjectGlobal rules.gameObjectName).map fun object =>
      ⟨outline, object⟩

def missingGameIssue (rules : RuleTables) : Issue :=
  let target := rules.gameObjectGlobal ++ "." ++ rules.gameObjectName
  .error .missingGameObject s!"No object is assigned to {target}" [("target", .text target)]

def methodIssues (rules : RuleTables) (game : Option FoundGame) : List Issue :=
  match game with
  | none => []
  | some game =>
    let found := game.outline.methods game.object rules.requiredMethods
    (rules.requiredMethods.filter fun spec => !found.has spec.name).map fun spec =>
      .error .missingMethod s!"{rules.gameObjectName} is missing required method '{spec.name}'"
        [("method", .text spec.name)]

/-- The first rule of each needle among the given ones. -/
def firstOfEach (needles : List (List Char)) (rules : List Rules.ForbiddenToken) :
    List Rules.ForbiddenToken :=
  let step := fun (hits : List Rules.ForbiddenToken) (rule : Rules.ForbiddenToken) =>
    if needles.contains rule.needle && !hits.any (·.needle == rule.needle) then rule :: hits
    else hits
  (rules.foldl step []).reverse

/-- The forbidden tokens that some unit uses, each once. -/
def forbiddenIssues (context : Context) : List Issue :=
  let rules := context.rules.forbiddenRules
  let needles := context.units.flatMap fun unit =>
    (forbiddenUses unit.compact rules).map (·.needle)
  (firstOfEach needles rules).map fun rule =>
    .error .forbiddenApi s!"Use of '{rule.token}' is not allowed ({rule.category})"
      [("token", .text rule.token), ("category", .text rule.category)]

def viewportIssues (context : Context) : List Issue :=
  match context.document with
  | none => []
  | some document =>
    if document.hasViewport then []
    else
      [.warning .missingViewport
        "No <meta name=\"viewport\"> tag; the game may not scale on mobile" []]

def totalUses (uses : List (Rules.AdvisoryToken × Nat)) (rule : Rules.AdvisoryToken) : Nat :=
  ((uses.filter fun use => use.1 == rule).map (·.2)).foldr (· + ·) 0

def advisoryIssues (context : Context) : List Issue :=
  let rules := context.rules.advisoryRules
  let uses := context.units.flatMap fun unit => advisoryUses unit.compact rules
  rules.filterMap fun rule =>
    let count := totalUses uses rule
    if count = 0 then none
    else
      some (.warning rule.code
        (s!"'{rule.token}' is used {count} time(s); " ++
          s!"{rule.label} output is not shown to players")
        [("token", .text rule.token), ("occurrences", .int count)])

end SubmissionGate.Gate
