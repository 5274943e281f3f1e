import SubmissionGate.Number.Numeral
import SubmissionGate.Rules.BrowserApi
import SubmissionGate.Rules.Method
import SubmissionGate.Table

/-!
# Rule tables

Every limit, list and name that the gate consults. The tables are plain data and are handed to each
stage; a configuration derives a variant of them.
-/

namespace SubmissionGate

open Rules

/-- The tables of one version of the rules. Sizes are in bytes. -/
structure RuleTables where
  version : String
  sizeLimits : Table Int
  tierBudgets : Table Int
  defaultTiers : Table String
  assetLimits : Table Int
  assetExtensions : Table String
  cdnHost : String
  libraries : Table String
  requiredHtmlTags : List String
  canvasId : String
  gameObjectGlobal : String
  gameObjectName : String
  requiredMethods : List RequiredMethod
  forbiddenRules : List ForbiddenToken
  advisoryRules : List AdvisoryToken
  allowedApis : List String
  bundleScript : String
  bundleManifest : String
  bundleAssetRoot : String
  maxEntries : Int
  maxCompressionRatio : Int
  /-- Declared sizes up to this one are not tested for their ratio. -/
  compressionCheckFloor : Int
  deriving Repr

namespace RuleTables

def kibibytes : Int := 1024

def mebibytes : Int := 1024 * kibibytes

def standard : RuleTables where
  version := "2026.10-m1"
  sizeLimits := [("html_2d", 500 * kibibytes), ("html_3d", 2 * mebibytes),
    ("script", 50 * kibibytes)]
  tierBudgets := [("2d_basic", 5 * mebibytes), ("2d_rich", 15 * mebibytes),
    ("3d_standard", 25 * mebibytes), ("3d_premium", 50 * mebibytes)]
  defaultTiers := [("2d", "2d_basic"), ("3d", "3d_standard")]
  assetLimits := [("image", 2 * mebibytes), ("audio", 5 * mebibytes), ("model", 10 * mebibytes),
    ("font", 500 * kibibytes), ("spritesheet", 3 * mebibytes), ("json", mebibytes)]
  assetExtensions := [(".png", "image"), (".jpg", "image"), (".jpeg", "image"), (".gif", "image"),
    (".webp", "image"), (".mp3", "audio"), (".ogg", "audio"), (".wav", "audio"), (".m4a", "audio"),
    (".aac", "audio"), (".glb", "model"), (".gltf", "model"), (".obj", "model"), (".woff", "font"),
    (".woff2", "font"), (".ttf", "font"), (".otf", "font"), (".json", "json")]
  cdnHost := "cdn.jsdelivr.net"
  libraries := [
    ("three", "https://cdn.jsdelivr.net/npm/three@0.160.0/build/three.min.js"),
    ("phaser", "https://cdn.jsdelivr.net/npm/phaser@3.80.1/dist/phaser.min.js"),
    ("p5", "https://cdn.jsdelivr.net/npm/p5@1.9.0/lib/p5.min.js"),
    ("pixi", "https://cdn.jsdelivr.net/npm/pixi.js@7.3.2/dist/pixi.min.js"),
    ("matter", "https://cdn.jsdelivr.net/npm/matter-js@0.19.0/build/matter.min.js"),
    ("howler", "https://cdn.jsdelivr.net/npm/howler@2.2.4/dist/howler.min.js")]
  requiredHtmlTags := ["!doctype", "html", "body", "script"]
  canvasId := "clawmachine-canvas"
  gameObjectGlobal := "window"
  gameObjectName := "ClawmachineGame"
  requiredMethods := Rules.requiredMethods
  forbiddenRules := Rules.forbiddenTokens
  advisoryRules := Rules.advisoryTokens
  allowedApis := Rules.allowedApis
  bundleScript := "game.js"
  bundleManifest := "manifest.json"
  bundleAssetRoot := "assets/"
  maxEntries := 1000
  maxCompressionRatio := 100
  compressionCheckFloor := mebibytes

def methodPatternNames (rules : RuleTables) : List String :=
  let names := rules.requiredMethods.flatMap fun spec => spec.patterns.map (·.name)
  names.eraseDups.mergeSort fun a b => a ≤ b

def summary (rules : RuleTables) : List (String × Value) :=
  let sizes := fun (table : Table Int) =>
    Value.map (table.map fun (key, size) => (.text key, .int size))
  let names := fun (table : Table String) =>
    Value.map (table.map fun (key, name) => (.text key, .text name))
  let texts := fun (list : List String) => Value.list (list.map .text)
  let forbidden := rules.forbiddenRules.map fun rule =>
    Value.map [(.text "token", .text rule.token), (.text "category", .text rule.category)]
  [("version", .text rules.version), ("size_limits", sizes rules.sizeLimits),
    ("tier_budgets", sizes rules.tierBudgets), ("asset_limits", sizes rules.assetLimits),
    ("asset_extensions", names rules.assetExtensions), ("cdn_host", .text rules.cdnHost),
    ("libraries", names rules.libraries),
    ("required_methods", texts (rules.requiredMethods.map (·.name))),
    ("method_patterns", texts rules.methodPatternNames), ("forbidden_rules", .list forbidden),
    ("allowed_apis", texts rules.allowedApis)]

def isWritable (rules : RuleTables) : Bool :=
  [rules.sizeLimits, rules.tierBudgets, rules.assetLimits].all fun table =>
    table.all fun entry => Numeral.isWritable entry.2

/-- The tier that applies when the submitter declares one or none. -/
def tierFor (rules : RuleTables) (tier : Option String) (dimensions : String) : String :=
  match tier with
  | some name =>
    if name.isEmpty then (rules.defaultTiers.get? dimensions).getD "2d_basic" else name
  | none => (rules.defaultTiers.get? dimensions).getD "2d_basic"

end RuleTables

end SubmissionGate
