import SubmissionGate.Bundle.Path

/-!
# Asset categories

An asset's category follows from its extension, whatever its case. An image and a JSON file with
one stem describe a sprite sheet together, and then every image and JSON file of that stem belongs
to the sheet.
-/

namespace SubmissionGate.Bundle

def imageCategory : String := "image"

def jsonCategory : String := "json"

def sheetCategory : String := "spritesheet"

def plainExtension (path : String) : String := Text.lowercased (extension path)

def extensionCategory? (rules : RuleTables) (path : String) : Option String :=
  rules.assetExtensions.get? (plainExtension path)

def canJoinSheet (category : Option String) : Bool :=
  category == some imageCategory || category == some jsonCategory

structure Classified where
  path : String
  stem : String
  category : Option String
  deriving DecidableEq, Repr

def classify (rules : RuleTables) (path : String) : Classified :=
  ⟨path, without path (plainExtension path), extensionCategory? rules path⟩

def hasPart (assets : List Classified) (stem category : String) : Bool :=
  assets.any fun asset => asset.stem == stem && asset.category == some category

def Classified.settled (assets : List Classified) (asset : Classified) : Option String :=
  if canJoinSheet asset.category && hasPart assets asset.stem imageCategory
      && hasPart assets asset.stem jsonCategory then some sheetCategory
  else asset.category

/-- The category of each path, in order of first occurrence. -/
def categories (rules : RuleTables) (paths : List String) : Table (Option String) :=
  let assets := paths.map (classify rules)
  assets.foldl (fun table asset => table.put asset.path (asset.settled assets)) []

end SubmissionGate.Bundle
