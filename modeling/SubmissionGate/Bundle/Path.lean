import SubmissionGate.RuleTables
import SubmissionGate.Text.LetterCase

/-!
# Paths in a bundle

What the gate reads off the path of a bundle entry: whether it can leave the directory that the
bundle is unpacked into, what role it has, and the extension and stem of its file name.
-/

namespace SubmissionGate.Bundle

def components : List Char → List (List Char)
  | [] => [[]]
  | c :: rest =>
    if c == '/' then [] :: components rest
    else match components rest with
      | [] => [[c]]
      | part :: parts => (c :: part) :: parts

def isPlainComponent (part : List Char) : Bool :=
  !part.isEmpty && part != ['.'] && part != ['.', '.']

/-- Whether a path stays below any directory that it is joined to. -/
def staysBelow (path : String) : Bool :=
  let chars := path.toList
  !chars.contains '\\' && !chars.contains ':' && (components chars).all isPlainComponent

inductive Role where
  | script
  | manifest
  | asset
  /-- A safe path that the bundle layout has no place for. -/
  | stray
  | unsafePath
  deriving DecidableEq, Repr

def Role.name : Role → String
  | script => "script"
  | manifest => "manifest"
  | asset => "asset"
  | stray => "stray"
  | unsafePath => "unsafe"

def isBelow (root path : String) : Bool :=
  root.toList.isPrefixOf path.toList && root.length < path.length

def roleOf (rules : RuleTables) (path : String) : Role :=
  if !staysBelow path then .unsafePath
  else if path = rules.bundleScript then .script
  else if path = rules.bundleManifest then .manifest
  else if isBelow rules.bundleAssetRoot path then .asset
  else .stray

def fileName (path : List Char) : List Char :=
  (((components path).filter fun part => !part.isEmpty && part != ['.']).getLast?).getD []

/-- The extension of a file name with its point, which is neither its first nor its last
character. -/
def extensionOf (name : List Char) : List Char :=
  let behind := (name.reverse.takeWhile (· != '.')).reverse
  let front := name.length - behind.length
  if behind.isEmpty || front ≤ 1 then [] else '.' :: behind

def extension (path : String) : String := String.ofList (extensionOf (fileName path.toList))

/-- The path without as many characters at its end as the given extension has. -/
def without (path ext : String) : String :=
  String.ofList (path.toList.take (path.length - ext.length))

def stem (path : String) : String := without path (extension path)

end SubmissionGate.Bundle
