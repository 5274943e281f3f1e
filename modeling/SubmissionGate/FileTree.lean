import SubmissionGate.Table
import SubmissionGate.Text.Quoted

/-!
# File trees

The files that a command looks at, as they are found when it starts. Paths are relative to a
current directory unless they start with a slash. A path is walked part by part, so what stands in
front of a `..` has to exist; only `FileTree.resolve` goes by the text of a path alone.
-/

namespace SubmissionGate

/-- A path without blank parts and without single points. -/
structure FilePath where
  /-- The slashes that an absolute path starts with: one, or two if there are just two. -/
  anchor : String
  parts : List String
  deriving DecidableEq, Repr

namespace FilePath

def split (text : String) : List String := (text.splitOn "/").filter fun part => !part.isEmpty

def ofText (text : String) : FilePath where
  anchor :=
    if text.startsWith "//" && !text.startsWith "///" then "//"
    else if text.startsWith "/" then "/"
    else ""
  parts := (split text).filter (· != ".")

def text (path : FilePath) : String :=
  let body := "/".intercalate path.parts
  if path.anchor.isEmpty && path.parts.isEmpty then "." else path.anchor ++ body

end FilePath

inductive FileFault where
  | notFound
  | notDirectory
  | isDirectory
  deriving DecidableEq, Repr

namespace FileFault

def number : FileFault → Nat
  | notFound => 2
  | notDirectory => 20
  | isDirectory => 21

def reason : FileFault → String
  | notFound => "No such file or directory"
  | notDirectory => "Not a directory"
  | isDirectory => "Is a directory"

def message (fault : FileFault) (path : String) : String :=
  let quoted := Text.Quoted.text path
  s!"[Errno {fault.number}] {fault.reason}: {quoted}"

end FileFault

inductive FileNode where
  | file (content : ByteArray)
  | directory

/-- Files and directories by their places, each a list of names from the root on. -/
structure FileTree where
  current : List String
  nodes : List (List String × FileNode)
  /-- The home directories by the names of their users; the user at hand has the empty name. -/
  homes : Table (List String)

namespace FileTree

/-- What stands at a place. Whatever holds something is a directory. -/
def node? (tree : FileTree) (place : List String) : Option FileNode :=
  match tree.nodes.find? fun node => node.1 == place with
  | some (_, node) => some node
  | none =>
    if place.isPrefixOf tree.current || tree.nodes.any fun node => place.isPrefixOf node.1 then
      some .directory
    else none

def walk (tree : FileTree) (place : List String) : List String → Except FileFault (List String)
  | [] => .ok place
  | part :: parts =>
    match tree.node? place with
    | none => .error .notFound
    | some (.file _) => .error .notDirectory
    | some .directory =>
      if part == ".." then walk tree place.dropLast parts else walk tree (place ++ [part]) parts

def origin (tree : FileTree) (path : FilePath) : List String :=
  if path.anchor.isEmpty then tree.current else []

def find (tree : FileTree) (path : FilePath) : Except FileFault FileNode :=
  match tree.walk (tree.origin path) path.parts with
  | .error fault => .error fault
  | .ok place =>
    match tree.node? place with
    | some node => .ok node
    | none => .error .notFound

def isDirectory (tree : FileTree) (path : FilePath) : Bool :=
  match tree.find path with
  | .ok .directory => true
  | _ => false

def read (tree : FileTree) (path : FilePath) : Except FileFault ByteArray :=
  match tree.find path with
  | .error fault => .error fault
  | .ok .directory => .error .isDirectory
  | .ok (.file content) => .ok content

/-- The place that the text of a path stands for, whether anything is there or not. -/
def resolve (tree : FileTree) (path : FilePath) : List String :=
  path.parts.foldl (fun place part => if part == ".." then place.dropLast else place ++ [part])
    (tree.origin path)

def places (tree : FileTree) (path : FilePath) : List (List String) :=
  (List.range (path.parts.length + 1)).map fun count =>
    tree.resolve { path with parts := path.parts.take count }

/-- The path with a home directory in place of a first part that names its user behind a tilde;
`none` if there is no such home. -/
def expandHome? (tree : FileTree) (path : FilePath) : Option FilePath :=
  match path.parts with
  | [] => some path
  | part :: parts =>
    if path.anchor.isEmpty && part.startsWith "~" then
      (tree.homes.get? (String.ofList (part.toList.drop 1))).map fun home => ⟨"/", home ++ parts⟩
    else some path

def absolute (place : List String) : FilePath := ⟨"/", place⟩

def writeFault? (tree : FileTree) (place : List String) : Option FileFault :=
  match tree.node? place with
  | some .directory => some .isDirectory
  | some (.file _) => none
  | none =>
    match tree.find (absolute place.dropLast) with
    | .ok .directory => none
    | .ok (.file _) => some .notDirectory
    | .error fault => some fault

def logFault? (tree : FileTree) (name : String) : Option (FileFault × String) :=
  let place := tree.resolve (.ofText name)
  (tree.writeFault? place).map fun fault => (fault, (absolute place).text)

/-- The tree once the log file of a name is open: it is there, empty if it is new. -/
def withLog (tree : FileTree) (name : String) : FileTree :=
  let place := tree.resolve (.ofText name)
  match tree.node? place with
  | some _ => tree
  | none => { tree with nodes := (place, .file ByteArray.empty) :: tree.nodes }

end FileTree

end SubmissionGate
