import SubmissionGate.Yaml.Node
import SubmissionGate.Yaml.Scalar

/-!
# Configuration documents

A document as a value. Lists and maps cannot be keys; of keys that agree the first keeps its place
and the last its value. A map may take over the entries of others, which its own entries override.
A set is the list of its members, and pairs are lists of two. An empty text is the null value. Of
several faults the one nearest to the root counts, and of those the first.
-/

namespace SubmissionGate.Yaml

/-- A fault and how deep the list or map lies that shows it. -/
structure DeepFault where
  depth : Nat
  fault : Fault
  deriving DecidableEq, Repr

abbrev Reading (α : Type) := Except DeepFault α

namespace Reading

variable {α β : Type}

def atDepth (depth : Nat) (read : Except Fault α) : Reading α := read.mapError (⟨depth, ·⟩)

/-- Two readings side by side; the deeper fault gives way, and the second of one depth. -/
def both : Reading α → Reading β → Reading (α × β)
  | .ok x, .ok y => .ok (x, y)
  | .error fault, .ok _ => .error fault
  | .ok _, .error fault => .error fault
  | .error first, .error second => .error (if second.depth < first.depth then second else first)

def all : List (Reading α) → Reading (List α)
  | [] => .ok []
  | first :: rest => (both first (all rest)).map fun (x, xs) => x :: xs

/-- Refuses a node that has not the shape of its type. The parts of a value are looked at one level
below it. -/
def misfit (depth : Nat) (tag : Tag) : Reading α :=
  .error ⟨if tag.hasParts then depth + 1 else depth, .wrongShape⟩

end Reading

mutual

/-- The text of a node as a scalar. A map has the one under its mark for a default. -/
def textOf : Node → Except Fault (List Char)
  | .scalar _ text => .ok text
  | .sequence .. => .error .wrongShape
  | .mapping _ entries => defaultText entries

def defaultText : List (Node × Node) → Except Fault (List Char)
  | [] => .error .wrongShape
  | (key, value) :: entries => if key.tag == .default then textOf value else defaultText entries

end

def keyValue (key : Node) : Except Fault Value :=
  if key.tag.hasParts then .error .collectionKey
  else (textOf key).bind (Scalar.value (if key.tag == .default then .text else key.tag))

abbrev Entries := List (Reading (Value × Value))

def distinct (entries : List (Value × Value)) : List (Value × Value) :=
  entries.foldl (fun done (key, value) => Value.putEntry done key value) []

mutual

def ofNode (depth : Nat) : Node → Reading Value
  | .scalar tag text =>
    if tag.hasParts then Reading.misfit depth tag else .atDepth depth (Scalar.value tag text)
  | .sequence tag items =>
    match tag with
    | .list => (Reading.all (ofItems (depth + 1) items)).map .list
    | .pairs => (Reading.all (ofPairs (depth + 1) items)).map .list
    | tag => Reading.misfit depth tag
  | .mapping tag entries =>
    match tag with
    | .map => (ofEntries (depth + 1) entries).map .map
    | .set => (ofEntries (depth + 1) entries).map fun entries => .list (entries.map (·.1))
    | tag =>
      if tag.hasParts then Reading.misfit depth tag
      else .atDepth depth ((defaultText entries).bind (Scalar.value tag))

def ofItems (depth : Nat) : List Node → List (Reading Value)
  | [] => []
  | item :: items => ofNode depth item :: ofItems depth items

def ofPairs (depth : Nat) : List Node → List (Reading Value)
  | [] => []
  | .mapping _ [(key, value)] :: items =>
    (Reading.both (ofNode depth key) (ofNode depth value)).map (fun (key, value) =>
      .list [key, value]) :: ofPairs depth items
  | _ :: _ => [Reading.misfit depth .text]

def ofEntries (depth : Nat) (entries : List (Node × Node)) : Reading (List (Value × Value)) := do
  return distinct (← Reading.all (← .atDepth depth (allEntries depth entries)))

def allEntries (depth : Nat) (entries : List (Node × Node)) : Except Fault Entries := do
  return (← mergedEntries depth entries) ++ ownEntries depth entries

/-- The entries of a map itself. A key that cannot be one keeps its value from being read. -/
def ownEntries (depth : Nat) : List (Node × Node) → Entries
  | [] => []
  | (key, value) :: entries =>
    let rest := ownEntries depth entries
    if key.tag == .merge then rest
    else match keyValue key with
      | .error fault => .error ⟨depth, fault⟩ :: rest
      | .ok key => (ofNode depth value).map (fun value => (key, value)) :: rest

def mergedEntries (depth : Nat) : List (Node × Node) → Except Fault Entries
  | [] => .ok []
  | (key, value) :: entries => do
    if key.tag == .merge then
      let taken ← match value with
        | .mapping _ others => allEntries depth others
        | .sequence _ items => mergedItems depth items
        | .scalar .. => .error .badMerge
      return taken ++ (← mergedEntries depth entries)
    else mergedEntries depth entries

/-- The entries of a list of maps; an earlier map overrides a later one. -/
def mergedItems (depth : Nat) : List Node → Except Fault Entries
  | [] => .ok []
  | .mapping _ others :: items => do
    let taken ← allEntries depth others
    return (← mergedItems depth items) ++ taken
  | _ :: _ => .error .badMerge

end

def read (text : List Char) : Except Fault Value := do
  match ← Node.ofTokens (tokens text) with
  | none => return .null
  | some node => (ofNode 0 node).mapError (·.fault)

end SubmissionGate.Yaml
