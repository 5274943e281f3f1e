/-!
# Keyed tables

A table maps texts to values and keeps the order in which the keys first came in.
-/

namespace SubmissionGate

abbrev Table (α : Type) := List (String × α)

namespace Table

variable {α : Type}

def get? (table : Table α) (key : String) : Option α := List.lookup key table

def has (table : Table α) (key : String) : Bool := table.any fun entry => entry.1 == key

def keys (table : Table α) : List String := table.map (·.1)

/-- Sets the value under a key: in its place if the key is there, at the end otherwise. -/
def put (table : Table α) (key : String) (value : α) : Table α :=
  if table.has key then
    table.map fun entry => if entry.1 == key then (key, value) else entry
  else table ++ [(key, value)]

def sortedKeys (table : Table α) : List String := table.keys.mergeSort fun a b => a ≤ b

end Table

end SubmissionGate
