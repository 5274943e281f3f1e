import SubmissionGate.Calendar
import SubmissionGate.Number.Numeral
import SubmissionGate.Text.Quoted

/-!
# Dynamic values

What a submitter or a configuration file may hand in before it is checked: nulls, booleans,
numbers, texts, bytes, timestamps, lists and maps. Maps keep the order of their entries. The text of
a value quotes every text inside a list or a map. It cannot be written if an integer in it has too
many digits or if its parts stand too deep inside each other.
-/

namespace SubmissionGate

inductive Value where
  | null
  | bool (b : Bool)
  | number (n : Number)
  | text (s : String)
  | bytes (data : List UInt8)
  | timestamp (t : Timestamp)
  | list (items : List Value)
  | map (entries : List (Value × Value))
  deriving Repr, Inhabited

namespace Value

def int (n : Int) : Value := .number (.int n)

def real (x : Binary64) : Value := .number (.real x)

mutual

def inner : Value → String
  | .null => "None"
  | .bool b => if b then "True" else "False"
  | .number n => n.text
  | .text s => Text.Quoted.text s
  | .bytes data => Text.Quoted.bytes data
  | .timestamp t => t.text
  | .list items => "[" ++ ", ".intercalate (innerItems items) ++ "]"
  | .map entries => "\x7b" ++ ", ".intercalate (innerEntries entries) ++ "\x7d"

def innerItems : List Value → List String
  | [] => []
  | item :: rest => inner item :: innerItems rest

def innerEntries : List (Value × Value) → List String
  | [] => []
  | (key, item) :: rest => (inner key ++ ": " ++ inner item) :: innerEntries rest

end

def display : Value → String
  | .text s => s
  | v => v.inner

/-- Why a value has no text. -/
inductive TextFault where
  | tooManyDigits
  | tooDeep
  deriving DecidableEq, Repr

def TextFault.message : TextFault → String
  | tooManyDigits => Numeral.unwritableMessage
  | tooDeep => "maximum recursion depth exceeded while getting the repr of an object"

mutual

/-- The first fault in the text of a value with room for so many values inside each other. -/
def innerFault? : Value → Nat → Option TextFault
  | _, 0 => some .tooDeep
  | .number (.int n), _ + 1 => if Numeral.isWritable n then none else some .tooManyDigits
  | .list items, room + 1 => itemsFault? items room
  | .map entries, room + 1 => entriesFault? entries room
  | _, _ + 1 => none

def itemsFault? : List Value → Nat → Option TextFault
  | [], _ => none
  | item :: rest, room => (innerFault? item room).or (itemsFault? rest room)

def entriesFault? : List (Value × Value) → Nat → Option TextFault
  | [], _ => none
  | (key, item) :: rest, room =>
    (innerFault? key room).or ((innerFault? item room).or (entriesFault? rest room))

end

def textFault? : Value → Nat → Option TextFault
  | .text _, _ => none
  | v, room => v.innerFault? room

/-- The text of a value, if it can be written. -/
def displayWithin (v : Value) (room : Nat) : Except TextFault String :=
  match v.textFault? room with
  | some fault => .error fault
  | none => .ok v.display

def isBlank : Value → Bool
  | .null => true
  | .bool b => !b
  | .number n => n.isZero
  | .text s => s.isEmpty
  | .bytes data => data.isEmpty
  | .timestamp _ => false
  | .list items => items.isEmpty
  | .map entries => entries.isEmpty

def asNumber? : Value → Option Number
  | .bool b => some (.int (if b then 1 else 0))
  | .number n => some n
  | _ => none

/-- Whether two keys of a map are the same key. All that are no number are one key. -/
def sameKey (a b : Value) : Bool :=
  match a.asNumber?, b.asNumber? with
  | some (.real .nan), some (.real .nan) => true
  | some m, some n => m.same n
  | none, none => match a, b with
    | .null, .null => true
    | .text s, .text t => s == t
    | .bytes a, .bytes b => a == b
    | .timestamp s, .timestamp t => s.same t
    | _, _ => false
  | _, _ => false

def field? (entries : List (Value × Value)) (name : String) : Option Value :=
  (entries.find? fun entry => entry.1.sameKey (.text name)).map (·.2)

/-- Adds an entry; a key that is there already keeps its place and takes the new value. -/
def putEntry (entries : List (Value × Value)) (key value : Value) : List (Value × Value) :=
  if entries.any fun entry => entry.1.sameKey key then
    entries.map fun entry => if entry.1.sameKey key then (entry.1, value) else entry
  else entries ++ [(key, value)]

end Value

end SubmissionGate
