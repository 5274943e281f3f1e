import SubmissionGate.Archive.Member
import SubmissionGate.Bundle.Category
import SubmissionGate.Gate.Run

/-!
# Bundle inventories

The entries of a bundle, measured without trust in what the archive declares. The first entry of
each name counts and later ones are listed as duplicates. The script and the manifest are taken in
first; every other asset is decompressed only until the budget of the bundle is spent, and is taken
at its declared size from then on.
-/

namespace SubmissionGate.Bundle

open Archive

structure Asset where
  path : String
  extension : String
  category : Option String
  size : Nat
  deriving DecidableEq, Repr

structure Inventory where
  assets : List Asset
  roles : Table Role
  duplicates : List String
  script : Option ByteArray
  scriptSize : Nat
  manifest : Option ByteArray
  manifestSize : Nat
  totalSize : Nat
  budgetExhausted : Bool

inductive Fault where
  | unreadable (reason : String)
  | tooManyEntries (entries : Nat) (limit : Int)
  | encrypted (entry : String)
  | inflated (entry : String) (ratio : Binary64) (limit : Int)
  | undecodable (entry reason : String)
  | understated (entry : String)
  deriving DecidableEq, Repr

namespace Fault

def code : Fault → IssueCode
  | unreadable _ => .invalidGameFile
  | _ => .invalidAssetBundle

def message : Fault → String
  | unreadable _ => "Asset bundle is not a readable zip archive"
  | tooManyEntries entries limit => s!"Asset bundle has {entries} entries; the limit is {limit}"
  | encrypted entry => s!"Entry '{entry}' is encrypted"
  | inflated entry ratio limit =>
    s!"Entry '{entry}' expands {ratio.nearestNat}x; the limit is {limit}x"
  | undecodable entry _ => s!"Entry '{entry}' could not be decompressed"
  | understated entry => s!"Entry '{entry}' is larger than its header declares"

def detail : Fault → List (String × Value)
  | unreadable reason => [("reason", .text reason)]
  | tooManyEntries entries limit => [("entries", .int entries), ("limit", .int limit)]
  | encrypted entry => [("entry", .text entry)]
  | inflated entry ratio _ => [("entry", .text entry), ("ratio", .real ratio.toTenths)]
  | undecodable entry reason => [("entry", .text entry), ("reason", .text reason)]
  | understated entry => [("entry", .text entry)]

def issue (fault : Fault) : Issue := .error fault.code fault.message fault.detail

end Fault

inductive Halt where
  | refused (fault : Fault)
  | broken (breakdown : Breakdown)

structure Content where
  data : Option ByteArray
  size : Nat

/-- How many bytes tell whether an entry exceeds a limit. -/
def probe (limit : Int) : Nat := (limit + 1).toNat

/-- What a fault of a delivery comes to: an issue of the entry, unless it is of a kind that is not
expected there. -/
def halt (entry : Entry) : MemberFault → Halt
  | .farOffset => .broken .farEntry
  | .codec (.foreign reason) => .broken (.decompressor reason)
  | fault => .refused (.undecodable entry.name fault.message)

variable [Platform]

/-- Reads an entry, at most one byte past a limit. An entry cut short has at least the size that it
declares. -/
def measure (payload : ByteArray) (entry : Entry) (limit : Int) : Except Halt Content :=
  let delivery := Member.deliver payload entry (probe limit)
  let size := delivery.data.size
  match delivery.fault with
  | some fault => .error (halt entry fault)
  | none =>
    if (size : Int) ≤ limit then
      if entry.size < size then .error (.refused (.understated entry.name))
      else .ok ⟨some delivery.data, size⟩
    else .ok ⟨none, max size entry.size⟩

def isEncrypted (entry : Entry) : Bool := entry.flags.testBit 0

def declaredRatio (entry : Entry) : Binary64 :=
  .ofRatio false entry.size (max entry.compressedSize 1)

/-- Refuses an entry by its directory record alone. -/
def suspicion? (rules : RuleTables) (entry : Entry) : Option Fault :=
  if isEncrypted entry then some (.encrypted entry.name)
  else if rules.compressionCheckFloor < entry.size then
    let ratio := declaredRatio entry
    if (Number.int rules.maxCompressionRatio).less (.real ratio) then
      some (.inflated entry.name ratio rules.maxCompressionRatio)
    else none
  else none

def require {α : Type} (table : Table α) (key : String) : Except Halt α :=
  match table.get? key with
  | some value => .ok value
  | none => .error (.broken (.missingKey key))

/-- What stays the same while the entries of a bundle are taken in. -/
structure Reading where
  rules : RuleTables
  payload : ByteArray
  budget : Int
  categories : Table (Option String)

namespace Reading

def category? (reading : Reading) (path : String) : Option String :=
  (reading.categories.get? path).join

def decompresses (reading : Reading) (inventory : Inventory) (path : String) : Bool :=
  (reading.category? path).isSome && !inventory.budgetExhausted

/-- The size of an asset: measured, or as declared where its data is not read. -/
def assetSize (reading : Reading) (inventory : Inventory) (entry : Entry) : Except Halt Nat :=
  match reading.category? entry.name with
  | none => .ok entry.size
  | some category =>
    if reading.decompresses inventory entry.name then do
      let limit ← require reading.rules.assetLimits category
      let content ← measure reading.payload entry limit
      return content.size
    else .ok entry.size

def charge (reading : Reading) (inventory : Inventory) (size : Nat) : Inventory :=
  let totalSize := inventory.totalSize + size
  { inventory with
    totalSize
    budgetExhausted := inventory.budgetExhausted || reading.budget < totalSize }

/-- Takes in one entry by its role. What is not read is not held against the budget at once. -/
def takeIn (reading : Reading) (inventory : Inventory) (entry : Entry) : Except Halt Inventory :=
  match suspicion? reading.rules entry with
  | some fault => .error (.refused fault)
  | none =>
    match roleOf reading.rules entry.name with
    | .unsafePath | .stray =>
      .ok { inventory with totalSize := inventory.totalSize + entry.size }
    | .script => do
      let limit ← require reading.rules.sizeLimits "script"
      let content ← measure reading.payload entry limit
      let inventory := { inventory with script := content.data, scriptSize := content.size }
      return reading.charge inventory content.size
    | .manifest => do
      let limit ← require reading.rules.assetLimits jsonCategory
      let content ← measure reading.payload entry limit
      let inventory := { inventory with manifest := content.data, manifestSize := content.size }
      return reading.charge inventory content.size
    | .asset => do
      let size ← reading.assetSize inventory entry
      let asset : Asset :=
        ⟨entry.name, plainExtension entry.name, reading.category? entry.name, size⟩
      return reading.charge { inventory with assets := inventory.assets ++ [asset] } size

def note? (reading : Reading) (before after : Inventory) (entry : Entry) : Option String :=
  match roleOf reading.rules entry.name with
  | .unsafePath => some s!"Not reading {Role.unsafePath.name} entry {entry.name}"
  | .stray => some s!"Not reading {Role.stray.name} entry {entry.name}"
  | _ =>
    if after.budgetExhausted && !before.budgetExhausted then
      some s!"Bundle exceeded its {reading.budget} byte budget at {entry.name}"
    else none

def takeAll (reading : Reading) (inventory : Inventory) :
    List Entry → Run (Except Fault Inventory)
  | [] => .done (.ok inventory)
  | entry :: entries =>
    .check "bundle" fun _ =>
      match reading.takeIn inventory entry with
      | .error (.broken breakdown) => .broken breakdown
      | .error (.refused fault) => .done (.error fault)
      | .ok next =>
        match reading.note? inventory next entry with
        | some note => .record ⟨.debug, "bundle", note⟩ (takeAll reading next entries)
        | none => takeAll reading next entries

end Reading

/-- The first entry of each name, and the names of the others. -/
def distinct (entries : List Entry) : List Entry × List String :=
  let step := fun (state : List Entry × List String) (entry : Entry) =>
    if state.1.any fun other => other.name == entry.name then
      (state.1, entry.name :: state.2)
    else (entry :: state.1, state.2)
  let (first, others) := entries.foldl step ([], [])
  (first.reverse, others.reverse)

def isLeading (rules : RuleTables) (entry : Entry) : Bool :=
  match roleOf rules entry.name with
  | .script | .manifest => true
  | _ => false

def leadingFirst (rules : RuleTables) (entries : List Entry) : List Entry :=
  entries.filter (isLeading rules) ++ entries.filter fun entry => !isLeading rules entry

def Inventory.blank (roles : Table Role) (duplicates : List String) : Inventory where
  assets := []
  roles
  duplicates
  script := none
  scriptSize := 0
  manifest := none
  manifestSize := 0
  totalSize := 0
  budgetExhausted := false

def isDirectory (entry : Entry) : Bool := entry.name.toList.getLast? == some '/'

def inventoryOf (rules : RuleTables) (payload : ByteArray) (budget : Int)
    (entries : List Entry) : Run (Except Fault Inventory) :=
  let (entries, duplicates) := distinct entries
  let roles := entries.map fun entry => (entry.name, roleOf rules entry.name)
  let assetPaths := (roles.filter fun role => role.2 == .asset).map (·.1)
  let reading : Reading := ⟨rules, payload, budget, categories rules assetPaths⟩
  reading.takeAll (.blank roles duplicates) (leadingFirst rules entries)

/-- Reads a bundle against a budget of decompressed bytes. -/
def read (rules : RuleTables) (payload : ByteArray) (budget : Int) :
    Run (Except Fault Inventory) :=
  match Directory.read payload with
  | .error (.version needed) => .broken (.unknownVersion needed)
  | .error fault => .done (.error (.unreadable fault.message))
  | .ok entries =>
    if entries.any fun entry => entry.name.isEmpty then .broken .unnamedEntry
    else
      let files := entries.filter fun entry => !isDirectory entry
      if rules.maxEntries < files.length then
        .done (.error (.tooManyEntries files.length rules.maxEntries))
      else inventoryOf rules payload budget files

end SubmissionGate.Bundle
