import SubmissionGate.Archive.CodePage
import SubmissionGate.Archive.Field
import SubmissionGate.Text.Quoted

/-!
# Archive directories

A zip file ends with a record that locates the central directory, which lists the entries. The
record is looked for at the very end and then, behind a comment, in the last 64 KiB. An archive may
stand behind other data, so offsets are corrected by the place where the directory is found. Each
entry also learns where the one behind it starts.
-/

namespace SubmissionGate.Archive

structure Entry where
  listedName : String
  /-- The name up to the first NUL. -/
  name : String
  flags : Nat
  method : Nat
  checksum : UInt32
  compressedSize : Nat
  size : Nat
  offset : Int
  /-- Where whatever comes behind the entry starts. -/
  bound : Int
  deriving Repr

inductive DirectoryFault where
  | notZip
  | multipleDisks
  | badOffset
  | truncated
  | badMagic
  | badName (fault : Utf8.Fault)
  | badExtra (id size : Nat)
  | missingExtra (label : String)
  | version (needed : Nat)
  deriving DecidableEq, Repr

def DirectoryFault.message : DirectoryFault → String
  | notZip => "File is not a zip file"
  | multipleDisks => "zipfiles that span multiple disks are not supported"
  | badOffset => "Bad offset for central directory"
  | truncated => "Truncated central directory"
  | badMagic => "Bad magic number for central directory"
  | badName fault => fault.message
  | badExtra id size =>
    let digits := String.ofList (Text.Quoted.hex 4 id)
    s!"Corrupt extra field {digits} (size={size})"
  | missingExtra label => s!"Corrupt zip64 extra field. {label} not found."
  | version needed => s!"zip file version {needed / 10}.{needed % 10}"

structure DirectoryPlace where
  start : Nat
  size : Nat
  /-- How far the archive is displaced from its own offsets. -/
  shift : Int
  deriving DecidableEq, Repr

namespace Directory

def endMagic : List UInt8 := [0x50, 0x4B, 5, 6]

def endWidth : Nat := 22

def wideEndMagic : List UInt8 := [0x50, 0x4B, 6, 6]

def wideEndWidth : Nat := 56

def locatorMagic : List UInt8 := [0x50, 0x4B, 6, 7]

def locatorWidth : Nat := 20

def entryMagic : List UInt8 := [0x50, 0x4B, 1, 2]

def entryWidth : Nat := 46

/-- The last offset from `offset` down to `low` at which the end record's mark stands. -/
def findEndFrom (payload : ByteArray) (low offset : Nat) : Option Nat :=
  if holdsAt payload offset endMagic then some offset
  else if low < offset then findEndFrom payload low (offset - 1) else none
termination_by offset
decreasing_by omega

def findEnd? (payload : ByteArray) : Option Nat :=
  let last := payload.size - endWidth
  if endWidth ≤ payload.size && holdsAt payload last endMagic
      && field16 payload (last + 20) == 0 then some last
  else
    match findEndFrom payload (payload.size - 65536 - endWidth) payload.size with
    | some offset => if offset + endWidth ≤ payload.size then some offset else none
    | none => none

/-- The size and offset of the directory according to the wide end record in front of the end
record, if there is one. -/
def wideEnd? (payload : ByteArray) (endOffset : Nat) :
    Except DirectoryFault (Option (Nat × Nat)) :=
  let locator := endOffset - locatorWidth
  if payload.size < locator + locatorWidth || !holdsAt payload locator locatorMagic then .ok none
  else if field32 payload (locator + 4) != 0 || 1 < field32 payload (locator + 16) then
    .error .multipleDisks
  else
    let wide := endOffset - locatorWidth - wideEndWidth
    if payload.size < wide + wideEndWidth || !holdsAt payload wide wideEndMagic then .ok none
    else .ok (some (field64 payload (wide + 40), field64 payload (wide + 48)))

def place (payload : ByteArray) : Except DirectoryFault DirectoryPlace :=
  match findEnd? payload with
  | none => .error .notZip
  | some endOffset =>
    match wideEnd? payload endOffset with
    | .error fault => .error fault
    | .ok wide =>
      let (size, offset, behind) : Nat × Nat × Nat :=
        match wide with
        | some (size, offset) => (size, offset, locatorWidth + wideEndWidth)
        | none => (field32 payload (endOffset + 12), field32 payload (endOffset + 16), 0)
      if endOffset < size + behind then .error .badOffset
      else
        let start := endOffset - behind - size
        .ok { start, size, shift := (start : Int) - offset }

/-- The sizes and offset of an entry, which an extra field may widen. -/
structure Extent where
  size : Nat
  compressedSize : Nat
  offset : Nat
  deriving DecidableEq, Repr

def wideNumber (data : ByteArray) (label : String) (position stop : Nat) :
    Except DirectoryFault (Nat × Nat) :=
  if position + 8 ≤ stop then .ok (field64 data position, position + 8)
  else .error (.missingExtra label)

/-- Replaces each number that the directory leaves open by the next one of the extra field. -/
def widen (data : ByteArray) (extent : Extent) (position stop : Nat) :
    Except DirectoryFault Extent := do
  let open32 := 0xFFFFFFFF
  let (size, position) ←
    if extent.size = 0xFFFFFFFFFFFFFFFF || extent.size = open32 then
      wideNumber data "File size" position stop
    else .ok (extent.size, position)
  let (compressedSize, position) ←
    if extent.compressedSize = open32 then wideNumber data "Compress size" position stop
    else .ok (extent.compressedSize, position)
  let (offset, _) ←
    if extent.offset = open32 then wideNumber data "Header offset" position stop
    else .ok (extent.offset, position)
  return { size, compressedSize, offset }

def readExtra (data : ByteArray) (extent : Extent) (position stop : Nat) :
    Except DirectoryFault Extent :=
  if stop < position + 4 then .ok extent
  else
    let id := field16 data position
    let size := field16 data (position + 2)
    let next := position + 4 + size
    if stop < next then .error (.badExtra id size)
    else if id = 1 then
      match widen data extent (position + 4) next with
      | .error fault => .error fault
      | .ok extent => readExtra data extent next stop
    else readExtra data extent next stop
termination_by stop - position
decreasing_by all_goals omega

def decodeName (flags : Nat) (bytes : List UInt8) : Except Utf8.Fault (List Char) :=
  if flags.testBit 11 then Utf8.decode bytes else .ok (CodePage.decode bytes)

/-- The newest version of the format that is understood, in tenths. -/
def versionLimit : Nat := 63

def readEntry (data : ByteArray) (shift : Int) (position : Nat) : Except DirectoryFault Entry :=
  if data.size < position + entryWidth then .error .truncated
  else if !holdsAt data position entryMagic then .error .badMagic
  else
    let flags := field16 data (position + 8)
    let nameStart := position + entryWidth
    let extraStart := min data.size (nameStart + field16 data (position + 28))
    let extraStop := min data.size (extraStart + field16 data (position + 30))
    match decodeName flags (data.extract nameStart extraStart).data.toList with
    | .error fault => .error (.badName fault)
    | .ok name =>
      let needed := byteAt data (position + 6)
      if versionLimit < needed then .error (.version needed)
      else
        let extent : Extent := {
          size := field32 data (position + 24)
          compressedSize := field32 data (position + 20)
          offset := field32 data (position + 42) }
        match readExtra data extent extraStart extraStop with
        | .error fault => .error fault
        | .ok extent => .ok {
            listedName := String.ofList name
            name := String.ofList (name.takeWhile (· != '\x00'))
            flags
            method := field16 data (position + 10)
            checksum := (field32 data (position + 16)).toUInt32
            compressedSize := extent.compressedSize
            size := extent.size
            offset := extent.offset + shift
            bound := 0 }

def recordWidth (data : ByteArray) (position : Nat) : Nat :=
  entryWidth + field16 data (position + 28) + field16 data (position + 30)
    + field16 data (position + 32)

def readEntries (data : ByteArray) (shift : Int) (position : Nat) :
    Except DirectoryFault (List Entry) :=
  if data.size ≤ position then .ok []
  else
    match readEntry data shift position with
    | .error fault => .error fault
    | .ok entry =>
      match readEntries data shift (position + recordWidth data position) with
      | .error fault => .error fault
      | .ok entries => .ok (entry :: entries)
termination_by data.size - position
decreasing_by
  simp only [recordWidth, entryWidth]
  omega

/-- Gives each entry of a list that falls by offset the start of the one before it as its bound. -/
def boundEntries (bound : Int) : List (Nat × Entry) → List (Nat × Entry)
  | [] => []
  | (index, entry) :: entries =>
    (index, { entry with bound }) :: boundEntries entry.offset entries

/-- Fills in where whatever comes behind each entry starts. Of entries at one offset the first
listed counts as the last in the file. -/
def withBounds (start : Nat) (entries : List Entry) : List Entry :=
  let numbered := (List.range entries.length).zip entries
  let falling := numbered.mergeSort fun a b => b.2.offset ≤ a.2.offset
  let bounded := (boundEntries start falling).mergeSort fun a b => a.1 ≤ b.1
  bounded.map (·.2)

def read (payload : ByteArray) : Except DirectoryFault (List Entry) :=
  match place payload with
  | .error fault => .error fault
  | .ok place =>
    let data := payload.extract place.start (place.start + place.size)
    match readEntries data place.shift 0 with
    | .error fault => .error fault
    | .ok entries => .ok (withBounds place.start entries)

end Directory

end SubmissionGate.Archive
