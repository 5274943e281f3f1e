import SubmissionGate.Archive.Checksum
import SubmissionGate.Archive.Directory
import SubmissionGate.Archive.Inflate
import SubmissionGate.Platform

/-!
# Archive members

Opening an entry and reading its content. The local header has to agree with the directory, and the
content has to end before whatever comes behind it. A read gives no more bytes than it is asked
for and never more in total than the directory declares; once the declared or the compressed data
is used up, the checksum of what was given is tested. Stored and deflated content is decoded here,
that of two further methods by the platform. `Member.deliver` reads up to one byte past a limit and
keeps what came before a fault.
-/

namespace SubmissionGate.Archive

open Inflate

inductive MemberFault where
  | negativeOffset (offset : Int)
  | farOffset
  | truncatedHeader
  | badMagic
  | patched
  | strongEncryption
  | badName (fault : Utf8.Fault)
  | otherName (listed : String) (found : List UInt8)
  | overlap (listed : String)
  | unsupportedMethod
  | missingData
  | badData
  | codec (fault : CodecFault)
  | badChecksum (name : String)
  deriving DecidableEq, Repr

def MemberFault.message : MemberFault → String
  | negativeOffset offset => s!"negative seek value {offset}"
  | farOffset => "local header out of reach"
  | truncatedHeader => "Truncated file header"
  | badMagic => "Bad magic number for file header"
  | patched => "compressed patched data (flag bit 5)"
  | strongEncryption => "strong encryption (flag bit 6)"
  | badName fault => fault.message
  | otherName listed found =>
    let inDirectory := Text.Quoted.text listed
    let inHeader := Text.Quoted.bytes found
    s!"File name in directory {inDirectory} and header {inHeader} differ."
  | overlap listed =>
    let name := Text.Quoted.text listed
    s!"Overlapped entries: {name} (possible zip bomb)"
  | unsupportedMethod => "That compression method is not supported"
  | missingData => ""
  | badData => "Error -3 while decompressing data"
  | codec fault => fault.reason
  | badChecksum name =>
    let name := Text.Quoted.text name
    s!"Bad CRC-32 for file {name}"

inductive Coding where
  | stored
  /-- Compressed, with the decompressor and how many fetched bytes it has not touched. -/
  | deflated (inflater : Inflater) (untouched : Nat)
  /-- Compressed by a method of the platform, with the pieces that its decompressor was fed. -/
  | further (codec : Codec) (fed : List ByteArray)

structure Member where
  payload : ByteArray
  name : String
  checksum : UInt32
  position : Nat
  compressedLeft : Nat
  coding : Coding
  /-- How many of the declared bytes have not been decoded. -/
  left : Nat
  running : UInt32
  ended : Bool
  /-- Decoded bytes that have not been given out. -/
  pending : ByteArray

namespace Member

def headerMagic : List UInt8 := [0x50, 0x4B, 3, 4]

def headerWidth : Nat := 30

/-- The least number of compressed bytes that are fetched, and of decoded bytes that are made room
for, at a time. -/
def leastPiece : Nat := 4096

/-- How the content of an entry is coded that begins at a position. -/
def codingAt? [Platform] (entry : Entry) (position : Nat) : Option Coding :=
  match entry.method with
  | 0 => some .stored
  | 8 => some (.deflated (.start position) 0)
  | 12 => some (.further Platform.bzip2 [])
  | 14 => some (.further Platform.lzma [])
  | _ => none

def openAt [Platform] (payload : ByteArray) (entry : Entry) (start : Nat) :
    Except MemberFault Member :=
  if payload.size < start + headerWidth then .error .truncatedHeader
  else if !holdsAt payload start headerMagic then .error .badMagic
  else
    let nameStart := start + headerWidth
    let nameStop := min payload.size (nameStart + field16 payload (start + 26))
    let position := min payload.size (nameStop + field16 payload (start + 28))
    let found := (payload.extract nameStart nameStop).data.toList
    if entry.flags.testBit 5 then .error .patched
    else if entry.flags.testBit 6 then .error .strongEncryption
    else
      match Directory.decodeName (field16 payload (start + 6)) found with
      | .error fault => .error (.badName fault)
      | .ok name =>
        if String.ofList name != entry.listedName then .error (.otherName entry.listedName found)
        else if entry.bound < position + entry.compressedSize then
          .error (.overlap entry.listedName)
        else
          match codingAt? entry position with
          | none => .error .unsupportedMethod
          | some coding => .ok {
              payload
              name := entry.name
              checksum := entry.checksum
              position
              compressedLeft := entry.compressedSize
              coding
              left := entry.size
              running := Checksum.empty
              ended := false
              pending := ByteArray.empty }

def positionLimit : Int := Int.pow 2 63

def ofEntry [Platform] (payload : ByteArray) (entry : Entry) : Except MemberFault Member :=
  if entry.offset < -positionLimit || positionLimit ≤ entry.offset then .error .farOffset
  else if entry.offset < 0 then .error (.negativeOffset entry.offset)
  else openAt payload entry entry.offset.toNat

/-- Fetches compressed bytes, at least `leastPiece` of them while there are as many. Gives the
number fetched. -/
def fetch (member : Member) (wanted : Nat) : Except MemberFault (Nat × Member) :=
  if member.compressedLeft = 0 then .ok (0, member)
  else
    let piece := min (max wanted leastPiece) member.compressedLeft
    let count := min piece (member.payload.size - member.position)
    if count = 0 then .error .missingData
    else .ok (count, { member with
      position := member.position + count
      compressedLeft := member.compressedLeft - count })

/-- Takes decoded bytes over, as many as are still declared, and tests the checksum at the end. -/
def accept (member : Member) (decoded : ByteArray) : Except MemberFault (ByteArray × Member) :=
  let data := decoded.extract 0 member.left
  let left := member.left - data.size
  let ended := member.ended || left == 0
  let running := Checksum.update member.running data
  if ended && running != member.checksum then .error (.badChecksum member.name)
  else .ok (data, { member with left, ended, running })

/-- Room for whatever the bits of a byte that was fetched last can still mean. -/
def flushRoom : Nat := 4096

/-- Decodes the bytes fetched, for at least `wanted` bytes. At the end of the compressed data it
also decodes what the last byte still holds, up to a flaw. -/
def decode (member : Member) (inflater : Inflater) (wanted : Nat) :
    Except MemberFault (ByteArray × Member) :=
  let before := inflater.output.size
  let source : Source := ⟨member.payload, member.position⟩
  match inflater.advance source (max wanted leastPiece) with
  | (_, .corrupt) => .error .badData
  | (inflater, pause) =>
    let untouched := if pause = .full then inflater.untouched source else 0
    let ended := pause = .finished || (member.compressedLeft = 0 && untouched = 0)
    let inflater := if ended then (inflater.advance source flushRoom).1 else inflater
    let decoded := inflater.output.extract before inflater.output.size
    accept { member with coding := .deflated inflater untouched, ended } decoded

/-- Feeds the bytes fetched last to the decompressor of the platform. -/
def feed (member : Member) (codec : Codec) (fed : List ByteArray) (count : Nat) :
    Except MemberFault (ByteArray × Member) :=
  let fed := fed ++ [member.payload.extract (member.position - count) member.position]
  match codec fed with
  | .error fault => .error (.codec fault)
  | .ok (decoded, finished) =>
    let ended := finished || member.compressedLeft == 0
    accept { member with coding := .further codec fed, ended } decoded

def readPiece (member : Member) (wanted : Nat) : Except MemberFault (ByteArray × Member) :=
  match member.coding with
  | .stored =>
    match member.fetch wanted with
    | .error fault => .error fault
    | .ok (count, member) =>
      let data := member.payload.extract (member.position - count) member.position
      accept { member with ended := member.compressedLeft == 0 } data
  | .deflated inflater untouched =>
    let fetched :=
      if untouched < wanted then member.fetch (wanted - untouched) else .ok (0, member)
    match fetched with
    | .error fault => .error fault
    | .ok (_, member) => decode { member with coding := .stored } inflater wanted
  | .further codec fed =>
    match member.fetch wanted with
    | .error fault => .error fault
    | .ok (count, member) => member.feed codec fed count

/-- Reads pieces until `wanted` bytes are there or the entry ends. Each piece fetches a byte, gives
a byte or ends the entry, so their number is bounded. -/
def readPieces (member : Member) (wanted : Nat) (given : ByteArray) :
    Nat → Except MemberFault (ByteArray × Member)
  | 0 => .ok (given, member)
  | pieces + 1 =>
    if wanted = 0 || member.ended then .ok (given, member)
    else
      match member.readPiece wanted with
      | .error fault => .error fault
      | .ok (data, member) =>
        if wanted < data.size then
          .ok (given ++ data.extract 0 wanted,
            { member with pending := data.extract wanted data.size })
        else readPieces member (wanted - data.size) (given ++ data) pieces

def read (member : Member) (wanted : Nat) : Except MemberFault (ByteArray × Member) :=
  let pending := member.pending
  if wanted < pending.size then
    .ok (pending.extract 0 wanted, { member with pending := pending.extract wanted pending.size })
  else
    readPieces { member with pending := ByteArray.empty } (wanted - pending.size) pending
      (wanted + member.compressedLeft + 1)

structure Delivery where
  data : ByteArray
  fault : Option MemberFault

def chunkSize : Nat := 65536

def deliverChunks (member : Member) (wanted : Nat) (data : ByteArray) : Nat → Delivery
  | 0 => ⟨data, none⟩
  | chunks + 1 =>
    if wanted = 0 then ⟨data, none⟩
    else
      match member.read (min chunkSize wanted) with
      | .error fault => ⟨data, some fault⟩
      | .ok (chunk, member) =>
        if chunk.isEmpty then ⟨data, none⟩
        else deliverChunks member (wanted - chunk.size) (data ++ chunk) chunks

def deliver [Platform] (payload : ByteArray) (entry : Entry) (wanted : Nat) : Delivery :=
  match ofEntry payload entry with
  | .error fault => ⟨ByteArray.empty, some fault⟩
  | .ok member => deliverChunks member wanted ByteArray.empty wanted

end Member

end SubmissionGate.Archive
