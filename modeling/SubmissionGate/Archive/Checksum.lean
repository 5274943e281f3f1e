/-!
# Cyclic redundancy checksums

The 32-bit checksum by which an archive pins the content of an entry, with the reflected polynomial
`EDB88320`. The running form takes up the data in pieces.
-/

namespace SubmissionGate.Archive.Checksum

def polynomial : UInt32 := 0xEDB88320

def shift (remainder : UInt32) : Nat → UInt32
  | 0 => remainder
  | bits + 1 =>
    let half := remainder >>> 1
    shift (if remainder &&& 1 == 1 then half ^^^ polynomial else half) bits

def table : Array UInt32 := (Array.range 256).map fun byte => shift byte.toUInt32 8

def step (remainder : UInt32) (byte : UInt8) : UInt32 :=
  let index := (remainder ^^^ byte.toUInt32) &&& 0xFF
  table.getD index.toNat 0 ^^^ (remainder >>> 8)

def update (checksum : UInt32) (data : ByteArray) : UInt32 :=
  data.foldl step (checksum ^^^ 0xFFFFFFFF) ^^^ 0xFFFFFFFF

def empty : UInt32 := 0

end SubmissionGate.Archive.Checksum
