/-!
# Binary fields

Little-endian numbers at an offset of a byte string. Bytes behind the end count as zero; the
readers of records check the length first.
-/

namespace SubmissionGate.Archive

def byteAt (data : ByteArray) (offset : Nat) : Nat :=
  if h : offset < data.size then data[offset].toNat else 0

/-- The number in `width` bytes, the lowest byte first. -/
def field (data : ByteArray) (offset : Nat) : Nat → Nat
  | 0 => 0
  | width + 1 => byteAt data offset + 256 * field data (offset + 1) width

def field16 (data : ByteArray) (offset : Nat) : Nat := field data offset 2

def field32 (data : ByteArray) (offset : Nat) : Nat := field data offset 4

def field64 (data : ByteArray) (offset : Nat) : Nat := field data offset 8

def holdsAt (data : ByteArray) (offset : Nat) (bytes : List UInt8) : Bool :=
  (data.extract offset (offset + bytes.length)).data.toList == bytes

end SubmissionGate.Archive
