/-!
# Base64

Encoding of bytes, strict decoding and lenient decoding. To the strict one only the alphabet and
padding at the end are allowed, and each way to go wrong has its own message.
-/

namespace SubmissionGate.Base64

def alphabet : Array Char :=
  "ABCDEFGHIJKLMNOPQRSTUVWXYZabcdefghijklmnopqrstuvwxyz0123456789+/".toList.toArray

def sextet? (c : Char) : Option Nat :=
  if 'A' ≤ c && c ≤ 'Z' then some (c.toNat - 65)
  else if 'a' ≤ c && c ≤ 'z' then some (c.toNat - 71)
  else if '0' ≤ c && c ≤ '9' then some (c.toNat + 4)
  else if c == '+' then some 62
  else if c == '/' then some 63
  else none

inductive Fault where
  | notAscii
  | leadingPadding
  | strayCharacter
  | splitPadding
  | excessData
  | loneCharacter (count : Nat)
  | missingPadding
  deriving DecidableEq, Repr

structure Group where
  filled : Nat
  /-- The bits that do not make up a byte yet. -/
  left : Nat
  pads : Nat
  padded : Bool

def Group.take (group : Group) (bits : Nat) (bytes : ByteArray) : Group × ByteArray :=
  match group.filled with
  | 0 => (⟨1, bits, 0, false⟩, bytes)
  | 1 => (⟨2, bits % 16, 0, false⟩, bytes.push (UInt8.ofNat (group.left * 4 + bits / 16)))
  | 2 => (⟨3, bits % 4, 0, false⟩, bytes.push (UInt8.ofNat (group.left * 16 + bits / 4)))
  | _ => (⟨0, 0, 0, false⟩, bytes.push (UInt8.ofNat (group.left * 64 + bits)))

def decodeFrom (group : Group) (bytes : ByteArray) : List Char → Except Fault ByteArray
  | [] =>
    if group.filled == 0 then .ok bytes
    else if group.filled == 1 then .error (.loneCharacter (bytes.size / 3 * 4 + 1))
    else .error .missingPadding
  | c :: rest =>
    if c == '=' then
      let pads := group.pads + 1
      if 2 ≤ group.filled && 4 ≤ group.filled + pads then
        if rest.isEmpty then .ok bytes else .error .excessData
      else
        let pads := if 2 ≤ group.filled then pads else group.pads
        decodeFrom { group with pads, padded := true } bytes rest
    else match sextet? c with
      | none => .error .strayCharacter
      | some bits =>
        if group.padded then .error .splitPadding
        else
          let (group, bytes) := group.take bits bytes
          decodeFrom group bytes rest

/-- Decodes leniently: what is no data does not count, and padding that completes a group ends the
data. -/
def decodeLenientFrom (group : Group) (bytes : ByteArray) : List Char → Except Fault ByteArray
  | [] => decodeFrom group bytes []
  | c :: rest =>
    if c == '=' then
      if 2 ≤ group.filled && 4 ≤ group.filled + group.pads + 1 then .ok bytes
      else
        let pads := if 2 ≤ group.filled then group.pads + 1 else group.pads
        decodeLenientFrom { group with pads } bytes rest
    else match sextet? c with
      | none => decodeLenientFrom group bytes rest
      | some bits =>
        let (group, bytes) := group.take bits bytes
        decodeLenientFrom group bytes rest

def decodeLenient (text : String) : Except Fault ByteArray :=
  let chars := text.toList
  if chars.any fun c => 128 ≤ c.toNat then .error .notAscii
  else decodeLenientFrom ⟨0, 0, 0, false⟩ ByteArray.empty chars

def decode (text : String) : Except Fault ByteArray :=
  let chars := text.toList
  if chars.any fun c => 128 ≤ c.toNat then .error .notAscii
  else if chars.head? == some '=' then .error .leadingPadding
  else decodeFrom ⟨0, 0, 0, false⟩ ByteArray.empty chars

def symbol (bits : Nat) : Char := (alphabet[bits % 64]?).getD '='

def encodeBytes : List UInt8 → List Char → List Char
  | a :: b :: c :: rest, out =>
    let n := a.toNat * 65536 + b.toNat * 256 + c.toNat
    encodeBytes rest
      (symbol n :: symbol (n / 64) :: symbol (n / 4096) :: symbol (n / 262144) :: out)
  | [a, b], out =>
    let n := a.toNat * 256 + b.toNat
    ('=' :: symbol (n * 4) :: symbol (n / 16) :: symbol (n / 1024) :: out).reverse
  | [a], out =>
    let n := a.toNat
    ('=' :: '=' :: symbol (n * 16) :: symbol (n / 4) :: out).reverse
  | [], out => out.reverse

def encode (bytes : ByteArray) : String := String.ofList (encodeBytes bytes.toList [])

def Fault.message : Fault → String
  | .notAscii => "string argument should contain only ASCII characters"
  | .leadingPadding => "Leading padding not allowed"
  | .strayCharacter => "Only base64 data is allowed"
  | .splitPadding => "Discontinuous padding not allowed"
  | .excessData => "Excess data after padding"
  | .loneCharacter count =>
    s!"Invalid base64-encoded string: number of data characters ({count}) cannot be 1 more than " ++
      "a multiple of 4"
  | .missingPadding => "Incorrect padding"

end SubmissionGate.Base64
