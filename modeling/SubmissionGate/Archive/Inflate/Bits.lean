import SubmissionGate.Archive.Field

/-!
# Bit streams

Compressed data is a stream of bits, each byte giving its lowest bit first. Only a part of the
stream may have been fetched; reading past that part starves. Readers carry the position along and
start again from where they began once more data is there.
-/

namespace SubmissionGate.Archive.Inflate

structure Source where
  bytes : ByteArray
  stop : Nat

inductive Read (α : Type) where
  | got (value : α) (position : Nat)
  | starved
  | corrupt

namespace Source

def bit? (source : Source) (position : Nat) : Option Nat :=
  if position / 8 < source.stop then
    some (byteAt source.bytes (position / 8) >>> (position % 8) % 2)
  else none

def bits (source : Source) (position : Nat) : Nat → Read Nat
  | 0 => .got 0 position
  | width + 1 =>
    match source.bit? position with
    | none => .starved
    | some low =>
      match source.bits (position + 1) width with
      | .got high position => .got (low + 2 * high) position
      | .starved => .starved
      | .corrupt => .corrupt

def ahead (source : Source) (position : Nat) : Nat := 8 * source.stop - position

end Source

def Read.next {α β : Type} (read : Read α) (use : α → Nat → Read β) : Read β :=
  match read with
  | .got value position => use value position
  | .starved => .starved
  | .corrupt => .corrupt

def alignedUp (position : Nat) : Nat := (position + 7) / 8 * 8

end SubmissionGate.Archive.Inflate
