import SubmissionGate.Archive.Inflate.Block

/-!
# Decompression

A decompressor takes compressed data piece by piece and gives at most a wanted number of bytes at a
time. It decodes ahead until it needs a byte that has not been fetched or room that it was not
given, so a flaw right behind the wanted bytes shows at once.
-/

namespace SubmissionGate.Archive

open Inflate

inductive Inflate.Phase where
  | header
  | stored (length : Nat)
  | coded (codes : Codes)
  | literal (codes : Codes) (byte : UInt8)
  /-- A copy of earlier output that has been read but not written to its end. -/
  | copy (codes : Codes) (length distance : Nat)
  | finished

inductive Inflate.Pause where
  | full
  | starved
  | finished
  | corrupt
  deriving DecidableEq, Repr

structure Inflater where
  position : Nat
  last : Bool
  phase : Inflate.Phase
  output : ByteArray

namespace Inflater

def start (offset : Nat) : Inflater := ⟨8 * offset, false, .header, ByteArray.empty⟩

def writeCopy (output : ByteArray) (distance : Nat) : Nat → ByteArray
  | 0 => output
  | count + 1 =>
    writeCopy (output.push (byteAt output (output.size - distance)).toUInt8) distance count

/-- Takes steps until the decompressor has to pause. `room` bounds the bytes that it may still
write, and each step writes a byte, reads a bit or only follows one that did. -/
def run (source : Source) (inflater : Inflater) (room : Nat) : Nat → Inflater × Pause
  | 0 => (inflater, .starved)
  | steps + 1 =>
    match inflater with
    | ⟨position, last, phase, output⟩ =>
      match phase with
      | .finished => (⟨position, last, .finished, output⟩, .finished)
      | .header =>
        if last then run source ⟨alignedUp position, last, .finished, output⟩ room steps
        else
          match readHeader source position with
          | .starved => (⟨position, last, .header, output⟩, .starved)
          | .corrupt => (⟨position, last, .header, output⟩, .corrupt)
          | .got ⟨last, .stored length⟩ position =>
            run source ⟨position, last, .stored length, output⟩ room steps
          | .got ⟨last, .coded codes⟩ position =>
            run source ⟨position, last, .coded codes, output⟩ room steps
      | .stored length =>
        if length = 0 then run source ⟨position, last, .header, output⟩ room steps
        else if room = 0 then (⟨position, last, .stored length, output⟩, .full)
        else
          let offset := position / 8
          let count := min (min length room) (source.stop - offset)
          if count = 0 then (⟨position, last, .stored length, output⟩, .starved)
          else
            let output := output ++ source.bytes.extract offset (offset + count)
            run source ⟨position + 8 * count, last, .stored (length - count), output⟩
              (room - count) steps
      | .coded codes =>
        match codes.read source position with
        | .starved => (⟨position, last, .coded codes, output⟩, .starved)
        | .corrupt => (⟨position, last, .coded codes, output⟩, .corrupt)
        | .got (.literal byte) position =>
          run source ⟨position, last, .literal codes byte, output⟩ room steps
        | .got (.copy length distance) position =>
          run source ⟨position, last, .copy codes length distance, output⟩ room steps
        | .got .endOfBlock position =>
          run source ⟨position, last, .header, output⟩ room steps
      | .literal codes byte =>
        if room = 0 then (⟨position, last, .literal codes byte, output⟩, .full)
        else run source ⟨position, last, .coded codes, output.push byte⟩ (room - 1) steps
      | .copy codes length distance =>
        if room = 0 then (⟨position, last, .copy codes length distance, output⟩, .full)
        else if output.size < distance then
          (⟨position, last, .copy codes length distance, output⟩, .corrupt)
        else
          let count := min length room
          let output := writeCopy output distance count
          if count < length then
            (⟨position, last, .copy codes (length - count) distance, output⟩, .full)
          else run source ⟨position, last, .coded codes, output⟩ (room - count) steps

def advance (inflater : Inflater) (source : Source) (room : Nat) : Inflater × Pause :=
  run source inflater room (2 * source.ahead inflater.position + 2 * room + 4)

/-- How many fetched bytes a decompressor that pauses for lack of room has not touched. -/
def untouched (inflater : Inflater) (source : Source) : Nat :=
  source.stop - (inflater.position + 7) / 8

end Inflater

end SubmissionGate.Archive
