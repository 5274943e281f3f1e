/-!
# Platforms

What a validation takes from the platform that it runs on. Archives may be compressed by methods
whose decompressors are no part of the gate, and how deep a text may nest hangs on the calls that
are open while it is read or written. Nothing is assumed of either.
-/

namespace SubmissionGate

namespace Archive

/-- Why a decompressor gives up: for a flaw of the kinds that readers of archives expect, or for one
of a kind that they do not know. -/
inductive CodecFault where
  | expected (reason : String)
  | foreign (reason : String)
  deriving DecidableEq, Repr

def CodecFault.reason : CodecFault → String
  | expected reason => reason
  | foreign reason => reason

/-- A decompressor as its answer to the last of the pieces of data that it was fed: the bytes that
it gives for it, and whether the compressed data is at its end. -/
abbrev Codec := List ByteArray → Except CodecFault (ByteArray × Bool)

/-- The decompressor of a method that is not supported. -/
def Codec.absent : Codec := fun _ => .error (.expected "That compression method is not supported")

end Archive

class Platform where
  bzip2 : Archive.Codec
  lzma : Archive.Codec
  /-- How many containers of a document may be open at once. -/
  nesting : Nat
  /-- How many values may stand inside each other where a field of the metadata is written out. -/
  room : String → Nat

/-- A platform without further decompressors, on which a call is made with few others open. -/
@[reducible]
def Platform.bare : Platform where
  bzip2 := .absent
  lzma := .absent
  nesting := 900
  room := fun _ => 900

end SubmissionGate
