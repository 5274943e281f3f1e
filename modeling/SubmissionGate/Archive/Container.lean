/-!
# Container signatures

A payload that starts like an archive is never taken for text. Zip files are bundles; the other
containers are only recognised in order to be refused by name.
-/

namespace SubmissionGate.Archive

inductive Container where
  | zip
  | gzip
  | bzip2
  | xz
  | sevenZip
  | rar
  | tar
  deriving DecidableEq, Repr

namespace Container

def name : Container → String
  | zip => "zip"
  | gzip => "gzip"
  | bzip2 => "bzip2"
  | xz => "xz"
  | sevenZip => "7z"
  | rar => "rar"
  | tar => "tar"

/-- The byte strings with which a payload of each container starts, in order of precedence. -/
def signatures : List (List UInt8 × Container) :=
  [([0x50, 0x4B, 3, 4], zip), ([0x50, 0x4B, 5, 6], zip), ([0x50, 0x4B, 7, 8], zip),
    ([0x1F, 0x8B], gzip), ([0x42, 0x5A, 0x68], bzip2),
    ([0xFD, 0x37, 0x7A, 0x58, 0x5A, 0], xz), ([0x37, 0x7A, 0xBC, 0xAF, 0x27, 0x1C], sevenZip),
    ([0x52, 0x61, 0x72, 0x21, 0x1A, 7], rar)]

def signatureWidth : Nat := 6

def tapeMarkOffset : Nat := 257

def tapeMark : List UInt8 := [0x75, 0x73, 0x74, 0x61, 0x72]

def sniff? (payload : ByteArray) : Option Container :=
  let start := (payload.extract 0 signatureWidth).data.toList
  match signatures.find? fun signature => signature.1.isPrefixOf start with
  | some (_, container) => some container
  | none =>
    let mark := payload.extract tapeMarkOffset (tapeMarkOffset + tapeMark.length)
    if mark.data.toList = tapeMark then some tar else none

end Container

end SubmissionGate.Archive
