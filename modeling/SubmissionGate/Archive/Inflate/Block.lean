import SubmissionGate.Archive.Inflate.PrefixCode

/-!
# Compressed blocks

The header of a block says how its data is coded: stored as it is, with the fixed codes, or with
codes that the header spells out. The data of a coded block are symbols, each a literal byte, a
copy of earlier output or the end of the block.
-/

namespace SubmissionGate.Archive.Inflate

structure Codes where
  literals : PrefixCode
  distances : PrefixCode

inductive BlockKind where
  | stored (length : Nat)
  | coded (codes : Codes)

structure BlockHeader where
  last : Bool
  kind : BlockKind

inductive Symbol where
  | literal (byte : UInt8)
  | copy (length distance : Nat)
  | endOfBlock

def fixedLiteralLengths : Array Nat :=
  Array.replicate 144 8 ++ Array.replicate 112 9 ++ Array.replicate 24 7 ++ Array.replicate 8 8

def fixedCodes : Codes :=
  ⟨.ofLengths fixedLiteralLengths, .ofLengths (Array.replicate 32 5)⟩

def lengthSymbols : Array (Nat × Nat) :=
  #[(3, 0), (4, 0), (5, 0), (6, 0), (7, 0), (8, 0), (9, 0), (10, 0), (11, 1), (13, 1), (15, 1),
    (17, 1), (19, 2), (23, 2), (27, 2), (31, 2), (35, 3), (43, 3), (51, 3), (59, 3), (67, 4),
    (83, 4), (99, 4), (115, 4), (131, 5), (163, 5), (195, 5), (227, 5), (258, 0)]

def distanceSymbols : Array (Nat × Nat) :=
  #[(1, 0), (2, 0), (3, 0), (4, 0), (5, 1), (7, 1), (9, 2), (13, 2), (17, 3), (25, 3), (33, 4),
    (49, 4), (65, 5), (97, 5), (129, 6), (193, 6), (257, 7), (385, 7), (513, 8), (769, 8),
    (1025, 9), (1537, 9), (2049, 10), (3073, 10), (4097, 11), (6145, 11), (8193, 12), (12289, 12),
    (16385, 13), (24577, 13)]

def extended (symbols : Array (Nat × Nat)) (source : Source) (symbol : Option Nat)
    (position : Nat) : Read Nat :=
  match symbol.bind fun symbol => symbols[symbol]? with
  | none => .corrupt
  | some (base, width) =>
    (source.bits position width).next fun extra position => .got (base + extra) position

def Codes.read (codes : Codes) (source : Source) (position : Nat) : Read Symbol :=
  (codes.literals.read source position).next fun symbol position =>
    match symbol with
    | none => .corrupt
    | some symbol =>
      if symbol < 256 then .got (.literal symbol.toUInt8) position
      else if symbol = 256 then .got .endOfBlock position
      else
        (extended lengthSymbols source (some (symbol - 257)) position).next fun length position =>
          (codes.distances.read source position).next fun symbol position =>
            (extended distanceSymbols source symbol position).next fun distance position =>
              .got (.copy length distance) position

/-- The order in which a header lists the lengths of the code of lengths. -/
def lengthOrder : List Nat := [16, 17, 18, 0, 8, 7, 9, 6, 10, 5, 11, 4, 12, 3, 13, 2, 14, 1, 15]

def readLengthCode (source : Source) (lengths : Array Nat) (position : Nat) :
    List Nat → Read (Array Nat)
  | [] => .got lengths position
  | symbol :: symbols =>
    (source.bits position 3).next fun length position =>
      readLengthCode source (lengths.setIfInBounds symbol length) position symbols

def appendRun (total : Nat) (lengths : Array Nat) (length count position : Nat) :
    Read (Array Nat) :=
  if total < lengths.size + count then .corrupt
  else .got (lengths ++ Array.replicate count length) position

/-- One item of the list of lengths: a length, a repetition of the last one or a run of zeros. -/
def readLengthItem (code : PrefixCode) (source : Source) (total : Nat) (lengths : Array Nat)
    (position : Nat) : Read (Array Nat) :=
  (code.read source position).next fun symbol position =>
    match symbol.getD 0 with
    | 16 => (source.bits position 2).next fun extra position =>
        match lengths.back? with
        | none => .corrupt
        | some length => appendRun total lengths length (3 + extra) position
    | 17 => (source.bits position 3).next fun extra position =>
        appendRun total lengths 0 (3 + extra) position
    | 18 => (source.bits position 7).next fun extra position =>
        appendRun total lengths 0 (11 + extra) position
    | length => .got (lengths.push length) position

/-- Reads items until `total` lengths are there; every item gives at least one. -/
def readLengths (code : PrefixCode) (source : Source) (total : Nat) (lengths : Array Nat)
    (position : Nat) : Nat → Read (Array Nat)
  | 0 => .got lengths position
  | items + 1 =>
    if total ≤ lengths.size then .got lengths position
    else (readLengthItem code source total lengths position).next fun lengths position =>
      readLengths code source total lengths position items

def readCodes (source : Source) (position : Nat) : Read Codes :=
  (source.bits position 14).next fun counts position =>
    let literalCount := counts % 32 + 257
    let distanceCount := counts / 32 % 32 + 1
    let listed := counts / 1024 + 4
    if 286 < literalCount || 30 < distanceCount then .corrupt
    else
      let order := lengthOrder.take listed
      (readLengthCode source (Array.replicate 19 0) position order).next fun lengths position =>
        let code := PrefixCode.ofLengths lengths
        if !code.isComplete then .corrupt
        else
          let total := literalCount + distanceCount
          (readLengths code source total #[] position total).next fun lengths position =>
            let literals := PrefixCode.ofLengths (lengths.extract 0 literalCount)
            let distances := PrefixCode.ofLengths (lengths.extract literalCount total)
            if lengths.getD 256 0 == 0 || !literals.isUsable || !distances.isUsable then .corrupt
            else .got ⟨literals, distances⟩ position

/-- The length of a stored block, given twice, the second time with all bits flipped. -/
def readStoredLength (source : Source) (position : Nat) : Read Nat :=
  (source.bits (alignedUp position) 32).next fun lengths position =>
    let length := lengths % 65536
    if length + lengths / 65536 = 65535 then .got length position else .corrupt

def readHeader (source : Source) (position : Nat) : Read BlockHeader :=
  (source.bits position 3).next fun bits position =>
    let last := bits % 2 == 1
    match bits / 2 with
    | 0 => (readStoredLength source position).next fun length position =>
        .got ⟨last, .stored length⟩ position
    | 1 => .got ⟨last, .coded fixedCodes⟩ position
    | 2 => (readCodes source position).next fun codes position =>
        .got ⟨last, .coded codes⟩ position
    | _ => .corrupt

end SubmissionGate.Archive.Inflate
