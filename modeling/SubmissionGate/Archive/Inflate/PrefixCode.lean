import SubmissionGate.Archive.Inflate.Bits

/-!
# Canonical prefix codes

A prefix code given by the length of each symbol's code word: words of one length are assigned in
the order of the symbols, and shorter words come first. A code is kept as the number of words of
each length together with the symbols in the order of their words.
-/

namespace SubmissionGate.Archive.Inflate

structure PrefixCode where
  /-- How many words have length 1, 2 and so on up to the longest. -/
  counts : List Nat
  symbols : Array Nat
  deriving Repr

namespace PrefixCode

def lengthLimit : Nat := 15

def countsOf (lengths : Array Nat) : List Nat :=
  let counts := lengths.foldl (fun counts length =>
    if length = 0 then counts else counts.modify (length - 1) (· + 1))
    (Array.replicate lengthLimit 0)
  (counts.toList.reverse.dropWhile (· == 0)).reverse

def symbolsOfLength (lengths : Array Nat) (length : Nat) : List Nat :=
  (List.range lengths.size).filter fun symbol => lengths.getD symbol 0 == length

/-- The code in which each symbol has a word of the given length; length zero means none. A code
without any word still costs one bit to find out. -/
def ofLengths (lengths : Array Nat) : PrefixCode :=
  let counts := countsOf lengths
  { counts := if counts.isEmpty then [0] else counts
    symbols := ((List.range counts.length).flatMap fun length =>
      symbolsOfLength lengths (length + 1)).toArray }

/-- How many words of the longest length are still free; `none` if too many are in use. -/
def slack? (free : Nat) : List Nat → Option Nat
  | [] => some free
  | count :: counts => if 2 * free < count then none else slack? (2 * free - count) counts

def isComplete (code : PrefixCode) : Bool :=
  code.symbols.isEmpty || slack? 1 code.counts == some 0

/-- Whether the code is complete or has nothing but one word of one bit. -/
def isUsable (code : PrefixCode) : Bool :=
  code.isComplete || (code.counts.length == 1 && (slack? 1 code.counts).isSome)

/-- Looks a word up bit by bit. `word` is the word read so far followed by a zero, `first` the
first word of the length at hand and `index` the place of its symbol. -/
def lookup (code : PrefixCode) (source : Source) (position word first index : Nat) :
    List Nat → Read (Option Nat)
  | [] => .got none position
  | count :: counts =>
    match source.bit? position with
    | none => .starved
    | some bit =>
      let word := word + bit
      if word < first + count then .got code.symbols[index + (word - first)]? (position + 1)
      else code.lookup source (position + 1) (2 * word) (2 * (first + count)) (index + count) counts

def read (code : PrefixCode) (source : Source) (position : Nat) : Read (Option Nat) :=
  code.lookup source position 0 0 0 code.counts

end PrefixCode

end SubmissionGate.Archive.Inflate
