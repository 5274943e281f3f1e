import SubmissionGate.Script.Token

/-!
# Matching brackets

Every opening bracket token is paired with the closer of its kind that follows. A closer first
drops the openers of other kinds that are still open; a closer without an opener pairs with none.
-/

namespace SubmissionGate.Script

inductive BracketKind where
  | round
  | square
  | curly
  deriving DecidableEq, Repr

def Token.opens? (token : Token) : Option BracketKind :=
  if token.kind != .punctuation then none
  else if token.text == "(" then some .round
  else if token.text == "[" then some .square
  else if token.text == "\x7b" then some .curly
  else none

def Token.closes? (token : Token) : Option BracketKind :=
  if token.kind != .punctuation then none
  else if token.text == ")" then some .round
  else if token.text == "]" then some .square
  else if token.text == "\x7d" then some .curly
  else none

/-- The open brackets, the innermost first, each with its token index. -/
abbrev OpenBrackets := List (Nat × BracketKind)

/-- Reads on from a token index; answers the pairs in the order of their closers, reversed. -/
def pairsFrom (index : Nat) (stack : OpenBrackets) (pairs : List (Nat × Nat)) :
    List Token → List (Nat × Nat)
  | [] => pairs
  | token :: rest =>
    match token.opens? with
    | some kind => pairsFrom (index + 1) ((index, kind) :: stack) pairs rest
    | none =>
      match token.closes? with
      | none => pairsFrom (index + 1) stack pairs rest
      | some kind =>
        match stack.dropWhile fun entry => entry.2 != kind with
        | [] => pairsFrom (index + 1) [] pairs rest
        | (opener, _) :: outer => pairsFrom (index + 1) outer ((opener, index) :: pairs) rest

def bracketPairs (tokens : List Token) : List (Nat × Nat) := (pairsFrom 0 [] [] tokens).reverse

abbrev Closers := Array (Option Nat)

def closers (tokens : List Token) : Closers :=
  (bracketPairs tokens).foldl (fun table pair => table.setIfInBounds pair.1 (some pair.2))
    (Array.replicate tokens.length none)

def Closers.closerOf? (table : Closers) (opener : Nat) : Option Nat := (table[opener]?).join

def Closers.toPairs (table : Closers) : List (Nat × Nat) :=
  table.toList.zipIdx.filterMap fun (closer, opener) => closer.map fun closer => (opener, closer)

end SubmissionGate.Script
