import SubmissionGate.Script.Bracket

/-!
# Outline of a script

The tokens of a script together with the closers of its brackets, and the look-ups by token index
that the search for the game object is made of.
-/

namespace SubmissionGate.Script

structure Outline where
  tokens : Array Token
  closers : Closers

namespace Outline

def ofTokens (tokens : List Token) : Outline := ⟨tokens.toArray, Script.closers tokens⟩

def ofSource (source : List Char) : Outline := ofTokens (tokenize source)

variable (outline : Outline)

def size : Nat := outline.tokens.size

def isPunctuation (index : Nat) (text : String) : Bool :=
  (outline.tokens[index]?).any fun token => token.isPunctuation text

def isName (index : Nat) (text : String) : Bool :=
  (outline.tokens[index]?).any fun token => token.isName text

/-- The end of the body that a brace opens: its closer, or the end of the script. -/
def bodyEnd (opener : Nat) : Nat := (outline.closers.closerOf? opener).getD outline.size

def skip (index : Nat) : Nat :=
  let opens := (outline.tokens[index]?).any fun token => token.opens?.isSome
  match outline.closers.closerOf? index with
  | some closer => if opens then max (closer + 1) (index + 1) else index + 1
  | none => index + 1

theorem lt_skip (index : Nat) : index < outline.skip index := by
  unfold skip
  simp only
  repeat' split
  all_goals omega

end Outline

end SubmissionGate.Script
