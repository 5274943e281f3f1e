import SubmissionGate.Number.Shortest

/-!
# Numbers

A number is an integer of any size or a floating-point number. Integers add and compare exactly;
an integer that meets a floating-point number is compared by value and added after rounding, which
fails for an integer that no finite floating-point number comes near.
-/

namespace SubmissionGate

inductive Number where
  | int (n : Int)
  | real (x : Binary64)
  deriving DecidableEq, Repr, Inhabited

namespace Number

def exact : Number → Binary64
  | .int n => .finite (n < 0) n.natAbs 0
  | .real x => x

def toBinary64 : Number → Binary64
  | .int n => .ofInt n
  | .real x => x

def rounded? : Number → Option Binary64
  | .int n =>
    let x := Binary64.ofInt n
    if x.isFinite then some x else none
  | .real x => some x

def less (a b : Number) : Bool := a.exact.less b.exact

def same (a b : Number) : Bool := a.exact.same b.exact

def isZero (a : Number) : Bool := a.exact.isZero

/-- The sum, unless an integer is out of range for the rounding that it takes. -/
def add? : Number → Number → Option Number
  | .int m, .int n => some (.int (m + n))
  | a, b => do return .real ((← a.rounded?).add (← b.rounded?))

def text : Number → String
  | .int n => toString n
  | .real x => x.text

def general (a : Number) : String := a.toBinary64.general

end Number

end SubmissionGate
