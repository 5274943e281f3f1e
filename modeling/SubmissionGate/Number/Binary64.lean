/-!
# Binary floating-point numbers

A finite number is a signed significand times a power of two; zero has two signs. Every operation
is exact arithmetic on naturals followed by one rounding to the nearest number with 53 bits, a half
going to the even neighbour.
-/

namespace SubmissionGate

inductive Binary64 where
  | finite (negative : Bool) (significand : Nat) (exponent : Int)
  | infinity (negative : Bool)
  | nan
  deriving DecidableEq, Repr, Inhabited

namespace Binary64

/-- The quotient rounded to the nearest natural, a half to the even one. -/
def divideEven (numerator denominator : Nat) : Nat :=
  let quotient := numerator / denominator
  let twice := 2 * (numerator % denominator)
  if twice > denominator || (twice == denominator && quotient % 2 == 1) then quotient + 1
  else quotient

/-- A natural scaled by a power of two of either sign, as a numerator and a denominator. -/
def scaled (numerator denominator : Nat) (shift : Int) : Nat × Nat :=
  if 0 ≤ shift then (numerator * Nat.pow 2 shift.toNat, denominator)
  else (numerator, denominator * Nat.pow 2 (-shift).toNat)

def leastExponent : Int := -1074

def greatestExponent : Int := 971

def ofRatio (negative : Bool) (numerator denominator : Nat) : Binary64 :=
  if numerator == 0 then .finite negative 0 leastExponent
  else
    let guess : Int := (Nat.log2 numerator : Int) - Nat.log2 denominator - 52
    let floorAt := fun (e : Int) =>
      let (n, d) := scaled numerator denominator (-e)
      n / d
    let fitted := if floorAt guess < Nat.pow 2 52 then guess - 1 else guess
    let exponent := max fitted leastExponent
    let (n, d) := scaled numerator denominator (-exponent)
    let rounded := divideEven n d
    let (significand, exponent) :=
      if rounded == Nat.pow 2 53 then (Nat.pow 2 52, exponent + 1) else (rounded, exponent)
    if exponent > greatestExponent then .infinity negative
    else .finite negative significand exponent

def ofDyadic (negative : Bool) (significand : Nat) (exponent : Int) : Binary64 :=
  let (n, d) := scaled significand 1 exponent
  ofRatio negative n d

def ofInt (n : Int) : Binary64 := ofRatio (n < 0) n.natAbs 1

def ofDecimal (negative : Bool) (digits : Nat) (power : Int) : Binary64 :=
  if digits == 0 then .finite negative 0 leastExponent
  else
    let top : Int := power + (Nat.repr digits).length
    if top > 310 then .infinity negative
    else if top < -330 then .finite negative 0 leastExponent
    else if 0 ≤ power then ofRatio negative (digits * Nat.pow 10 power.toNat) 1
    else ofRatio negative digits (Nat.pow 10 (-power).toNat)

def zero : Binary64 := .finite false 0 leastExponent

def isFinite : Binary64 → Bool
  | .finite .. => true
  | _ => false

def signed (negative : Bool) (magnitude : Nat) : Int :=
  if negative then -(magnitude : Int) else magnitude

/-- Two finite numbers as integers over one common power of two. -/
def aligned (m n : Int) (e f : Int) : Int × Int × Int :=
  let least := min e f
  (m * Int.pow 2 (e - least).toNat, n * Int.pow 2 (f - least).toNat, least)

/-- The order of the extended reals; nothing compares with `nan`. -/
def less : Binary64 → Binary64 → Bool
  | .nan, _ => false
  | _, .nan => false
  | .infinity a, .infinity b => a && !b
  | .infinity a, .finite .. => a
  | .finite .., .infinity b => !b
  | .finite a m e, .finite b n f =>
    let (x, y, _) := aligned (signed a m) (signed b n) e f
    x < y

/-- Equality as numbers: the two zeros agree and `nan` differs from itself. -/
def same : Binary64 → Binary64 → Bool
  | .nan, _ => false
  | _, .nan => false
  | .infinity a, .infinity b => a == b
  | .finite a m e, .finite b n f =>
    let (x, y, _) := aligned (signed a m) (signed b n) e f
    x == y
  | _, _ => false

def isZero : Binary64 → Bool
  | .finite _ m _ => m == 0
  | _ => false

def add : Binary64 → Binary64 → Binary64
  | .nan, _ => .nan
  | _, .nan => .nan
  | .infinity a, .infinity b => if a == b then .infinity a else .nan
  | .infinity a, .finite .. => .infinity a
  | .finite .., .infinity b => .infinity b
  | .finite a m e, .finite b n f =>
    let (x, y, least) := aligned (signed a m) (signed b n) e f
    let sum := x + y
    if sum == 0 then .finite (a && b) 0 leastExponent
    else ofDyadic (sum < 0) sum.natAbs least

def multiply : Binary64 → Binary64 → Binary64
  | .nan, _ => .nan
  | _, .nan => .nan
  | .infinity a, .infinity b => .infinity (a != b)
  | .infinity a, .finite b n _ => if n == 0 then .nan else .infinity (a != b)
  | .finite a m _, .infinity b => if m == 0 then .nan else .infinity (a != b)
  | .finite a m e, .finite b n f => ofDyadic (a != b) (m * n) (e + f)

end Binary64

end SubmissionGate
