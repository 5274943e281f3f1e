import SubmissionGate.Number.Binary64

/-!
# The decimal text of a floating-point number

The shortest digits are the fewest that read back as the same number, and of those the nearest.
`general` gives a fixed count of significant digits instead. Both are laid out positionally for
moderate powers of ten and with an exponent of at least two digits otherwise.
-/

namespace SubmissionGate.Binary64

/-- A positive decimal: its digits and the power of ten of the first of them. -/
structure Decimal where
  digits : Nat
  power : Int
  deriving DecidableEq, Repr

def leadingPower (numerator denominator : Nat) : Int :=
  let guess : Int :=
    ((Nat.repr numerator).length : Int) - (Nat.repr denominator).length
  let atLeast := fun (p : Int) =>
    if 0 ≤ p then denominator * Nat.pow 10 p.toNat ≤ numerator
    else denominator ≤ numerator * Nat.pow 10 (-p).toNat
  if atLeast guess then guess else guess - 1

def shifted (numerator denominator : Nat) (power : Int) : Nat × Nat :=
  if 0 ≤ power then (numerator * Nat.pow 10 power.toNat, denominator)
  else (numerator, denominator * Nat.pow 10 (-power).toNat)

/-- The candidate with `count` digits that reads back, if one of the two neighbours does. The
quotients `low` and `high` bound what reads back, inclusively iff `closed`. -/
def candidate (value low high : Nat × Nat) (closed : Bool) (power : Int) (count : Nat) :
    Option Nat :=
  let shift : Int := count - 1 - power
  let (n, d) := shifted value.1 value.2 shift
  let (ln, ld) := shifted low.1 low.2 shift
  let (hn, hd) := shifted high.1 high.2 shift
  let reads := fun (q : Nat) =>
    if closed then ln ≤ q * ld && q * hd ≤ hn else ln < q * ld && q * hd < hn
  let below := n / d
  let above := below + 1
  let nearer := divideEven n d
  let farther := if nearer == below then above else below
  if reads nearer then some nearer else if reads farther then some farther else none

/-- The first digit count from `count` on, within `fuel` more, that has a candidate. -/
def firstCandidate (value low high : Nat × Nat) (closed : Bool) (power : Int) (count : Nat) :
    Nat → Nat × Nat
  | 0 => (divideEven value.1 value.2, count)
  | fuel + 1 =>
    match candidate value low high closed power count with
    | some digits => (digits, count)
    | none => firstCandidate value low high closed power (count + 1) fuel

def withoutTrailingZeros (digits : Nat) : Nat → Nat
  | 0 => digits
  | fuel + 1 =>
    if digits != 0 && digits % 10 == 0 then withoutTrailingZeros (digits / 10) fuel else digits

def shortest (significand : Nat) (exponent : Int) : Decimal :=
  let value := scaled significand 1 exponent
  let lower :=
    if significand == Nat.pow 2 52 && exponent > leastExponent then
      scaled (4 * significand - 1) 1 (exponent - 2)
    else scaled (2 * significand - 1) 1 (exponent - 1)
  let upper := scaled (2 * significand + 1) 1 (exponent - 1)
  let power := leadingPower value.1 value.2
  let (digits, count) := firstCandidate value lower upper (significand % 2 == 0) power 1 17
  let carried := (Nat.repr digits).length > count
  ⟨withoutTrailingZeros digits 20, if carried then power + 1 else power⟩

structure Layout where
  leastPositional : Int
  greatestPositional : Int
  markIntegral : Bool

def exactLayout : Layout := ⟨-4, 15, true⟩

def generalLayout : Layout := ⟨-4, 5, false⟩

def zeros (n : Nat) : String := String.ofList (List.replicate n '0')

def Layout.render (layout : Layout) (decimal : Decimal) : String :=
  let digits := Nat.repr decimal.digits
  let power := decimal.power
  if layout.leastPositional ≤ power && power ≤ layout.greatestPositional then
    if power < 0 then "0." ++ zeros (-power - 1).toNat ++ digits
    else
      let whole := power.toNat + 1
      if digits.length ≤ whole then
        digits ++ zeros (whole - digits.length) ++ (if layout.markIntegral then ".0" else "")
      else
        String.ofList (digits.toList.take whole) ++ "." ++ String.ofList (digits.toList.drop whole)
  else
    let mantissa :=
      match digits.toList with
      | first :: second :: rest => String.ofList (first :: '.' :: second :: rest)
      | _ => digits
    let size := Nat.repr power.natAbs
    mantissa ++ "e" ++ (if power < 0 then "-" else "+")
      ++ (if size.length < 2 then "0" ++ size else size)

def sign (negative : Bool) : String := if negative then "-" else ""

def text : Binary64 → String
  | .nan => "nan"
  | .infinity negative => sign negative ++ "inf"
  | .finite negative significand exponent =>
    if significand == 0 then sign negative ++ "0.0"
    else sign negative ++ exactLayout.render (shortest significand exponent)

def sixDigits (numerator denominator : Nat) : Decimal :=
  let power := leadingPower numerator denominator
  let (n, d) := shifted numerator denominator (5 - power)
  let digits := divideEven n d
  let power := if digits == Nat.pow 10 6 then power + 1 else power
  ⟨withoutTrailingZeros digits 7, power⟩

def general : Binary64 → String
  | .nan => "nan"
  | .infinity negative => sign negative ++ "inf"
  | .finite negative significand exponent =>
    if significand == 0 then sign negative ++ "0"
    else
      let (n, d) := scaled significand 1 exponent
      sign negative ++ generalLayout.render (sixDigits n d)

/-- The nearest integer of a number that is not negative, a half to the even one. -/
def nearestNat : Binary64 → Nat
  | .finite _ significand exponent =>
    let (n, d) := scaled significand 1 exponent
    divideEven n d
  | _ => 0

def toTenths : Binary64 → Binary64
  | .finite negative significand exponent =>
    let (n, d) := scaled significand 1 exponent
    ofRatio negative (divideEven (10 * n) d) 10
  | x => x

end SubmissionGate.Binary64
