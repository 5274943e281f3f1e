import SubmissionGate.Number
import SubmissionGate.Text.DecimalDigit
import SubmissionGate.Text.Space

/-!
# Reading numerals

Numerals of users are read leniently: blanks around them, digits of any script and underscores
between digits are allowed. An integer has at most `digitLimit` digits.
-/

namespace SubmissionGate.Numeral

def digitLimit : Nat := 4300

def limitText : String := s!"Exceeds the limit ({digitLimit} digits) for integer string conversion"

def adviceText : String := "; use sys.set_int_max_str_digits() to increase the limit"

def excessMessage (count : Nat) : String :=
  s!"{limitText}: value has {count} digits{adviceText}"

def isWritable (n : Int) : Bool := n.natAbs < Nat.pow 10 digitLimit

def unwritableMessage : String := limitText ++ adviceText

def plain? (c : Char) : Option Char :=
  if c.toNat < 127 then some c
  else if Text.isSpace c then some ' '
  else (Text.decimalValue? c).map fun value => Char.ofNat (48 + value)

def isPadding (c : Char) : Bool := c == ' ' || (9 ≤ c.toNat && c.toNat ≤ 13)

def normalize? (text : List Char) : Option (List Char) :=
  (text.mapM plain?).map fun chars =>
    ((chars.dropWhile isPadding).reverse.dropWhile isPadding).reverse

def splitSign : List Char → Bool × List Char
  | '-' :: rest => (true, rest)
  | '+' :: rest => (false, rest)
  | rest => (false, rest)

/-- Removes underscores, each of which has to stand between two digits. -/
def withoutUnderscores? (text : List Char) : Option (List Char) :=
  loop false text []
where
  loop (afterDigit : Bool) : List Char → List Char → Option (List Char)
    | [], kept => some kept.reverse
    | '_' :: rest, kept =>
      match rest with
      | next :: _ => if afterDigit && next.isDigit then loop false rest kept else none
      | [] => none
    | c :: rest, kept => loop c.isDigit rest (c :: kept)

def ofDigits (digits : List Char) : Nat :=
  digits.foldl (fun n c => 10 * n + (c.toNat - 48)) 0

def digits? (text : List Char) : Option Nat :=
  if !text.isEmpty && text.all Char.isDigit then some (ofDigits text) else none

def digitValue? (c : Char) : Option Nat :=
  if c.isDigit then some (c.toNat - '0'.toNat)
  else if c.isAlpha then some (c.toLower.toNat - 'a'.toNat + 10)
  else none

def isDigitIn (base : Nat) (c : Char) : Bool := (digitValue? c).any (· < base)

def ofDigitsIn (base : Nat) (digits : List Char) : Nat :=
  digits.foldl (fun n c => base * n + (digitValue? c).getD 0) 0

def baseLetter? (base : Nat) : Option Char :=
  if base == 2 then some 'b'
  else if base == 8 then some 'o'
  else if base == 16 then some 'x'
  else none

def withoutBaseMark (base : Nat) (text : List Char) : List Char :=
  match text with
  | '0' :: letter :: rest => if baseLetter? base == some letter.toLower then rest else text
  | _ => text

inductive Fault where
  | malformed
  | tooManyDigits (count : Nat)
  deriving DecidableEq, Repr

/-- Reads an integer without underscores in a base. Only decimal digits are limited in number, and
they are counted before anything behind them is looked at. -/
def readInt (base : Nat) (text : List Char) : Except Fault Int :=
  let chars := (text.map fun c => (plain? c).getD '?').dropWhile isPadding
  let (negative, body) := splitSign chars
  let body := withoutBaseMark base body
  let digits := body.takeWhile (isDigitIn base)
  if base == 10 && digitLimit < digits.length then .error (.tooManyDigits digits.length)
  else if digits.isEmpty || !(body.drop digits.length).all isPadding then .error .malformed
  else .ok (Binary64.signed negative (ofDigitsIn base digits))

def int? (text : List Char) : Option Int := do
  let chars ← normalize? text
  let (negative, body) := splitSign chars
  let digits ← withoutUnderscores? body
  let n ← digits? digits
  if digits.length > digitLimit then none
  else some (Binary64.signed negative n)

def exponent? : List Char → Option Int
  | [] => some 0
  | mark :: rest =>
    if mark == 'e' || mark == 'E' then
      let (negative, digits) := splitSign rest
      (digits? digits).map (Binary64.signed negative)
    else none

def decimal? (negative : Bool) (text : List Char) : Option Binary64 := do
  let whole := text.takeWhile Char.isDigit
  let rest := text.dropWhile Char.isDigit
  let (fraction, rest) := match rest with
    | '.' :: rest => (rest.takeWhile Char.isDigit, rest.dropWhile Char.isDigit)
    | rest => ([], rest)
  if whole.isEmpty && fraction.isEmpty then none
  else
    let power ← exponent? rest
    some (.ofDecimal negative (ofDigits (whole ++ fraction)) (power - fraction.length))

def real? (text : List Char) : Option Binary64 := do
  let chars ← withoutUnderscores? (← normalize? text)
  let (negative, body) := splitSign chars
  let name := String.ofList (body.map Char.toLower)
  if name == "inf" || name == "infinity" then some (.infinity negative)
  else if name == "nan" then some .nan
  else decimal? negative body

end SubmissionGate.Numeral
