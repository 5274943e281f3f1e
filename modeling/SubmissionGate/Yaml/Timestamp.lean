import SubmissionGate.Calendar
import SubmissionGate.Number.Numeral

/-!
# Timestamps in scalars

A scalar of the form `2024-05-17` is a day, and one with a time of day behind it a moment. One digit
will do for the month and for the day, except in a day that stands alone and has no tag. Whether the
calendar knows the timestamp is not asked here.
-/

namespace SubmissionGate.Yaml

/-- The number in as many digits as stand at the front, if their count is in a range. -/
def digitsAtFront? (least most : Nat) (text : List Char) : Option (Nat × List Char) :=
  let digits := (text.take most).takeWhile Char.isDigit
  if digits.length < least then none
  else some (Numeral.ofDigits digits, text.drop digits.length)

def behind? (accepts : Char → Bool) : List Char → Option (List Char)
  | c :: rest => if accepts c then some rest else none
  | [] => none

def isBlank (c : Char) : Bool := c == ' ' || c == '\t'

/-- The distance from universal time at the end of a moment: none, a `Z`, or signed hours that
minutes may follow. -/
def offset? (text : List Char) : Option (Option Int) :=
  match text with
  | [] => some none
  | ['Z'] => some (some 0)
  | sign :: rest => do
    if sign != '+' && sign != '-' then none
    let (hours, rest) ← digitsAtFront? 1 2 rest
    let (minutes, rest) ← match rest with
      | ':' :: rest => digitsAtFront? 2 2 rest
      | rest => some (0, rest)
    if rest.isEmpty then some (some (Binary64.signed (sign == '-') (60 * hours + minutes)))
    else none

/-- The microseconds that the digits of a fraction stand for; what is finer is cut off. -/
def microsOf (fraction : List Char) : Nat :=
  Numeral.ofDigits ((fraction ++ List.replicate 6 '0').take 6)

def timeOfDay? (text : List Char) : Option (TimeOfDay × Option Int) := do
  let rest ←
    if text.head?.any isBlank then some (text.dropWhile isBlank)
    else behind? (fun c => c == 'T' || c == 't') text
  let (hour, rest) ← digitsAtFront? 1 2 rest
  let (minute, rest) ← digitsAtFront? 2 2 (← behind? (· == ':') rest)
  let (second, rest) ← digitsAtFront? 2 2 (← behind? (· == ':') rest)
  let (fraction, rest) := match rest with
    | '.' :: rest => (rest.takeWhile Char.isDigit, rest.dropWhile Char.isDigit)
    | rest => ([], rest)
  let clock := rest.dropWhile isBlank
  if clock.isEmpty && !rest.isEmpty then none
  let offset ← offset? clock
  return (⟨hour, minute, second, microsOf fraction⟩, offset)

def timestamp? (text : List Char) : Option Timestamp := do
  let (year, rest) ← digitsAtFront? 4 4 text
  let (month, rest) ← digitsAtFront? 1 2 (← behind? (· == '-') rest)
  let (day, rest) ← digitsAtFront? 1 2 (← behind? (· == '-') rest)
  if rest.isEmpty then return .date ⟨year, month, day⟩
  else
    let (time, offset) ← timeOfDay? rest
    return .moment ⟨year, month, day⟩ time offset

/-- How long a day is that stands alone and has no tag. -/
def dayLength : Nat := "2024-05-17".length

def isTimestamp (text : List Char) : Bool :=
  match timestamp? text with
  | none => false
  | some (.date _) => text.length == dayLength
  | some (.moment ..) => true

end SubmissionGate.Yaml
