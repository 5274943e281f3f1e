/-!
# Calendar

Days of the calendar and moments of the day, checked field by field. A moment may say how far its
clock is from universal time; two moments that do so agree if they are the same instant.
-/

namespace SubmissionGate

structure Day where
  year : Nat
  month : Nat
  day : Nat
  deriving DecidableEq, Repr

structure TimeOfDay where
  hour : Nat
  minute : Nat
  second : Nat
  micros : Nat
  deriving DecidableEq, Repr

/-- A day, or a moment of it with the distance of its clock from universal time in minutes. -/
inductive Timestamp where
  | date (day : Day)
  | moment (day : Day) (time : TimeOfDay) (offset : Option Int)
  deriving DecidableEq, Repr

namespace Calendar

inductive Fault where
  | year (year : Nat)
  | month
  | day
  | hour
  | minute
  | second
  | offset (minutes : Int)
  deriving DecidableEq, Repr

def padded (width n : Nat) : String :=
  let digits := toString n
  String.ofList (List.replicate (width - digits.length) '0') ++ digits

def isLeapYear (year : Nat) : Bool := year % 4 == 0 && (year % 100 != 0 || year % 400 == 0)

def monthLengths (year : Nat) : List Nat :=
  [31, if isLeapYear year then 29 else 28, 31, 30, 31, 30, 31, 31, 30, 31, 30, 31]

def daysIn (year month : Nat) : Nat := (monthLengths year).getD (month - 1) 0

def minutesPerDay : Nat := 24 * 60

end Calendar

open Calendar

namespace Day

def fault? (day : Day) : Option Fault :=
  if day.year == 0 then some (.year day.year)
  else if day.month == 0 || 12 < day.month then some .month
  else if day.day == 0 || daysIn day.year day.month < day.day then some .day
  else none

def ordinal (day : Day) : Nat :=
  let years := day.year - 1
  365 * years + years / 4 - years / 100 + years / 400
    + ((monthLengths day.year).take (day.month - 1)).foldr (· + ·) 0 + day.day

def text (day : Day) : String :=
  padded 4 day.year ++ "-" ++ padded 2 day.month ++ "-" ++ padded 2 day.day

end Day

namespace TimeOfDay

def fault? (time : TimeOfDay) : Option Fault :=
  if 24 ≤ time.hour then some .hour
  else if 60 ≤ time.minute then some .minute
  else if 60 ≤ time.second then some .second
  else none

def text (time : TimeOfDay) : String :=
  padded 2 time.hour ++ ":" ++ padded 2 time.minute ++ ":" ++ padded 2 time.second
    ++ if time.micros == 0 then "" else "." ++ padded 6 time.micros

end TimeOfDay

namespace Calendar

def offsetFault? (offset : Int) : Option Fault :=
  if minutesPerDay ≤ offset.natAbs then some (.offset offset) else none

def offsetText (offset : Int) : String :=
  let minutes := offset.natAbs
  (if offset < 0 then "-" else "+") ++ padded 2 (minutes / 60) ++ ":" ++ padded 2 (minutes % 60)

end Calendar

namespace Timestamp

def fault? : Timestamp → Option Fault
  | date day => day.fault?
  | moment day time offset =>
    (offset.bind offsetFault?).or (day.fault?.or time.fault?)

def instant (day : Day) (time : TimeOfDay) (offset : Int) : Int :=
  let minutes : Int := minutesPerDay * day.ordinal + 60 * time.hour + time.minute - offset
  (60 * minutes + time.second) * 1000000 + time.micros

/-- Whether two timestamps are the same day, the same reading of a clock or the same instant. -/
def same : Timestamp → Timestamp → Bool
  | date a, date b => a == b
  | moment a s none, moment b t none => a == b && s == t
  | moment a s (some o), moment b t (some p) => instant a s o == instant b t p
  | _, _ => false

def text : Timestamp → String
  | date day => day.text
  | moment day time offset => day.text ++ " " ++ time.text ++ (offset.map offsetText).getD ""

end Timestamp

end SubmissionGate
