import SubmissionGate.Base64
import SubmissionGate.Text.LetterCase
import SubmissionGate.Value
import SubmissionGate.Yaml.Fault
import SubmissionGate.Yaml.Tag

/-!
# Values of scalars

What a text stands for under a type. A text that took its type from its form is nearly always fit
for it; one with a tag may be anything.
-/

namespace SubmissionGate.Yaml.Scalar

def dense (text : List Char) : List Char := text.filter (· != '_')

def lowered (text : List Char) : List Char := (Text.lowercased (String.ofList text)).toList

def bool (text : List Char) : Except Fault Bool :=
  let word := String.ofList (lowered text)
  if ["yes", "true", "on"].contains word then .ok true
  else if ["no", "false", "off"].contains word then .ok false
  else .error (.notBool word)

def digits (base : Nat) (text : List Char) : Except Fault Int :=
  (Numeral.readInt base text).mapError fun
    | .malformed => .badDigits (String.ofList text) base
    | .tooManyDigits count => .tooManyDigits count

def magnitude (body : List Char) : Except Fault Int :=
  match body with
  | [] => .error .noDigits
  | ['0'] => .ok 0
  | '0' :: 'b' :: rest => digits 2 rest
  | '0' :: 'x' :: rest => digits 16 rest
  | '0' :: _ => digits 8 body
  | _ =>
    ((Form.colonParts body).mapM (digits 10)).map fun parts =>
      parts.foldl (fun n part => 60 * n + part) 0

def int (text : List Char) : Except Fault Int :=
  let (negative, body) := Numeral.splitSign (dense text)
  (magnitude body).map fun n => if negative then -n else n

/-- Adds numbers to a sum, the first counting in the given unit and each in sixty times the unit of
the one before. A unit has to be in the range of floating-point numbers. -/
def addSixties (sum : Binary64) (unit : Nat) : List Binary64 → Except Fault Binary64
  | [] => .ok sum
  | part :: parts =>
    let factor := Binary64.ofInt unit
    if factor.isFinite then addSixties (sum.add (part.multiply factor)) (60 * unit) parts
    else .error .hugeUnit

def negated (negative : Bool) (x : Binary64) : Binary64 :=
  match x with
  | .finite sign m e => .finite (sign != negative) m e
  | .infinity sign => .infinity (sign != negative)
  | .nan => .nan

def decimal (text : List Char) : Except Fault Binary64 :=
  match Numeral.real? text with
  | some x => .ok x
  | none => .error (.notReal (String.ofList text))

def size (body : List Char) : Except Fault Binary64 :=
  if body == ".inf".toList then .ok (.infinity false)
  else if body == ".nan".toList then .ok .nan
  else match Form.colonParts body with
    | [part] => decimal part
    | parts => do addSixties .zero 1 (← parts.mapM decimal).reverse

def real (text : List Char) : Except Fault Binary64 :=
  let text := lowered (dense text)
  let (negative, body) := Numeral.splitSign text
  if text.isEmpty then .error .noDigits else (size body).map (negated negative)

def binary (text : List Char) : Except Fault (List UInt8) :=
  match Base64.decodeLenient (String.ofList text) with
  | .ok data => .ok data.toList
  | .error _ => .error .badBinary

def timestamp (text : List Char) : Except Fault Timestamp :=
  match timestamp? (Form.withoutLastBreak text) with
  | none => .error .notTimestamp
  | some timestamp =>
    match timestamp.fault? with
    | some fault => .error (.badTimestamp fault)
    | none => .ok timestamp

def value (tag : Tag) (text : List Char) : Except Fault Value :=
  match tag with
  | .null => .ok .null
  | .bool => (bool text).map .bool
  | .int => (int text).map .int
  | .real => (real text).map .real
  | .text => .ok (.text (String.ofList text))
  | .binary => (binary text).map .bytes
  | .timestamp => (timestamp text).map .timestamp
  | .list | .map | .set | .pairs => .error .wrongShape
  | .merge | .default | .unknown => .error .unknownTag

end SubmissionGate.Yaml.Scalar
