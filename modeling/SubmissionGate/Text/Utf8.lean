/-!
# UTF-8

Decoding well-formed UTF-8 and locating the first fault otherwise. A fault names the offset of the
ill-formed sequence and how many of its bytes belong together. A leading byte-order mark is the
business of `decodeMarked`, which counts offsets from behind the mark.
-/

namespace SubmissionGate.Utf8

inductive Flaw where
  | badStart
  | badContinuation
  | truncated
  deriving DecidableEq, Repr

structure Fault where
  offset : Nat
  length : Nat
  lead : UInt8
  flaw : Flaw
  deriving DecidableEq, Repr

def isContinuation (byte : UInt8) : Bool := 0x80 ≤ byte && byte < 0xC0

def tailBits (byte : UInt8) : Nat := byte.toNat % 64

/-- Whether a byte may follow a given lead byte; rules out overlong forms and surrogates. -/
def isSecond (lead byte : UInt8) : Bool :=
  isContinuation byte &&
    (if lead == 0xE0 then 0xA0 ≤ byte
     else if lead == 0xED then byte < 0xA0
     else if lead == 0xF0 then 0x90 ≤ byte
     else if lead == 0xF4 then byte < 0x90
     else true)

/-- The first character of a byte string, or how many bytes its first fault spans. -/
def readChar (lead : UInt8) (rest : List UInt8) : Except (Nat × Flaw) (Char × List UInt8) :=
  if lead < 0x80 then .ok (Char.ofNat lead.toNat, rest)
  else if lead < 0xC2 then .error (1, .badStart)
  else if lead < 0xE0 then
    match rest with
    | [] => .error (1, .truncated)
    | second :: rest =>
      if isSecond lead second then
        .ok (Char.ofNat (lead.toNat % 32 * 64 + tailBits second), rest)
      else .error (1, .badContinuation)
  else if lead < 0xF0 then
    match rest with
    | [] => .error (1, .truncated)
    | second :: rest =>
      if !isSecond lead second then .error (1, .badContinuation)
      else match rest with
        | [] => .error (2, .truncated)
        | third :: rest =>
          if !isContinuation third then .error (2, .badContinuation)
          else
            let point := (lead.toNat % 16 * 64 + tailBits second) * 64 + tailBits third
            .ok (Char.ofNat point, rest)
  else if lead < 0xF5 then
    match rest with
    | [] => .error (1, .truncated)
    | second :: rest =>
      if !isSecond lead second then .error (1, .badContinuation)
      else match rest with
        | [] => .error (2, .truncated)
        | third :: rest =>
          if !isContinuation third then .error (2, .badContinuation)
          else match rest with
            | [] => .error (3, .truncated)
            | fourth :: rest =>
              if !isContinuation fourth then .error (3, .badContinuation)
              else
                let point := ((lead.toNat % 8 * 64 + tailBits second) * 64 + tailBits third) * 64
                  + tailBits fourth
                .ok (Char.ofNat point, rest)
  else .error (1, .badStart)

theorem readChar_length {lead : UInt8} {rest left : List UInt8} {c : Char}
    (h : readChar lead rest = .ok (c, left)) : left.length ≤ rest.length := by
  unfold readChar at h
  repeat' split at h
  all_goals simp_all
  all_goals omega

/-- Decodes from the given offset, with the characters read so far in reverse. -/
def decodeFrom (offset : Nat) (bytes : List UInt8) (read : List Char) :
    Except Fault (List Char) :=
  match bytes with
  | [] => .ok read.reverse
  | lead :: rest =>
    match h : readChar lead rest with
    | .error (length, flaw) => .error { offset, length, lead, flaw }
    | .ok (c, left) =>
      have := readChar_length h
      decodeFrom (offset + c.utf8Size) left (c :: read)
termination_by bytes.length

def decode (bytes : List UInt8) : Except Fault (List Char) := decodeFrom 0 bytes []

def mark : List UInt8 := [0xEF, 0xBB, 0xBF]

def decodeMarked (bytes : List UInt8) : Except Fault (List Char) :=
  if mark.isPrefixOf bytes then decode (bytes.drop mark.length) else decode bytes

def Flaw.message : Flaw → String
  | .badStart => "invalid start byte"
  | .badContinuation => "invalid continuation byte"
  | .truncated => "unexpected end of data"

def hexByte (byte : UInt8) : String :=
  let digit := fun (n : Nat) => (Nat.digitChar n).toString
  digit (byte.toNat / 16) ++ digit (byte.toNat % 16)

def Fault.message (fault : Fault) : String :=
  let place :=
    if fault.length == 1 then s!"byte 0x{hexByte fault.lead} in position {fault.offset}"
    else s!"bytes in position {fault.offset}-{fault.offset + fault.length - 1}"
  s!"'utf-8' codec can't decode {place}: {fault.flaw.message}"

end SubmissionGate.Utf8
