import SubmissionGate.Script.Segment
import SubmissionGate.Text.DecimalDigit

/-!
# Tokens of a script

The code of a script is split into names, numbers and punctuation; strings and regular expressions
are one token each. A template is one token too, for its text up to the first interpolation, and
nothing inside an interpolation becomes a token. A token knows its position in the script.
-/

namespace SubmissionGate.Script

open SubmissionGate.Text

inductive TokenKind where
  | name
  | punctuation
  | string
  | other
  deriving DecidableEq, Repr

structure Token where
  kind : TokenKind
  text : String
  start : Nat
  deriving DecidableEq, Repr

def Token.isPunctuation (token : Token) (text : String) : Bool :=
  token.kind == .punctuation && token.text == text

def Token.isName (token : Token) (text : String) : Bool :=
  token.kind == .name && token.text == text

def startsName (c : Char) : Bool := isIdentifierChar c && !isDecimalDigit c

def continuesNumber (c : Char) : Bool := isWordChar c || c == '.'

def punctuationLength : List Char → Nat
  | '=' :: '>' :: _ => 2
  | '=' :: '=' :: '=' :: _ => 3
  | '!' :: '=' :: '=' :: _ => 3
  | '=' :: '=' :: _ => 2
  | '!' :: '=' :: _ => 2
  | '<' :: '=' :: _ => 2
  | '>' :: '=' :: _ => 2
  | '.' :: '.' :: '.' :: _ => 3
  | _ => 1

def lexeme (c : Char) (rest : List Char) : Option TokenKind × Nat :=
  if isSpace c then (none, 1 + (rest.takeWhile isSpace).length)
  else if startsName c then (some .name, 1 + (rest.takeWhile isIdentifierChar).length)
  else if isDecimalDigit c then (some .other, 1 + (rest.takeWhile continuesNumber).length)
  else (some .punctuation, punctuationLength (c :: rest))

theorem lexeme_pos (c : Char) (rest : List Char) : 0 < (lexeme c rest).2 := by
  unfold lexeme
  repeat' split
  all_goals try (simp only; omega)
  unfold punctuationLength
  split <;> simp

def codeTokens (offset : Nat) (code : List Char) (found : List Token) : List Token :=
  match code with
  | [] => found
  | c :: rest =>
    let size := (lexeme c rest).2
    let left := (c :: rest).drop size
    match (lexeme c rest).1 with
    | none => codeTokens (offset + size) left found
    | some kind =>
      let text := String.ofList ((c :: rest).take size)
      codeTokens (offset + size) left (⟨kind, text, offset⟩ :: found)
termination_by code.length
decreasing_by all_goals
  have := lexeme_pos c rest
  simp only [List.length_drop, List.length_cons]
  omega

def Segment.tokens (segment : Segment) (offset : Nat) (found : List Token) : List Token :=
  if segment.nested then found
  else
    let whole := fun kind => (⟨kind, String.ofList segment.text, offset⟩ : Token) :: found
    match segment.kind with
    | .lineComment => found
    | .blockComment => found
    | .code => codeTokens offset segment.text found
    | .string => whole .string
    | .template => if segment.text.head? == some '`' then whole .string else found
    | .regex => whole .other

def tokensFrom (offset : Nat) : List Segment → List Token → List Token
  | [], found => found.reverse
  | segment :: rest, found =>
    tokensFrom (offset + segment.text.length) rest (segment.tokens offset found)

def tokenize (source : List Char) : List Token := tokensFrom 0 (scan source) []

end SubmissionGate.Script
