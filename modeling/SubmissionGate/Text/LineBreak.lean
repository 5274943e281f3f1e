/-!
# Line breaks

Texts from files may end their lines in three ways; read as text they end in line feeds alone.
-/

namespace SubmissionGate.Text

def unifyBreaks : List Char → List Char
  | [] => []
  | '\r' :: '\n' :: rest => '\n' :: unifyBreaks rest
  | '\r' :: rest => '\n' :: unifyBreaks rest
  | c :: rest => c :: unifyBreaks rest

end SubmissionGate.Text
