import SubmissionGate.Rules.BrowserApi

/-!
# Use of browser capabilities

Tokens are looked for as plain substrings of a script without blanks, so one inside a longer
identifier counts too.
-/

namespace SubmissionGate.Script

open SubmissionGate.Rules

def occurs (needle : List Char) : List Char → Bool
  | [] => needle.isEmpty
  | c :: rest => needle.isPrefixOf (c :: rest) || occurs needle rest

/-- How often a text occurs without overlaps, counting on from `count`; `skip` characters still
belong to the previous occurrence. -/
def countFrom (needle : List Char) (skip count : Nat) : List Char → Nat
  | [] => count
  | c :: rest =>
    match skip with
    | skip + 1 => countFrom needle skip count rest
    | 0 =>
      if needle.isPrefixOf (c :: rest) then countFrom needle (needle.length - 1) (count + 1) rest
      else countFrom needle 0 count rest

def occurrences (needle text : List Char) : Nat :=
  if needle.isEmpty then 0 else countFrom needle 0 0 text

def forbiddenUses (compact : List Char) (rules : List ForbiddenToken) : List ForbiddenToken :=
  let step := fun (hits : List ForbiddenToken) (rule : ForbiddenToken) =>
    let needle := rule.needle
    if needle.isEmpty || hits.any (·.needle == needle) then hits
    else if occurs needle compact then rule :: hits
    else hits
  (rules.foldl step []).reverse

def advisoryUses (compact : List Char) (rules : List AdvisoryToken) : List (AdvisoryToken × Nat) :=
  rules.filterMap fun rule =>
    let count := occurrences rule.needle compact
    if count == 0 then none else some (rule, count)

end SubmissionGate.Script
