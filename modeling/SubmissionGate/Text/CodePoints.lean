/-!
# Sets of code points

A set of code points is an array of disjoint ranges in ascending order. Membership is a binary
search, so the large Unicode properties stay cheap to test.
-/

namespace SubmissionGate.Text

/-- Inclusive ranges of code points, disjoint and ascending. -/
abbrev CodePoints := Array (Nat × Nat)

def CodePoints.search (ranges : CodePoints) (point low high : Nat) : Bool :=
  if _h : low < high then
    let middle := (low + high) / 2
    match ranges[middle]? with
    | none => false
    | some (first, last) =>
      if point < first then ranges.search point low middle
      else if last < point then ranges.search point (middle + 1) high
      else true
  else false
termination_by high - low
decreasing_by all_goals omega

def CodePoints.holds (ranges : CodePoints) (point : Nat) : Bool :=
  ranges.search point 0 ranges.size

end SubmissionGate.Text
