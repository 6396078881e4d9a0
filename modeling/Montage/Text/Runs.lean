/-! # Runs of numbers

A set of numbers may be listed by its runs: where each one starts, and the number after its end.
-/

namespace Montage.Text

/-- Whether a number lies in one of the runs with given bounds, which are listed in ascending order. A
last run without an end goes on for ever. -/
def inRuns : List Nat → Nat → Bool
  | first :: after :: rest, n => first ≤ n && (n < after || inRuns rest n)
  | [first], n => first ≤ n
  | [], _ => false

end Montage.Text
