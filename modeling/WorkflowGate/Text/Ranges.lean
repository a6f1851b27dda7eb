/-
# Sets of code points given by ranges

A property of Unicode is a table of ranges in ascending order.  `covers_iff` says that looking a
number up is membership in one of the ranges.
-/
import WorkflowGate.Text.Basic

namespace WorkflowGate

/-- Closed ranges of numbers, first and last of each. -/
abbrev Ranges := List (Nat × Nat)

namespace Ranges

/-- Does one of the ranges hold the number? -/
def covers (rs : Ranges) (n : Nat) : Bool := rs.any fun r => r.1 ≤ n && n ≤ r.2

/-- A number is covered exactly when it lies within one of the ranges. -/
theorem covers_iff (rs : Ranges) (n : Nat) : rs.covers n = true ↔ ∃ r ∈ rs, r.1 ≤ n ∧ n ≤ r.2 := by
  simp [covers]

end Ranges

end WorkflowGate
