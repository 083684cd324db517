/-!
Sets of characters as ascending lists of code point ranges, both ends included.
-/

namespace Stencil.Text

abbrev Ranges := List (Nat × Nat)

/-- Stops at the first range that starts above `n`, which is enough when the ranges ascend. -/
def Ranges.has : Ranges → Nat → Bool
  | [], _ => false
  | (low, high) :: rest, n => if n < low then false else n ≤ high || has rest n

end Stencil.Text
