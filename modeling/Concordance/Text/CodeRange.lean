/-!
Sets of characters given as ascending lists of inclusive code point ranges.
-/

namespace Concordance.Text

/-- Membership in an ascending list of ranges; the walk stops at the first range above the code. -/
def inRanges : List (Nat × Nat) → Nat → Bool
  | [], _ => false
  | (lo, hi) :: rest, n => if n < lo then false else n ≤ hi || inRanges rest n

end Concordance.Text
