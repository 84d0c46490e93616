/-!
Sets of characters as tables of inclusive ranges of code points. The tables of this library follow
version 17 of the character standard and list their ranges in increasing order.
-/

namespace Matchday.Text
set_option autoImplicit false

/-- Membership of a code point in one of the inclusive ranges. -/
def inRanges (ranges : List (Nat × Nat)) (n : Nat) : Bool :=
  ranges.any fun r => r.1 ≤ n && n ≤ r.2

end Matchday.Text
