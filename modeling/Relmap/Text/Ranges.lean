/-!
# Ranges of characters

Classes of characters as lists of closed ranges of code points.
-/

namespace Relmap.Text

/-- Membership in a list of closed ranges. -/
def inRanges (ranges : List (Nat × Nat)) (n : Nat) : Bool :=
  ranges.any fun r => r.1 ≤ n && n ≤ r.2

/-- Each range ends before the next one starts. -/
def areAscending : List (Nat × Nat) → Bool
  | [] => true
  | [(first, last)] => first ≤ last
  | (first, last) :: next :: rest => first ≤ last && last < next.1 && areAscending (next :: rest)

end Relmap.Text
