/-!
# Ranges of code points

Character classes of Unicode are kept as ascending lists of closed intervals of code points.
-/

namespace Adventure.Text

/-- The code point lies in one of the closed intervals. -/
def inRanges (ranges : Array (Nat × Nat)) (n : Nat) : Bool :=
  ranges.any fun (lo, hi) => lo ≤ n && n ≤ hi

end Adventure.Text
