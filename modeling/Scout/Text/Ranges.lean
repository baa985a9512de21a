/-!
# Sets of characters given by ranges

A property of characters is a list of closed ranges of code points.
-/

namespace Scout.Text

/-- Whether some range of the list holds the code point. -/
def inRanges (ranges : List (Nat × Nat)) (n : Nat) : Bool :=
  ranges.any fun r => r.1 ≤ n && n ≤ r.2

end Scout.Text
