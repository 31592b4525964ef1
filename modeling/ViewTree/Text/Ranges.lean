/-!
# Text — ranges of code points

A character property is a list of closed ranges of code points, ascending and apart.
-/

namespace ViewTree.Text

/-- Closed ranges of code points, ascending and apart. -/
abbrev Ranges := List (Nat × Nat)

/-- Whether a code point lies in one of the ranges. -/
def Ranges.covers (ranges : Ranges) (n : Nat) : Bool :=
  ranges.any fun r => r.1 ≤ n && n ≤ r.2

end ViewTree.Text
