/-!
# Ranges of code points

A property of characters that no short rule describes is given as a table of
code-point ranges in ascending order. `inRanges` looks a number up in such a
table and stops at the first range that lies above it.
-/

namespace ChannelRouting.Text

/-- Whether a number lies in one of the ranges, both ends included. -/
def inRanges (n : Nat) : List (Nat × Nat) → Bool
  | [] => false
  | r :: rest => if n < r.1 then false else n ≤ r.2 || inRanges n rest

end ChannelRouting.Text
