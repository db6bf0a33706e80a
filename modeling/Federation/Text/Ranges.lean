/-!
# Sets of characters as ranges

A set of code points is an array of closed ranges in ascending order, in which a code point is
looked up by halving.
-/

namespace Federation.Text

/-- Whether one of the ranges between two positions holds a code point. -/
def inRangesBetween (ranges : Array (Nat × Nat)) (point low high : Nat) : Bool :=
  if low < high then
    let middle := (low + high) / 2
    let range := ranges.getD middle (0, 0)
    if point < range.1 then inRangesBetween ranges point low middle
    else if range.2 < point then inRangesBetween ranges point (middle + 1) high
    else true
  else false
termination_by high - low

/-- Whether one of the ranges holds a code point. -/
def inRanges (ranges : Array (Nat × Nat)) (point : Nat) : Bool :=
  inRangesBetween ranges point 0 ranges.size

end Federation.Text
