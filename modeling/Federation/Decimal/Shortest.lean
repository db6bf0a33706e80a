import Federation.Decimal.Binary64

/-!
# The fewest digits that read back

A number of the 64-bit format is written with as few digits as it takes to read the same number
back, and of the numbers with that many digits with the nearest one.

**Interval.**  The reals that round to a number reach half way to each neighbour; the ends belong
to the interval when the significand is even.  `Shortest.Interval` holds the number and both ends
over one common power of two, so that all comparisons are between natural numbers.

**Search.**  For one, two, … seventeen digits the two multiples of the power of ten on either side
of the number are tried (`Shortest.onGrid?`).  If any multiple lies in the interval so does one of
these two, hence the first hit has the fewest digits; seventeen digits always suffice.
-/

namespace Federation.Shortest

/-- A number and the ends of the interval of reals that round to it, all over `2 ^ -scale`. -/
structure Interval where
  /-- The lower end. -/
  low : Nat
  /-- The number itself. -/
  middle : Nat
  /-- The upper end. -/
  high : Nat
  /-- Whether the ends round to the number too. -/
  closed : Bool
  /-- The power of two by which all three are divided. -/
  scale : Nat

/-- The interval of a number other than zero. -/
def Interval.of (x : Binary64) : Interval :=
  let shift := (x.exponent + 1074).toNat
  let unit := Nat.pow 2 shift
  { low := 4 * x.significand * unit - (if x.isLowerBoundary then unit else 2 * unit)
    middle := 4 * x.significand * unit
    high := 4 * x.significand * unit + 2 * unit
    closed := x.significand % 2 == 0
    scale := 1076 }

/-- Whether `num / den` rounds to the number. -/
def Interval.holds (i : Interval) (num den : Nat) : Bool :=
  let point := num * Nat.pow 2 i.scale
  if i.closed then i.low * den ≤ point && point ≤ i.high * den
  else i.low * den < point && point < i.high * den

/-- The number of digits before the decimal point of `num / den`; not positive when the quotient
is less than one.  The first estimate comes from the binary logarithm and is at most one off. -/
def leadingExponent (num den : Nat) : Int :=
  let estimate : Int := Int.fdiv (Binary64.floorLog2 num den * 30103) 100000
  let atLeast (k : Int) : Bool :=
    if 0 ≤ k then den * Nat.pow 10 k.toNat ≤ num else den ≤ num * Nat.pow 10 (-k).toNat
  if atLeast (estimate + 1) then estimate + 2
  else if atLeast estimate then estimate + 1
  else estimate

/-- A number with the given count of digits that rounds to the interval's, if there is one: digits
and the power of ten they are multiplied by.  The multiple above may be the next power of ten, which
is a single digit. -/
def onGrid? (i : Interval) (point : Int) (count : Nat) : Option (Nat × Int) :=
  let power := point - count
  let up := if 0 ≤ power then Nat.pow 10 power.toNat else 1
  let down := if 0 ≤ power then 1 else Nat.pow 10 (-power).toNat
  let num := i.middle * down
  let den := Nat.pow 2 i.scale * up
  let below := num / den
  let above := below + 1
  let belowHolds := below != 0 && i.holds (below * up) down
  let aboveHolds := i.holds (above * up) down
  let twice := 2 * (num % den)
  let upper := if above = Nat.pow 10 count then (1, point) else (above, power)
  match belowHolds, aboveHolds with
  | true, true =>
    if twice < den || (twice == den && below % 2 == 0) then some (below, power)
    else some upper
  | true, false => some (below, power)
  | false, true => some upper
  | false, false => none

/-- The shortest digits of a number other than zero, with the power of ten they are multiplied
by. -/
def digits (x : Binary64) : Nat × Int :=
  let i := Interval.of x
  let point := leadingExponent i.middle (Nat.pow 2 i.scale)
  ((List.range 17).findSome? fun n => onGrid? i point (n + 1)).getD (0, 0)

end Federation.Shortest
