/-!
# Lifetimes

A statement that is given no end is valid for a day.  Times are 64-bit numbers with sign, so the end
of a lifetime that begins in their last day wraps around (`Lifetime.wrap`).
-/

namespace Federation.Lifetime

/-- How long a statement is valid that is given no end, in seconds. -/
def length : Int := 86400

/-- The 64-bit number with sign that an integer is modulo 2 to the 64. -/
def wrap (n : Int) : Int := n.bmod Int64.size

/-- The end of a lifetime. -/
def endOf (start : Int) : Int := wrap (start + length)

end Federation.Lifetime
