/-!
# Finite 64-bit floating point numbers

`Binary64` is a finite number of the 64-bit binary format, held as its sign and the 63 low bits of
its encoding.  Seen as a natural number those bits grow with the size of the number they encode, so
the order of sizes is the order of `magnitude`.

**Value.**  The size is `significand · 2 ^ exponent` (`Binary64.significand`, `Binary64.exponent`).

**Rounding.**  `Binary64.ofDecimal` takes a sign, a natural number of digits and a power of ten to
the nearest number of the format, a tie going to the even neighbour, in exact arithmetic.  A value
beyond the largest finite number has no result.

**Comparison.**  `Binary64.sameNumber` tells whether two of them are the same number; the two zeros
are, although they are written differently.
-/

namespace Federation

/-- How many numbers of the format share a sign and an exponent: 2 to the 52. -/
abbrev Binary64.fractions : Nat := 0x10000000000000

/-- A finite number of the 64-bit binary format: the sign bit and the other 63 bits. -/
structure Binary64 where
  /-- Whether the sign bit is set. -/
  negative : Bool
  /-- The exponent and fraction bits. -/
  magnitude : Nat
  /-- The largest exponent field encodes no finite number. -/
  finite : magnitude < 2047 * Binary64.fractions
deriving DecidableEq

namespace Binary64

/-- The zero of a sign. -/
def zero (negative : Bool) : Binary64 := ⟨negative, 0, by decide⟩

/-- Whether the number is one of the two zeros. -/
def isZero (x : Binary64) : Bool := x.magnitude == 0

/-- Whether two encodings are of the same number. -/
def sameNumber (x y : Binary64) : Bool :=
  x.magnitude == y.magnitude && (x.negative == y.negative || x.isZero)

/-- The whole number whose multiple of a power of two is the size. -/
def significand (x : Binary64) : Nat :=
  if x.magnitude < fractions then x.magnitude else fractions + x.magnitude % fractions

/-- The power of two of which the size is a multiple. -/
def exponent (x : Binary64) : Int :=
  if x.magnitude < fractions then -1074 else (x.magnitude / fractions : Nat) - 1075

/-- Whether the next smaller number is only half as far away as the next larger one. -/
def isLowerBoundary (x : Binary64) : Bool :=
  2 * fractions ≤ x.magnitude && x.magnitude % fractions == 0

/-- The whole part of the binary logarithm of `num / den`, both positive. -/
def floorLog2 (num den : Nat) : Int :=
  let guess : Int := (Nat.log2 num : Int) - (Nat.log2 den : Int)
  let reached : Bool :=
    if 0 ≤ guess then den * Nat.pow 2 guess.toNat ≤ num else den ≤ num * Nat.pow 2 (-guess).toNat
  if reached then guess else guess - 1

/-- `num / den` to the nearest whole number, a tie going to the even one. -/
def roundDiv (num den : Nat) : Nat :=
  let quotient := num / den
  let twice := 2 * (num % den)
  if den < twice || (twice == den && quotient % 2 == 1) then quotient + 1 else quotient

/-- The number of the format nearest to the positive quotient `num / den`. -/
def ofQuotient (negative : Bool) (num den : Nat) : Option Binary64 :=
  let scale : Int := max (-1074) (floorLog2 num den - 52)
  let significand :=
    if 0 ≤ scale then roundDiv num (den * Nat.pow 2 scale.toNat)
    else roundDiv (num * Nat.pow 2 (-scale).toNat) den
  let magnitude := (scale + 1074).toNat * fractions + significand
  if h : magnitude < 2047 * fractions then some ⟨negative, magnitude, h⟩ else none

/-- The number of the format nearest to `digits · 10 ^ power`.  Powers that put every such number
above the largest or below half the smallest one are settled without computing them. -/
def ofDecimal (negative : Bool) (digits : Nat) (power : Int) : Option Binary64 :=
  if digits = 0 then some (zero negative)
  else if 400 < power then none
  else if power + (Nat.log2 digits : Int) < -400 then some (zero negative)
  else if 0 ≤ power then ofQuotient negative (digits * Nat.pow 10 power.toNat) 1
  else ofQuotient negative digits (Nat.pow 10 (-power).toNat)

end Binary64

end Federation
