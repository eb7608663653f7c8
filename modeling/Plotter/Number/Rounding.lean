/-!
# Rounding to a double

A quotient of two integers is rounded once, to the nearest number with a significand of 53 bits
and an exponent in the range of a double, and of two equally near ones to the one whose
significand is even.  The arithmetic is exact: the significand and the exponent are natural
numbers and integers, and no floating-point operation takes part.

The exponent is fixed first, from the sizes of the two numbers, so that the scaled quotient has
53 bits before it is rounded; numbers below the normal range keep the least exponent instead.
-/

namespace Plotter

/-- The nonnegative number `significand * 2 ^ exponent`. -/
structure Binary where
  significand : Nat
  exponent : Int
  deriving DecidableEq, Repr

namespace Binary

/-- The integer nearest to a quotient, a tie going to the even neighbour. -/
def roundDiv (num den : Nat) : Nat :=
  let quotient := num / den
  let rest := num % den
  if 2 * rest < den then quotient
  else if den < 2 * rest then quotient + 1
  else quotient + quotient % 2

/-- `num / den / 2 ^ exponent`, as a numerator and a denominator. -/
def scaled (num den : Nat) (exponent : Int) : Nat × Nat :=
  if 0 ≤ exponent then (num, den * Nat.pow 2 exponent.toNat)
  else (num * Nat.pow 2 (-exponent).toNat, den)

def leastExponent : Int := -1074

/-- The exponent at which a positive quotient has a significand of 53 bits, if that is in range. -/
def exponentOf (num den : Nat) : Int :=
  let guess : Int := (num.log2 : Int) - den.log2 - 53
  let (n, d) := scaled num den guess
  max leastExponent (if n / d < Nat.pow 2 53 then guess else guess + 1)

def fitsDouble (b : Binary) : Bool :=
  b.exponent < 971 || (b.exponent == 971 && b.significand < Nat.pow 2 53)

/-- The double nearest to a quotient with a positive denominator; none when it is too large. -/
def nearest (num den : Nat) : Option Binary :=
  if num = 0 then some ⟨0, 0⟩
  else
    let exponent := exponentOf num den
    let (n, d) := scaled num den exponent
    let rounded : Binary := ⟨roundDiv n d, exponent⟩
    if fitsDouble rounded then some rounded else none

/-- The whole part. -/
def floor (b : Binary) : Nat :=
  if 0 ≤ b.exponent then b.significand * Nat.pow 2 b.exponent.toNat
  else b.significand / Nat.pow 2 (-b.exponent).toNat

/-- The number as a numerator and a denominator. -/
def ratio (b : Binary) : Nat × Nat :=
  if 0 ≤ b.exponent then (b.significand * Nat.pow 2 b.exponent.toNat, 1)
  else (b.significand, Nat.pow 2 (-b.exponent).toNat)

def toFloat (b : Binary) : Float := Float.scaleB b.significand.toUInt64.toFloat b.exponent

end Binary

/-- Half of an integer as a double would hold it, with the fraction dropped; none when the
integer is too large for a double. -/
def truncatedHalf (n : Int) : Option Int :=
  (Binary.nearest n.natAbs 2).map fun half =>
    if n < 0 then -(half.floor : Int) else half.floor

end Plotter
