import Plotter.Number.Double

/-!
# Numbers

A coordinate is a whole number of any size as long as the program computes it from whole numbers
by addition, subtraction and multiplication; a division makes it a double, and so does a double
among the operands.  The two kinds stay apart, since a report shows the difference.

A whole number enters a floating-point operation through the nearest double.  It may be too
large for one, so those operations are partial.
-/

namespace Plotter

inductive Number where
  | whole (n : Int)
  | real (x : Float)
  deriving DecidableEq, Repr

namespace Number

instance : OfNat Number n := ⟨.whole n⟩

/-- The double nearest to an integer quotient; none when it is too large. -/
def quotient? (num : Int) (den : Nat) : Option Float :=
  (Binary.nearest num.natAbs den).map fun b => if num < 0 then -b.toFloat else b.toFloat

/-- The double that stands for a number in floating-point arithmetic. -/
def toFloat? : Number → Option Float
  | .whole n => quotient? n 1
  | .real x => some x

/-- A binary operation that is exact on whole numbers and floating-point on all others. -/
def combine (exact : Int → Int → Int) (floating : Float → Float → Float) :
    Number → Number → Option Number
  | .whole a, .whole b => some (.whole (exact a b))
  | a, b => do return .real (floating (← a.toFloat?) (← b.toFloat?))

def add? : Number → Number → Option Number := combine (· + ·) (· + ·)

def sub? : Number → Number → Option Number := combine (· - ·) (· - ·)

def neg : Number → Number
  | .whole n => .whole (-n)
  | .real x => .real (-x)

/-- Half of a number, always a double. -/
def half? : Number → Option Float
  | .whole n => quotient? n 2
  | .real x => some (x / 2.0)

/-- A quotient with a positive divisor, always a double. -/
def div? : Number → Number → Option Float
  | .whole a, .whole b => quotient? a b.toNat
  | a, b => do return (← a.toFloat?) / (← b.toFloat?)

def isPositive : Number → Bool
  | .whole n => 0 < n
  | .real x => 0.0 < x

/-- A finite number as a fraction with a positive denominator. -/
def fraction? : Number → Option (Int × Nat)
  | .whole n => some (n, 1)
  | .real x =>
    match Double.parts x with
    | .finite negative magnitude =>
      let (num, den) := magnitude.ratio
      some (if negative then -(num : Int) else num, den)
    | _ => none

def orderFloats? (x y : Float) : Option Ordering :=
  if x < y then some .lt else if y < x then some .gt else if x == y then some .eq else none

/-- The order of two numbers, exact also between a whole number and a double; what is not a
number has no place in it. -/
def order? (a b : Number) : Option Ordering :=
  match a.fraction?, b.fraction? with
  | some (n, d), some (m, e) => some (compare (n * e) (m * d))
  | none, some _ => (a.toFloat?).bind fun x => orderFloats? x 0.0
  | some _, none => (b.toFloat?).bind fun y => orderFloats? 0.0 y
  | none, none =>
    match a, b with
    | .real x, .real y => orderFloats? x y
    | _, _ => none

def isLess (a b : Number) : Bool := order? a b == some .lt

def atLeast (a b : Number) : Bool := order? a b == some .gt || order? a b == some .eq

/-- The square of a number; none when it leaves the range of a double. -/
def square? : Number → Option Number
  | .whole n => some (.whole (n * n))
  | .real x => if (x * x).isInf && !x.isInf then none else some (.real (x * x))

def text : Number → Text
  | .whole n => Text.ofInt n
  | .real x => Double.shortest x

end Number

end Plotter
