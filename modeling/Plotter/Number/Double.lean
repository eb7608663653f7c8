import Plotter.Number.Rounding
import Plotter.Text.Numeral

/-!
# The text of a double

Two ways of writing a double are needed, and both start from its exact value, a significand
times a power of two.

* `fixed` has a given number of places and rounds the exact value once, a tie going to the even
  last digit.
* `shortest` has the fewest digits that no other double is nearer to.  For one digit, two
  digits, and so on, the two decimals next to the value are tried; the first that falls in the
  interval of the reals that round to the value wins, and of two the nearer.
-/

namespace Plotter.Double

/-- A double taken apart. -/
inductive Parts where
  | nan
  | infinite (negative : Bool)
  | finite (negative : Bool) (magnitude : Binary)
  deriving DecidableEq, Repr

def parts (x : Float) : Parts :=
  let bits : Nat := x.toBits.toNat
  let negative := bits / Nat.pow 2 63 == 1
  let exponent : Nat := bits / Nat.pow 2 52 % Nat.pow 2 11
  let fraction : Nat := bits % Nat.pow 2 52
  if exponent == 2047 then (if fraction == 0 then .infinite negative else .nan)
  else if exponent == 0 then .finite negative ⟨fraction, Binary.leastExponent⟩
  else .finite negative ⟨Nat.pow 2 52 + fraction, (exponent : Int) - 1075⟩

/-- A number with leading zeros up to a width. -/
def padded (width n : Nat) : Text :=
  let digits := Text.ofNat n
  List.replicate (width - digits.length) '0' ++ digits

/-- The text with a fixed number of decimal places; a value that rounds to zero has no sign. -/
def fixed (places : Nat) (x : Float) : Text :=
  match parts x with
  | .nan => "nan".toList
  | .infinite negative => (if negative then "-inf" else "inf").toList
  | .finite negative magnitude =>
    let (num, den) := magnitude.ratio
    let unit := Nat.pow 10 places
    let scaled := Binary.roundDiv (num * unit) den
    let sign : Text := if negative && scaled != 0 then ['-'] else []
    sign ++ Text.ofNat (scaled / unit) ++ '.' :: padded places (scaled % unit)

/-- The reals that round to a finite double: the two ends, doubled twice so that they are
multiples of one unit, and whether they belong to it. -/
structure Interval where
  low : Nat
  high : Nat
  unit : Nat
  closed : Bool

def intervalOf (b : Binary) : Interval :=
  let (scale, unit) :=
    if 0 ≤ b.exponent then (Nat.pow 2 b.exponent.toNat, 4)
    else (1, 4 * Nat.pow 2 (-b.exponent).toNat)
  let below := if b.significand == Nat.pow 2 52 && b.exponent != Binary.leastExponent then 1 else 2
  { low := (4 * b.significand - below) * scale
    high := (4 * b.significand + 2) * scale
    unit := unit
    closed := b.significand % 2 == 0 }

/-- Whether the decimal `digits * 10 ^ power` lies in the interval. -/
def Interval.holds (i : Interval) (digits : Nat) (power : Int) : Bool :=
  let (num, den) :=
    if 0 ≤ power then (digits * Nat.pow 10 power.toNat * i.unit, 1)
    else (digits * i.unit, Nat.pow 10 (-power).toNat)
  if i.closed then i.low * den ≤ num && num ≤ i.high * den
  else i.low * den < num && num < i.high * den

/-- The greatest power of ten not above a positive quotient, found near a first guess. -/
def decimalExponent (num den : Nat) : Int :=
  let guess : Int := ((num.log2 : Int) - den.log2) * 30103 / 100000
  let atLeast (power : Int) : Bool :=
    if 0 ≤ power then den * Nat.pow 10 power.toNat ≤ num
    else den ≤ num * Nat.pow 10 (-power).toNat
  if atLeast (guess + 2) then guess + 2
  else if atLeast (guess + 1) then guess + 1
  else if atLeast guess then guess
  else if atLeast (guess - 1) then guess - 1
  else guess - 2

/-- The shortest decimal of a positive double with at least `count` digits: its digits as a
number, and the power of ten of the last one. -/
def searchDigits (i : Interval) (num den : Nat) (top : Int) : (tries count : Nat) → Nat × Int
  | 0, count => (0, top - count)
  | tries + 1, count =>
    let power := top - (count - 1 : Nat)
    let (n, d) :=
      if 0 ≤ power then (num, den * Nat.pow 10 power.toNat)
      else (num * Nat.pow 10 (-power).toNat, den)
    let lower := n / d
    let nearer := Binary.roundDiv n d
    let other := if nearer == lower then lower + 1 else lower
    if i.holds nearer power then (nearer, power)
    else if i.holds other power then (other, power)
    else searchDigits i num den top tries (count + 1)

/-- Drops the zeros at the end of a number, counting them into the power of ten. -/
def stripZeros : (tries digits : Nat) → (power : Int) → Nat × Int
  | 0, digits, power => (digits, power)
  | tries + 1, digits, power =>
    if digits != 0 && digits % 10 == 0 then stripZeros tries (digits / 10) (power + 1)
    else (digits, power)

/-- Digits and exponent in the style of the reports: positional from `0.0001` up to below
`10 ^ 16`, always with a point, and otherwise scientific with an exponent of two digits or more. -/
def layout (digits : Text) (power : Int) : Text :=
  let top := power + digits.length
  if -4 < top && top ≤ 16 then
    if power ≥ 0 then digits ++ List.replicate power.toNat '0' ++ ['.', '0']
    else if 0 < top then digits.take top.toNat ++ '.' :: digits.drop top.toNat
    else '0' :: '.' :: List.replicate (-top).toNat '0' ++ digits
  else
    let exponent := top - 1
    let mantissa :=
      match digits with
      | [] => []
      | [d] => [d]
      | d :: rest => d :: '.' :: rest
    mantissa ++ 'e' :: (if exponent < 0 then '-' else '+') :: padded 2 exponent.natAbs

/-- The text with the fewest digits that reads back as the same double. -/
def shortest (x : Float) : Text :=
  match parts x with
  | .nan => "nan".toList
  | .infinite negative => (if negative then "-inf" else "inf").toList
  | .finite negative magnitude =>
    let sign : Text := if negative then ['-'] else []
    if magnitude.significand == 0 then sign ++ ['0', '.', '0']
    else
      let (num, den) := magnitude.ratio
      let found := searchDigits (intervalOf magnitude) num den (decimalExponent num den) 18 1
      let (digits, power) := stripZeros 20 found.1 found.2
      sign ++ layout (Text.ofNat digits) power

/-- The number nearest to `digits * 10 ^ power`, or none when it is too large.  A power that is far
out of the range of doubles is told without computing it. -/
def nearestDecimal (digits : Nat) (power : Int) : Option Binary :=
  if digits == 0 || power < -400 - (Nat.log2 digits : Int) then Binary.nearest 0 1
  else if 400 < power then none
  else if 0 ≤ power then Binary.nearest (digits * Nat.pow 10 power.toNat) 1
  else Binary.nearest digits (Nat.pow 10 (-power).toNat)

/-- The double nearest to `digits * 10 ^ power`; infinite when it is too large. -/
def ofDecimal (negative : Bool) (digits : Nat) (power : Int) : Float :=
  let magnitude := match nearestDecimal digits power with
    | some b => b.toFloat
    | none => 1.0 / 0.0
  if negative then -magnitude else magnitude

end Plotter.Double
