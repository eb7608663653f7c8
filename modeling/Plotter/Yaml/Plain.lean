import Plotter.Number.Double
import Plotter.Text.Case
import Plotter.Value
import Plotter.Yaml.Cursor
import Plotter.Yaml.Moment

/-!
# Kinds of plain scalars

The text of a plain scalar tells its kind: nothing, a truth value, a number, or else a text.
Whole numbers are written in decimal, octal after a zero, hexadecimal, binary, or as parts of
sixty between colons; underscores are skipped.  A decimal with a point may have an exponent, whose
sign is required.  A date may have a time of day behind it, with a fraction and a zone; of its value
only the way it is shown matters.
-/

namespace Plotter.Yaml

inductive ScalarKind where
  | null | bool | int | float | merge | default | moment | text
  deriving DecidableEq, Repr

namespace Plain

def isDecimal (c : Char) : Bool := '0'.toNat ≤ c.toNat && c.toNat ≤ '9'.toNat

def digitOf (c : Char) : Nat :=
  let n := c.toNat
  if n ≤ 57 then n - 48 else if n ≤ 70 then n - 55 else n - 87

/-- The number that digits denote in a base. -/
def numberIn (base : Nat) (digits : Text) : Nat :=
  digits.foldl (fun total c => total * base + digitOf c) 0

def isDecimalOrSkip (c : Char) : Bool := isDecimal c || c == '_'

def isOctalOrSkip (c : Char) : Bool := ('0'.toNat ≤ c.toNat && c.toNat ≤ '7'.toNat) || c == '_'

def isBinaryOrSkip (c : Char) : Bool := c == '0' || c == '1' || c == '_'

def isHexOrSkip (c : Char) : Bool :=
  isDecimalOrSkip c || ('a'.toNat ≤ c.toNat && c.toNat ≤ 'f'.toNat)
    || ('A'.toNat ≤ c.toNat && c.toNat ≤ 'F'.toNat)

def dropSign : Text → Text
  | '+' :: rest => rest
  | '-' :: rest => rest
  | t => t

def among (t : Text) (words : List String) : Bool := words.any fun w => w.toList == t

def isNull (t : Text) : Bool := t.isEmpty || among t ["~", "null", "Null", "NULL"]

def isBool (t : Text) : Bool :=
  among t ["yes", "Yes", "YES", "no", "No", "NO", "true", "True", "TRUE", "false", "False",
    "FALSE", "on", "On", "ON", "off", "Off", "OFF"]

def filled (inClass : Char → Bool) (t : Text) : Bool := !t.isEmpty && t.all inClass

/-- One digit, or a digit below six and one more. -/
def isSixtieth : Text → Bool
  | [d] => isDecimal d
  | [t, d] => isDecimal d && isDecimal t && t.toNat < '6'.toNat
  | _ => false

/-- The parts of a text between colons. -/
def colonParts : Text → List Text
  | [] => [[]]
  | ':' :: rest => [] :: colonParts rest
  | c :: rest =>
    match colonParts rest with
    | [] => [[c]]
    | first :: later => (c :: first) :: later

/-- A number of sixtieths: a first part in a class and one or more parts after it. -/
def isSexagesimal (first : Text → Bool) (parts : List Text) : Bool :=
  match parts with
  | head :: next :: rest => first head && (next :: rest).all isSixtieth
  | _ => false

def startsPositive (t : Text) : Bool :=
  t.head?.any (fun c => isDecimal c && c != '0') && t.all isDecimalOrSkip

def isInt (t : Text) : Bool :=
  match dropSign t with
  | ['0'] => true
  | '0' :: 'b' :: rest => filled isBinaryOrSkip rest
  | '0' :: 'x' :: rest => filled isHexOrSkip rest
  | '0' :: rest => filled isOctalOrSkip rest
  | body => startsPositive body || isSexagesimal startsPositive (colonParts body)

/-- Digits and underscores that start with a digit. -/
def isMantissa (t : Text) : Bool := t.head?.any isDecimal && t.all isDecimalOrSkip

/-- An exponent with its sign, or nothing. -/
def isExponent : Text → Bool
  | [] => true
  | e :: sign :: digits =>
    (e == 'e' || e == 'E') && (sign == '+' || sign == '-') && filled isDecimal digits
  | _ => false

/-- What may follow the point of a decimal. -/
def isFractionAndExponent (t : Text) : Bool := isExponent (t.dropWhile isDecimalOrSkip)

def isInfinity (t : Text) : Bool := among t [".inf", ".Inf", ".INF"]

def isNan (t : Text) : Bool := among t [".nan", ".NaN", ".NAN"]

/-- A decimal with a point after its first digits. -/
def isPointed (t : Text) : Bool :=
  let whole := t.takeWhile (· != '.')
  match t.dropWhile (· != '.') with
  | '.' :: fraction =>
    (isMantissa whole && isFractionAndExponent fraction)
      || (isSexagesimal isMantissa (colonParts whole) && fraction.all isDecimalOrSkip)
  | _ => false

def isFloat (t : Text) : Bool :=
  isPointed (dropSign t) || isInfinity (dropSign t) || isNan t
    || (match t with
      | '.' :: fraction => fraction.head?.any isDecimal && isFractionAndExponent fraction
      | _ => false)

/-! ### Dates -/

def isSpace (c : Char) : Bool := c == ' ' || c == '\t'

/-- A number of as many digits as asked for, and the rest. -/
def digits? (least most : Nat) (t : Text) : Option (Nat × Text) :=
  let row := t.takeWhile isDecimal
  if least ≤ row.length && row.length ≤ most then some (numberIn 10 row, t.dropWhile isDecimal)
  else none

def mark? (c : Char) : Text → Option Text
  | [] => none
  | d :: rest => if d == c then some rest else none

/-- What stands between a day and a time: a letter, or some blanks. -/
def timeMark? : Text → Option Text
  | [] => none
  | c :: rest =>
    if c == 'T' || c == 't' then some rest
    else if isSpace c then some (rest.dropWhile isSpace)
    else none

/-- A fraction of a second in millionths; more digits than six are cut off. -/
def fraction : Text → Nat × Text
  | '.' :: rest =>
    let row := rest.takeWhile isDecimal
    (numberIn 10 ((row ++ List.replicate 6 '0').take 6), rest.dropWhile isDecimal)
  | t => (0, t)

/-- The zone that ends a time, if it has one. -/
def zone? : Text → Option (Option Int)
  | [] => some none
  | ['Z'] => some (some 0)
  | c :: rest => do
    if c != '+' && c != '-' then none
    let (hours, rest) ← digits? 1 2 rest
    let (minutes, rest) ← match rest with
      | ':' :: rest => digits? 2 2 rest
      | _ => some (0, rest)
    if !rest.isEmpty then none
    let ahead : Int := (60 * hours + minutes : Nat)
    return some (if c == '-' then -ahead else ahead)

/-- A day in full, or a day with a time of day. -/
def moment? (t : Text) : Option Moment := do
  let (year, rest) ← digits? 4 4 t
  let (month, rest) ← digits? 1 2 (← mark? '-' rest)
  let (day, rest) ← digits? 1 2 (← mark? '-' rest)
  if rest.isEmpty then
    if t.length == 10 then some { year, month, day } else none
  else
    let (hour, rest) ← digits? 1 2 (← timeMark? rest)
    let (minute, rest) ← digits? 2 2 (← mark? ':' rest)
    let (second, rest) ← digits? 2 2 (← mark? ':' rest)
    let (microsecond, rest) := fraction rest
    let offset ← zone? (rest.dropWhile isSpace)
    return { year, month, day, clock := some { hour, minute, second, microsecond, offset } }

/-- The kind of a plain scalar. -/
def kind (t : Text) : ScalarKind :=
  if isBool t then .bool
  else if isFloat t then .float
  else if isInt t then .int
  else if t == ['<', '<'] then .merge
  else if isNull t then .null
  else if (moment? t).isSome then .moment
  else if t == ['='] then .default
  else .text

/-! ### Values -/

/-- The refusal of a text that is no numeral in a base. -/
def noNumeral (base : Nat) (t : Text) : LoadError :=
  .number ("invalid literal for int() with base ".toList ++ Text.ofNat base ++ ": ".toList
    ++ Text.quoted t)

/-- The refusal of a numeral that is too long. -/
def tooLong (digits : Nat) : LoadError :=
  .number ("Exceeds the limit (".toList ++ Text.ofNat Text.maxDigits
    ++ " digits) for integer string conversion: value has ".toList ++ Text.ofNat digits
    ++ " digits; use sys.set_int_max_str_digits() to increase the limit".toList)

/-- The refusal of a text that is no decimal. -/
def noDecimal (t : Text) : LoadError :=
  .number ("could not convert string to float: ".toList ++ Text.quoted t)

/-- Digits in a base that is a power of two, which may be any number of them. -/
def inBase (base : Nat) (isDigit : Char → Bool) (digits : Text) : Except LoadError Int :=
  if filled isDigit digits then .ok (numberIn base digits) else .error (noNumeral base digits)

/-- A decimal number of a bounded number of digits. -/
def decimal (t : Text) : Except LoadError Int :=
  match Text.readInteger t with
  | .ok n => .ok n
  | .error .notANumeral => .error (noNumeral 10 t)
  | .error .tooManyDigits => .error (tooLong (t.countP Text.isDigit))

/-- Parts of sixty, the greatest first. -/
def sixtieths : (total : Int) → List Text → Except LoadError Int
  | total, [] => .ok total
  | total, part :: rest => do sixtieths (total * 60 + (← decimal part)) rest

/-- A whole number without its sign and its underscores. -/
def magnitude (t : Text) : Except LoadError Int :=
  match t with
  | ['0'] => .ok 0
  | '0' :: 'b' :: digits => inBase 2 isBinaryOrSkip digits
  | '0' :: 'x' :: digits => inBase 16 isHexOrSkip digits
  | '0' :: digits => inBase 8 isOctalOrSkip ('0' :: digits)
  | body => if body.contains ':' then sixtieths 0 (colonParts body) else decimal body

def signed (t : Text) (n : Int) : Int := if t.head? == some '-' then -n else n

def readInt (t : Text) : Except LoadError Int :=
  let bare := t.filter (· != '_')
  if (dropSign bare).isEmpty then .error .missingNumber
  else (magnitude (dropSign bare)).map (signed bare)

/-- A decimal with a point and an exponent. -/
def readDecimal (negative : Bool) (t : Text) : Except LoadError Float :=
  let whole := t.takeWhile isDecimal
  let (fraction, rest) := match t.dropWhile isDecimal with
    | '.' :: more => (more.takeWhile isDecimal, more.dropWhile isDecimal)
    | other => ([], other)
  let exponent : Option Int := match rest with
    | [] => some 0
    | 'e' :: '-' :: digits => if filled isDecimal digits then some (-(numberIn 10 digits)) else none
    | 'e' :: '+' :: digits => if filled isDecimal digits then some (numberIn 10 digits) else none
    | 'e' :: digits => if filled isDecimal digits then some (numberIn 10 digits) else none
    | _ => none
  match exponent with
  | none => .error (noDecimal t)
  | some power =>
    if whole.isEmpty && fraction.isEmpty then .error (noDecimal t)
    else
      .ok (Double.ofDecimal negative (numberIn 10 (whole ++ fraction)) (power - fraction.length))

/-- Parts of sixty with a fraction in the last. -/
def floatSixtieths : (total : Float) → List Text → Except LoadError Float
  | total, [] => .ok total
  | total, part :: rest => do
    floatSixtieths (total * 60.0 + (← readDecimal false part)) rest

def readFloat (t : Text) : Except LoadError Float :=
  let bare := Text.lower (t.filter (· != '_'))
  let negative := bare.head? == some '-'
  let body := dropSign bare
  if bare.isEmpty then .error .missingNumber
  else if body == ".inf".toList then .ok (if negative then -(1.0 / 0.0) else 1.0 / 0.0)
  else if body == ".nan".toList then .ok (0.0 / 0.0)
  else if body.contains ':' then
    (floatSixtieths 0.0 (colonParts body)).map fun x => if negative then -x else x
  else readDecimal negative body

def readBool (t : Text) : Except LoadError Bool :=
  let lowered := Text.lower t
  if among lowered ["yes", "true", "on"] then .ok true
  else if among lowered ["no", "false", "off"] then .ok false
  else .error .truth

def readMoment (t : Text) : Except LoadError Value :=
  match moment? t with
  | none => .error .value
  | some m =>
    match m.refusal? with
    | some message => .error (.number message)
    | none => .ok (.other (some (m.shown, m.plain)) true)

/-- The value of a scalar of a kind. -/
def value (k : ScalarKind) (t : Text) : Except LoadError Value :=
  match k with
  | .null => .ok .null
  | .bool => (readBool t).map .bool
  | .int => (readInt t).map .int
  | .float => (readFloat t).map .float
  | .moment => readMoment t
  | .text => .ok (.text t)
  | .merge | .default => .error .value

end Plain

end Plotter.Yaml
