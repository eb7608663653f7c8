import Plotter.Text.Blank
import Plotter.Text.Digit

/-!
# Numerals

Integers are written in decimal.  A *literal* of the script language is an optional sign and one
or more digits; one line feed may follow.  The reader of numerals is more liberal: it also takes
blanks around the numeral and single underscores between digits, and it is the reader that the
commands use once a literal has been recognised.

Neither reading nor writing handles more than `maxDigits` digits, because both take time that
grows with the square of their number.  Leading zeros count.
-/

namespace Plotter

/-- Why a text is not read as an integer, or an integer is not written. -/
inductive NumeralError where
  | notANumeral
  | tooManyDigits
  deriving DecidableEq, Repr

namespace Text

def maxDigits : Nat := 4300

/-- Takes a leading sign off: whether it was a minus, and the rest. -/
def splitSign : Text → Bool × Text
  | '-' :: rest => (true, rest)
  | '+' :: rest => (false, rest)
  | t => (false, t)

/-- One or more decimal digits and nothing else. -/
def isDigits (t : Text) : Bool := !t.isEmpty && t.all isDigit

/-- A text without the line feed that may end it. -/
def dropFinalNewline : Text → Text
  | [] => []
  | ['\n'] => []
  | c :: rest => c :: dropFinalNewline rest

/-- An integer literal of the script language. -/
def isInteger (t : Text) : Bool := isDigits (splitSign (dropFinalNewline t)).2

/-- The number that a row of digits denotes, read from the most significant one. -/
def digitsValue (t : Text) : Nat :=
  t.foldl (fun total c => total * 10 + (digitValue? c).getD 0) 0

/-- A blank that may surround a numeral: the four information separators may not. -/
def isMargin (c : Char) : Bool := isBlank c && !(0x1C ≤ c.toNat && c.toNat ≤ 0x1F)

def dropMargins (t : Text) : Text :=
  (((t.dropWhile isMargin).reverse).dropWhile isMargin).reverse

/-- The digits of a row in which single underscores may stand between two digits. -/
def ungroup : Text → Option Text
  | [] => none
  | [c] => if isDigit c then some [c] else none
  | c :: '_' :: rest => if isDigit c then (ungroup rest).map (c :: ·) else none
  | c :: rest => if isDigit c then (ungroup rest).map (c :: ·) else none

/-- Reads an integer, with blanks around it and underscores inside it allowed. -/
def readInteger (t : Text) : Except NumeralError Int :=
  let (negative, row) := splitSign (dropMargins t)
  match ungroup row with
  | none => .error .notANumeral
  | some digits =>
    if maxDigits < digits.length then .error .tooManyDigits
    else if negative then .ok (-(digitsValue digits : Int))
    else .ok (digitsValue digits)

def ofNat (n : Nat) : Text := Nat.toDigits 10 n

/-- The decimal form of an integer of any size. -/
def ofInt : Int → Text
  | .ofNat n => ofNat n
  | .negSucc n => '-' :: ofNat (n + 1)

/-- The decimal form of an integer, if it has no more digits than can be written. -/
def writeInteger (n : Int) : Except NumeralError Text :=
  if Nat.pow 10 maxDigits ≤ n.natAbs then .error .tooManyDigits else .ok (ofInt n)

end Text

end Plotter
