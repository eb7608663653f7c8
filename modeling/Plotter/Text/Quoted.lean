import Plotter.Text.Printable

/-!
# Quoted text

A text embedded in a message is quoted so that it can be told from its surroundings: between
single quotes, or between double quotes when it holds a single quote and no double quote.  The
quote and the backslash are escaped, the three usual control characters have short escapes, and
every other unprintable character is written by its code point in two, four or eight digits.
-/

namespace Plotter.Text

def hexDigit (value : Nat) : Char :=
  if value < 10 then Char.ofNat (48 + value) else Char.ofNat (87 + value)

/-- The last `width` hexadecimal digits of a number. -/
def hexDigits : (width : Nat) → (n : Nat) → Text
  | 0, _ => []
  | width + 1, n => hexDigits width (n / 16) ++ [hexDigit (n % 16)]

/-- Single unless the text has a single quote and no double one. -/
def quoteMark (t : Text) : Char :=
  if t.contains (Char.ofNat 39) && !t.contains '"' then '"' else Char.ofNat 39

def escapeChar (mark c : Char) : Text :=
  let n := c.toNat
  if c == mark || n == 92 then ['\\', c]
  else if n == 9 then ['\\', 't']
  else if n == 10 then ['\\', 'n']
  else if n == 13 then ['\\', 'r']
  else if isPrintable c then [c]
  else if n < 0x100 then '\\' :: 'x' :: hexDigits 2 n
  else if n < 0x10000 then '\\' :: 'u' :: hexDigits 4 n
  else '\\' :: 'U' :: hexDigits 8 n

def quoted (t : Text) : Text :=
  let mark := quoteMark t
  mark :: t.flatMap (escapeChar mark) ++ [mark]

end Plotter.Text
