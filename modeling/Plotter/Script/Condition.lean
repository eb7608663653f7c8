import Plotter.Text.Blank

/-!
# Conditions

The text after `if` is a left operand, an operator and a right operand, with or without blanks
between them.  The operator is the longest run of comparison characters that leaves something
for the right operand: at the end of the text the last comparison character is the operand.
-/

namespace Plotter

structure Condition where
  left : Text
  operator : Text
  right : Text
  deriving DecidableEq, Repr

namespace Condition

def isOperatorChar (c : Char) : Bool := c == '<' || c == '>' || c == '=' || c == '!'

def isLeftChar (c : Char) : Bool := !Text.isBlank c && !isOperatorChar c

/-- Gives the last comparison character to the right operand when nothing else is left for it. -/
def shareOperator (left operator : Text) : Option Condition :=
  match operator.getLast? with
  | some last =>
    if operator.dropLast.isEmpty then none else some ⟨left, operator.dropLast, [last]⟩
  | none => none

/-- The parts of a condition, which has no blanks at its ends. -/
def ofTrimmed? (t : Text) : Option Condition :=
  let left := t.takeWhile isLeftChar
  let afterLeft := Text.trimStart (t.dropWhile isLeftChar)
  let operator := afterLeft.takeWhile isOperatorChar
  let right := Text.trimStart (afterLeft.dropWhile isOperatorChar)
  if left.isEmpty || operator.isEmpty then none
  else if right.isEmpty then shareOperator left operator
  else if right.any Text.isBlank then none
  else some ⟨left, operator, right⟩

/-- The parts of the text after `if`. -/
def parse? (t : Text) : Option Condition := ofTrimmed? (Text.trim t)

end Condition

end Plotter
