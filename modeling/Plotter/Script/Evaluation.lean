import Plotter.Diagnostic
import Plotter.Dictionary
import Plotter.Failure
import Plotter.Script.Condition
import Plotter.Script.Expression

/-!
# Evaluation

Expressions, conditions and loop counts are evaluated over the variables.  All of them are about
integers of any size.  What can go wrong is a `Problem`: a cause that the script is to blame for,
or a failure of the arithmetic itself.

The terms of an expression are evaluated from the left and the first bad one is reported.  In a
condition the operator is looked at before the operands, and the left operand before the right.
-/

namespace Plotter

/-- Why there is no value. -/
inductive Problem where
  | cause (c : Cause)
  | failure (f : Failure)

/-- What ends the processing of a line early. -/
inductive Stop where
  | fault (f : Fault)
  | failure (f : Failure)

/-- A problem met while a line was being processed. -/
def Problem.stopAt (line : Line) : Problem → Stop
  | .cause c => .fault ⟨c, line⟩
  | .failure f => .failure f

inductive Comparison where
  | greater | less | equal
  deriving DecidableEq, Repr

namespace Comparison

def ofOperator? (operator : Text) : Option Comparison :=
  if operator = ['>'] then some .greater
  else if operator = ['<'] then some .less
  else if operator = ['=', '='] then some .equal
  else none

def holds : Comparison → Int → Int → Bool
  | .greater, a, b => b < a
  | .less, a, b => a < b
  | .equal, a, b => a == b

end Comparison

namespace Evaluation

/-- Reads a literal. -/
def literal (t : Text) : Except Problem Int :=
  match Text.readInteger t with
  | .ok n => .ok n
  | .error e => .error (.failure (.numeral e))

/-- The value of a literal or of a variable. -/
def term (store : Dictionary Int) (t : Text) : Except Problem Int :=
  if Text.isInteger t then literal t
  else if isName t then
    match store.get? t with
    | some value => .ok value
    | none => .error (.cause (.undefinedVariable t))
  else .error (.cause (.invalidTerm t))

/-- The sum of the terms from the left, each under its sign. -/
def sum (store : Dictionary Int) : List Term → Except Problem Int
  | [] => .ok 0
  | t :: rest => do
    let value ← term store t.text
    let others ← sum store rest
    return t.sign.apply value + others

/-- The text of a malformed expression in its report. -/
def shownExpression (t : Text) : Text :=
  match Text.trim t with
  | [] => "<empty>".toList
  | trimmed => trimmed

def expression (store : Dictionary Int) (t : Text) : Except Problem Int :=
  match Expression.terms? t with
  | some terms => sum store terms
  | none => .error (.cause (.invalidTerm (shownExpression t)))

def wrongOperand (position : Nat) (expected found : Text) : Problem :=
  .cause (.wrongParameterType BlockKind.conditional.openingWord position expected found)

/-- The truth of the text after `if`: a variable compared with a literal. -/
def condition (store : Dictionary Int) (t : Text) : Except Problem Bool :=
  match Condition.parse? t with
  | none => .error (.cause (.malformedHeader .conditional))
  | some c =>
    match Comparison.ofOperator? c.operator with
    | none => .error (.cause (.invalidOperator c.operator))
    | some comparison =>
      if !isName c.left then .error (wrongOperand 1 "a variable name".toList c.left)
      else
        match store.get? c.left with
        | none => .error (.cause (.undefinedVariable c.left))
        | some value =>
          if Text.isInteger c.right then (literal c.right).map (comparison.holds value)
          else .error (wrongOperand 3 "an integer".toList c.right)

/-- A count below zero is reported with its value. -/
def negativeCount (count : Int) : Problem :=
  match Text.writeInteger count with
  | .ok shown =>
    .cause (.wrongParameterType BlockKind.loop.openingWord 1 "a non-negative integer".toList shown)
  | .error e => .failure (.numeral e)

/-- The number of rounds of a loop with the given arguments. -/
def loopCount (store : Dictionary Int) : List Text → Except Problem Nat
  | [argument] => do
    let count ← term store argument
    if count < 0 then .error (negativeCount count) else return count.toNat
  | _ => .error (.cause (.malformedHeader .loop))

end Evaluation

end Plotter
