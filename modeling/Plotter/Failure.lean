import Plotter.Files
import Plotter.Script.Keyword
import Plotter.Value

/-!
# Failures

A mistake in a script is reported at its line and the run goes on.  A `Failure` is the other kind
of trouble: a host asked for something impossible, or a number is too large for the arithmetic
behind a command.  It ends the operation in which it happens.  The program words only some of
them itself; the others have no message of their own.
-/

namespace Plotter

/-- What a host can set on a drawing surface. -/
inductive Property where
  | lineColor | fillColor | background | lineWidth
  deriving DecidableEq, Repr

inductive Failure where
  /-- A text is no integer, or an integer has too many digits. -/
  | numeral (cause : NumeralError)
  /-- A number is too large for a double. -/
  | tooLarge
  /-- A command got more or fewer values than it takes. -/
  | valueCount
  /-- A triangle got neither four nor six values. -/
  | triangleCount (found : Nat)
  /-- A keyword that is no drawing command was run as one. -/
  | notACommand (keyword : Keyword)
  /-- A method was expanded with more or fewer arguments than parameters. -/
  | expansionCount (name : Text) (expected found : Nat)
  /-- An assignment does not start at the beginning of its line, or its line does not end there. -/
  | looseAssignment
  /-- A variable is read that was never set. -/
  | unsetVariable
  /-- A point has fewer than two coordinates, or a command lacks its word. -/
  | missingItem
  /-- A value of the wrong kind, or the wrong number of arguments. -/
  | wrongKind
  /-- A surface has no such operation or property, or there is nothing to have it. -/
  | unknownMember
  /-- A surface property does not take the value. -/
  | rejected (property : Property) (value : Value)
  /-- The name of a drawing file is not a text. -/
  | badFilename (value : Value)
  /-- A file cannot be written. -/
  | file (cause : FileError)
  | badConversion
  | unknownColorName (name : Text)
  | colorIndexRange (index : Int)
  | notAColor (value : Value)

namespace Failure

def rejectedLabel : Property → Text
  | .lineColor => "bad linecolor ".toList
  | .fillColor => "bad fillcolor ".toList
  | .background => "bad background ".toList
  | .lineWidth => "invalid linewidth ".toList

/-- The message, for the failures that the program words itself. -/
def message? : Failure → Option Text
  | .triangleCount found =>
    some ("triangle needs 4 or 6 values, got ".toList ++ Text.ofNat found)
  | .notACommand keyword =>
    some ("no primitive registered for Keyword.".toList ++ keyword.word.map Text.capital)
  | .expansionCount name expected found =>
    some ("method '".toList ++ name ++ "' takes ".toList ++ Text.ofNat expected
      ++ " argument(s), got ".toList ++ Text.ofNat found)
  | .rejected property value => some (rejectedLabel property ++ value.plain)
  | .badFilename value => some ("bad (non-string) filename: ".toList ++ value.plain)
  | .badConversion => some "bad colormap conversion".toList
  | .unknownColorName name => some ("bad color name passed to thing2color: ".toList ++ name)
  | .colorIndexRange index => some ("colormap index out of range: ".toList ++ Text.ofInt index)
  | .notAColor value => some ("bad thing passed to thing2color: ".toList ++ value.plain)
  | _ => none

end Failure

end Plotter
