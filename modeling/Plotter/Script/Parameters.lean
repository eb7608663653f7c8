import Plotter.Diagnostic
import Plotter.Script.Expression

/-!
# Parameters of the drawing commands

Every drawing command accepts one or two parameter lists; the first is the canonical one, by which
a wrong count is reported.  Integer parameters must be literals once the variables have been
replaced, so a name that is left over is an undefined variable.  Colours and fill modes are not
checked here: an unknown one is ignored when the command runs.
-/

namespace Plotter

inductive ParameterType where
  | integer | color | fillMode
  deriving DecidableEq, Repr

namespace Primitive

/-- The accepted parameter lists, the canonical one first. -/
def shapes : Primitive → List (List ParameterType)
  | .moveTo | .drawTo | .rectangle => [List.replicate 2 .integer]
  | .clear | .reset => [[]]
  | .circle => [[.integer]]
  | .triangle => [List.replicate 6 .integer, List.replicate 4 .integer]
  | .pen => [[.color]]
  | .fill => [[.fillMode]]

/-- The number of parameters by which a wrong count is reported. -/
def canonicalCount (p : Primitive) : Nat := (p.shapes.head?.map List.length).getD 0

/-- The first parameter that does not fit its type. -/
def checkTypes (word : Text) : (position : Nat) → List ParameterType → List Text → Option Cause
  | position, .integer :: types, argument :: rest =>
    if Text.isInteger argument then checkTypes word (position + 1) types rest
    else if isName argument then some (.undefinedVariable argument)
    else some (.wrongParameterType word position "an integer or variable".toList argument)
  | position, _ :: types, _ :: rest => checkTypes word (position + 1) types rest
  | _, _, _ => none

/-- What is wrong with the arguments of a command, which is reported under the given word. -/
def check (p : Primitive) (word : Text) (arguments : List Text) : Option Cause :=
  match p.shapes.find? fun shape => shape.length == arguments.length with
  | some shape => checkTypes word 1 shape arguments
  | none =>
    if arguments.length < p.canonicalCount then
      some (.missingParameters word p.canonicalCount arguments.length)
    else some (.tooManyParameters word p.canonicalCount arguments.length)

end Primitive

/-- Checks a command given by any word: only drawing commands are known. -/
def checkCommand (word : Text) (keyword : Option Keyword) (arguments : List Text) :
    Option Cause :=
  match keyword with
  | some (.command primitive) => primitive.check word arguments
  | _ => some (.unknownCommand word)

end Plotter
