import Plotter.Failure
import Plotter.Script.Line
import Plotter.Script.Substitution

/-!
# Methods

A method is a named list of lines.  A call does not bind its parameters to values: it replaces
them in the text of the lines, and the resulting lines are run in place of the call.  They carry
the number of the line that calls, so a report points at the call.
-/

namespace Plotter

structure Method where
  name : Text
  parameters : List Text := []
  body : List Line := []
  deriving DecidableEq, Repr

namespace Method

def arity (m : Method) : Nat := m.parameters.length

/-- The argument of each parameter. -/
def binding (m : Method) (arguments : List Text) : Dictionary Text :=
  .ofList (m.parameters.zip arguments)

/-- The body with its parameters replaced, at the line of a call. -/
def linesAt (m : Method) (arguments : List Text) (site : Line) : List Line :=
  m.body.map fun line =>
    { site with text := Substitution.parameters (m.binding arguments) line.text }

/-- The body with its parameters replaced, every line at its own place. -/
def linesInPlace (m : Method) (arguments : List Text) : List Line :=
  m.body.map fun line =>
    line.withText (Substitution.parameters (m.binding arguments) line.text)

/-- Expands a method, at a call or in place; the arguments must be as many as the parameters. -/
def expand (m : Method) (arguments : List Text) (site : Option Line) :
    Except Failure (List Line) :=
  if arguments.length = m.arity then
    match site with
    | some call => .ok (m.linesAt arguments call)
    | none => .ok (m.linesInPlace arguments)
  else .error (.expansionCount m.name m.arity arguments.length)

/-- A method as it is shown in the journal. -/
def summary (m : Method) : Text :=
  "Method(".toList ++ m.name ++ "(".toList ++ Text.join ", ".toList m.parameters ++ "), ".toList
    ++ Text.ofNat m.body.length ++ " line(s))".toList

end Method

end Plotter
