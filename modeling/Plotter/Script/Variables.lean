import Plotter.Dictionary
import Plotter.Failure

/-!
# Variables

Variables are created by their first assignment and live as long as the store; there is one flat
store.  A host may set a variable to any value that can be read as an integer: a double loses its
fraction, a text is read as a numeral.
-/

namespace Plotter

/-- The whole part of a double. -/
def truncate (x : Float) : Except Failure Int :=
  match Double.parts x with
  | .nan => .error (.numeral .notANumeral)
  | .infinite _ => .error .tooLarge
  | .finite negative magnitude =>
    .ok (if negative then -(magnitude.floor : Int) else magnitude.floor)

/-- The integer that a value stands for. -/
def Value.toInteger : Value → Except Failure Int
  | .int n => .ok n
  | .bool b => .ok (if b then 1 else 0)
  | .float x => truncate x
  | .text t =>
    match Text.readInteger t with
    | .ok n => .ok n
    | .error e => .error (.numeral e)
  | _ => .error .wrongKind

abbrev Variables := Dictionary Int

namespace Variables

/-- The value of a variable that has been set. -/
def read (v : Variables) (name : Text) : Except Failure Int :=
  match v.get? name with
  | some value => .ok value
  | none => .error .unsetVariable

/-- Sets a variable to a value of any kind. -/
def assign (v : Variables) (name : Text) (value : Value) : Except Failure Variables := do
  return v.set name (← value.toInteger)

/-- All variables in the order of their first assignment. -/
def summary (v : Variables) : Text :=
  "VariableStore(".toList
    ++ (Value.map (v.entries.map fun entry => (.text entry.1, .int entry.2))).shown
    ++ ")".toList

end Variables

end Plotter
