import Plotter.Dictionary
import Plotter.Report
import Plotter.Script.Method
import Plotter.Script.Signature
import Plotter.Surface.Figure

/-!
# The state of the machine

Between two lines the machine holds the variables, the methods, the pen, the open conditionals
and at most one open block.  While a loop or a method is open its lines are collected and not
run, so an open block is a mode of the machine: there is one or none.

A block that turns out to be wrong is not dropped at once.  It is marked as discarded and read up
to its own closing line, with the blocks of the same kind inside it counted, so that the closing
line is found where the script has it.
-/

namespace Plotter

/-- The drawing cursor. -/
structure Pen where
  x : Int := 0
  y : Int := 0
  color : Text := "black".toList
  fill : Bool := true
  deriving DecidableEq, Repr

def Pen.position (p : Pen) : Point := Point.ofInts p.x p.y

def Pen.moveTo (p : Pen) (x y : Int) : Pen := { p with x := x, y := y }

/-- Back to the origin; colour and fill mode are kept. -/
def Pen.home (p : Pen) : Pen := p.moveTo 0 0

/-- An open conditional. -/
structure Branch where
  taken : Bool
  openedAt : Line
  deriving DecidableEq, Repr

/-- A block that is being collected, under a header of some type. -/
structure Block (α : Type) where
  header : α
  openedAt : Line
  body : List Line := []
  discarded : Bool := false
  /-- The number of blocks of the same kind that are open inside. -/
  nested : Nat := 0

/-- What happens to the next line.  A loop is collected under its count; a method whose header is
malformed is collected under none. -/
inductive Mode where
  | idle
  | loop (block : Block Nat)
  | method (block : Block (Option Header))

structure State where
  store : Dictionary Int := .empty
  methods : Dictionary Method := .empty
  pen : Pen := {}
  /-- The open conditionals, the innermost first. -/
  conditions : List Branch := []
  mode : Mode := .idle
  report : Report := {}

def Block.keep {α : Type} (b : Block α) (line : Line) : Block α :=
  if b.discarded then b else { b with body := b.body ++ [line] }

inductive Activity where
  | idle | collectingLoop | definingMethod
  deriving DecidableEq, Repr

def Activity.text : Activity → Text
  | .idle => "idle".toList
  | .collectingLoop => "collecting-loop".toList
  | .definingMethod => "defining-method".toList

def Mode.activity : Mode → Activity
  | .idle => .idle
  | .loop _ => .collectingLoop
  | .method _ => .definingMethod

/-- The mode without an open loop. -/
def Mode.withoutLoop : Mode → Mode
  | .loop _ => .idle
  | mode => mode

namespace State

/-- Lines take effect only if every enclosing condition is true. -/
def gateOpen (s : State) : Bool := s.conditions.all Branch.taken

/-- The number of open conditionals. -/
def depth (s : State) : Nat := s.conditions.length

def push (s : State) (taken : Bool) (line : Line) : State :=
  { s with conditions := ⟨taken, line⟩ :: s.conditions }

/-- Drops the conditionals that were opened beyond a depth. -/
def truncate (s : State) (depth : Nat) : State :=
  { s with conditions := s.conditions.drop (s.depth - depth) }

/-- Forgets everything that is still open. -/
def discardBlocks (s : State) : State := { s with mode := .idle, conditions := [] }

def setVariable (s : State) (name : Text) (value : Int) : State :=
  { s with store := s.store.set name value }

def define (s : State) (m : Method) : State := { s with methods := s.methods.set m.name m }

def addDiagnostic (s : State) (d : Diagnostic) : State := { s with report := s.report.add d }

end State

end Plotter
