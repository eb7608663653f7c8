import Plotter.Journal
import Plotter.Script.Evaluation
import Plotter.Surface.Basic

/-!
# The machine

A machine is a state, the surface it draws on and its journal.  Everything that a line does is a
function from a machine to an `Outcome`: the machine afterwards, and the reason why the line came
to an early end, if it did.  What was done before an early end stays done.
-/

namespace Plotter

structure Machine (ε : Type) where
  state : State := {}
  surface : Surface ε
  journal : Array JournalEntry := #[]

structure Outcome (ε : Type) where
  machine : Machine ε
  stop : Option Stop := none

namespace Outcome

variable {ε : Type}

/-- Goes on unless there was an early end. -/
@[inline] def andThen (o : Outcome ε) (next : Machine ε → Outcome ε) : Outcome ε :=
  match o with
  | ⟨m, none⟩ => next m
  | stopped => stopped

end Outcome

namespace Machine

variable {ε : Type}

def done (m : Machine ε) : Outcome ε := ⟨m, none⟩

def stopWith (m : Machine ε) (s : Stop) : Outcome ε := ⟨m, some s⟩

/-- Ends a line with a cause that the script is to blame for. -/
def fault (m : Machine ε) (line : Line) (cause : Cause) : Outcome ε :=
  m.stopWith (.fault ⟨cause, line⟩)

def fail (m : Machine ε) (f : Failure) : Outcome ε := m.stopWith (.failure f)

def log (m : Machine ε) (nesting : Nesting) (e : Event) : Machine ε :=
  { m with journal := m.journal.push ⟨e, nesting⟩ }

def logNotes (m : Machine ε) (nesting : Nesting) (notes : List Note) : Machine ε :=
  notes.foldl (fun m n => m.log nesting (.noted n)) m

@[inline] def modifyState (m : Machine ε) (f : State → State) : Machine ε :=
  { m with state := f m.state }

@[inline] def modifyPen (m : Machine ε) (f : Pen → Pen) : Machine ε :=
  { m with state := { m.state with pen := f m.state.pen } }

/-- Gives a property of the surface a value that it takes. -/
def putProperty (m : Machine ε) (property : Property) (v : Value) : Machine ε :=
  { m with surface := m.surface.put property v }

/-- Sets a property of the surface. -/
def setProperty (m : Machine ε) (property : Property) (v : Value) : Outcome ε :=
  match m.surface.set property v with
  | .ok surface => done { m with surface := surface }
  | .error f => m.fail f

/-- Draws a figure. -/
def draw (m : Machine ε) (nesting : Nesting) (f : Figure) : Outcome ε :=
  let ⟨state, before, journal⟩ := m
  let (surface, notes, failure) := before.draw f
  let drawn := (Machine.mk state surface journal).logNotes nesting notes
  match failure with
  | none => drawn.done
  | some reason => drawn.fail reason

def clearSurface (m : Machine ε) (nesting : Nesting) : Machine ε :=
  let ⟨state, before, journal⟩ := m
  let (surface, notes) := before.clear
  (Machine.mk state surface journal).logNotes nesting notes

/-- Records what is wrong with a line. -/
def reportFault (m : Machine ε) (nesting : Nesting) (d : Diagnostic) : Machine ε :=
  (m.log nesting (.reported d.line d.message)).modifyState fun s => s.addDiagnostic d

/-- Runs the lines in order, up to the first early end. -/
def runAll (step : Line → Machine ε → Outcome ε) : List Line → Machine ε → Outcome ε
  | [], m => m.done
  | line :: rest, m => (step line m).andThen fun next => runAll step rest next

/-- Does something a number of times, up to the first early end. -/
def repeated (body : Machine ε → Outcome ε) : Nat → Machine ε → Outcome ε
  | 0, m => m.done
  | rounds + 1, m => (body m).andThen fun next => repeated body rounds next

end Machine

end Plotter
