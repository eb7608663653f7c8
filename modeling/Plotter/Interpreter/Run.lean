import Plotter.Interpreter.Step
import Plotter.Machine.Run

/-!
# Runs of an interpreter

The operations of a host on an interpreter.  A fault is recorded and its line is over.  A failure
ends the whole operation and leaves the interpreter as the line has left it.
-/

namespace Plotter.Interpreter

variable {ε : Type}

/-- A fresh interpreter on the same surface, which takes the colour of the pen. -/
def reset (settings : Settings) (e : Interpreter ε) : Interpreter ε where
  pen := settings.pen
  surface := (e.machine.takeColor settings.penColor).surface
  journal := e.journal

def create (settings : Settings) (surface : Surface ε) : Interpreter ε :=
  reset settings { surface := surface }

/-- Sets a property of the surface. -/
def setProperty (e : Interpreter ε) (property : Property) (v : Value) : Exit ε :=
  e.after (e.machine.setProperty property v)

/-- Records what is wrong with a line. -/
def reportFault (e : Interpreter ε) (d : Diagnostic) : Interpreter ε :=
  let noted := e.log (.reported d.line d.message)
  { noted with report := noted.report.add d }

/-- A fault is recorded, and only a failure remains. -/
def Exit.settled (x : Exit ε) : Interpreter ε × Option Failure :=
  match x.stop with
  | none => (x.interpreter, none)
  | some (.fault f) => (x.interpreter.reportFault f.diagnostic, none)
  | some (.failure f) => (x.interpreter, some f)

/-- Takes a line and records what is wrong with it. -/
def feedLine (settings : Settings) (line : Line) (e : Interpreter ε) :
    Option (Interpreter ε × Option Failure) :=
  (step settings.maxCallDepth line e).map Exit.settled

/-- Takes lines one after another, up to the first failure. -/
def feedLines (settings : Settings) :
    List Line → Interpreter ε → Option (Interpreter ε × Option Failure)
  | [], e => some (e, none)
  | line :: rest, e => do
    match ← feedLine settings line e with
    | (next, none) => feedLines settings rest next
    | failed => return failed

/-- Takes a piece of input. -/
def feed (settings : Settings) (text : Text) (number : Option Int) (e : Interpreter ε) :
    Option (Interpreter ε × Option Failure) :=
  feedLines settings (Machine.typedLines text number) e

/-- What is still open, in the order in which it is reported. -/
def openBlocks (e : Interpreter ε) : List Fault :=
  (e.definition.map fun b => ⟨.unterminated .method, b.openedAt⟩).toList
    ++ (e.loop.map fun b => ⟨.unterminated .loop, b.openedAt⟩).toList
    ++ e.conditions.reverse.map fun branch => ⟨.unterminated .conditional, branch.openedAt⟩

/-- Forgets everything that is still open. -/
def discardBlocks (e : Interpreter ε) : Interpreter ε :=
  { e with definition := none, loop := none, conditions := [] }

/-- Ends the input: reports and drops what is still open. -/
def finish (e : Interpreter ε) : Interpreter ε :=
  (e.openBlocks.foldl (fun e f => e.reportFault f.diagnostic) e).discardBlocks

/-- Takes lines until one produces a diagnostic; whether one did. -/
def runStopping (settings : Settings) :
    List Line → Interpreter ε → Option (Interpreter ε × Bool × Option Failure)
  | [], e => some (e, false, none)
  | line :: rest, e => do
    match ← feedLine settings line e with
    | (next, some f) => return (next, false, some f)
    | (next, none) =>
      if e.report.diagnostics.length < next.report.diagnostics.length then
        return (next.log (.stopping line.number), true, none)
      else runStopping settings rest next

/-- Runs the lines of a script on an interpreter that has been reset. -/
def runLines (settings : Settings) (lines : List Line) (e : Interpreter ε) :
    Option (Interpreter ε × Except Failure Result) := do
  if settings.stopOnError then
    match ← runStopping settings lines e with
    | (last, _, some f) => return (last, .error f)
    | (last, true, none) =>
      return (last.discardBlocks, .ok (last.discardBlocks.machine.result true))
    | (last, false, none) => return (last.finish, .ok (last.finish.machine.result false))
  else
    match ← feedLines settings lines e with
    | (last, some f) => return (last, .error f)
    | (last, none) => return (last.finish, .ok (last.finish.machine.result false))

/-- Runs a whole script from a fresh state. -/
def run (settings : Settings) (source : Text) (filename : Option Text) (e : Interpreter ε) :
    Option (Interpreter ε × Except Failure Result) :=
  runLines settings (Line.ofSource source filename) (reset settings e)

end Plotter.Interpreter
