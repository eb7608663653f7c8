import Plotter.Configuration
import Plotter.Host
import Plotter.Journal

/-!
# The console

A command prints on two channels, writes files and asks for windows; `Console` is all of that so
far.  A `Dialogue` is a piece of a command: it adds to the console and gives a value, or it ends
the command.  What has been printed before the end stays.
-/

namespace Plotter.CommandLine

structure Console where
  /-- What was printed on the channel for results. -/
  out : Text := []
  /-- What was printed on the channel for messages. -/
  err : Text := []
  files : Files := {}
  calls : List WindowCall := []

/-- What ends a command before its work is done. -/
inductive Trouble where
  | failure (f : Failure)
  /-- The script is not UTF-8. -/
  | undecodable (e : DecodeError)
  /-- The settings file is not understood. -/
  | settings (e : Yaml.LoadError)

inductive Ending where
  | exit (code : Nat)
  | broken (t : Trouble)

abbrev Dialogue := ExceptT Ending (StateM Console)

/-- What a command came to. -/
structure Transcript where
  ending : Ending
  console : Console

namespace Dialogue

def print (t : Text) : Dialogue Unit := modify fun c => { c with out := c.out ++ t }

def printLine (t : Text) : Dialogue Unit := print (t ++ ['\n'])

def warn (t : Text) : Dialogue Unit := modify fun c => { c with err := c.err ++ t }

def warnLine (t : Text) : Dialogue Unit := warn (t ++ ['\n'])

/-- Shows the events that have at least a given rank. -/
def log (threshold : Nat) (events : List Event) : Dialogue Unit :=
  warn ((events.filter fun e => threshold ≤ e.level.rank).flatMap fun e => e.logLine ++ ['\n'])

/-- Prints reports one after another. -/
def warnAbout (diagnostics : List Diagnostic) : Dialogue Unit :=
  warn (diagnostics.flatMap fun d => d.format true ++ ['\n'])

def exit {α : Type} (code : Nat) : Dialogue α := throw (.exit code)

def breakOff {α : Type} (t : Trouble) : Dialogue α := throw (.broken t)

/-- Goes on with a value, or breaks off with a failure. -/
def orBreak {α : Type} : Except Failure α → Dialogue α
  | .ok a => pure a
  | .error f => breakOff (.failure f)

def files : Dialogue Files := return (← get).files

/-- Shows the drawing on a surface. -/
def display (writer : Drafting.Writer) (threshold : Nat) (stage : Stage) : Dialogue Unit := do
  let reply := stage.display writer (← files)
  modify fun c => { c with files := reply.files, calls := c.calls ++ reply.calls }
  log threshold (reply.notes.map .noted)
  let _ ← orBreak reply.value

/-- A whole command, whose value is its exit code. -/
def transcript (d : Dialogue Nat) (start : Console) : Transcript :=
  match d.run.run start with
  | (.ok code, last) => ⟨.exit code, last⟩
  | (.error ending, last) => ⟨ending, last⟩

end Dialogue

end Plotter.CommandLine
