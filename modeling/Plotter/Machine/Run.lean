import Plotter.Machine.Step
import Plotter.Settings

/-!
# Runs

A host either runs a whole script, which starts from a fresh state, or feeds lines one at a time.
A fault ends its line only: it is recorded and the next line runs.  Blocks that are open at the
end of the input are reported and dropped.  Under `stopOnError` the first line with a fault is the
last, and what is open then is dropped without a word.
-/

namespace Plotter

/-- What a run came to. -/
structure Result where
  success : Bool
  stopped : Bool
  x : Int
  y : Int
  store : Dictionary Int
  methods : List Text
  diagnostics : List Diagnostic

def Result.errors (r : Result) : List Diagnostic := r.diagnostics.filter Diagnostic.isError

/-- All error messages in one line; none after a clean run. -/
def Result.errorMessage? (r : Result) : Option Text :=
  match r.errors with
  | [] => none
  | errors =>
    some (Text.join "; ".toList (errors.map fun d =>
      "line ".toList ++ Text.ofInt d.line ++ ": ".toList ++ d.message))

/-- The pen with which a run starts. -/
def Settings.pen (s : Settings) : Pen := { color := s.penColor.word, fill := s.fill }

namespace Machine

variable {ε : Type}

/-- A fresh state, in which the surface has the colour of the pen. -/
def reset (settings : Settings) (m : Machine ε) : Machine ε :=
  { m with state := { pen := settings.pen } }.takeColor settings.penColor

/-- A machine on a surface. -/
def create (settings : Settings) (surface : Surface ε) : Machine ε :=
  reset settings { surface := surface }

/-- Takes a line outside of any call and any replay. -/
def take (settings : Settings) (line : Line) (m : Machine ε) : Outcome ε :=
  step settings.maxCallDepth.text settings.maxCallDepth.toNat {} line m

/-- A fault is recorded, and only a failure remains. -/
def settled (o : Outcome ε) : Machine ε × Option Failure :=
  match o.stop with
  | none => (o.machine, none)
  | some (.fault f) => (o.machine.reportFault {} f.diagnostic, none)
  | some (.failure f) => (o.machine, some f)

/-- Takes a line and records what is wrong with it. -/
def feedLine (settings : Settings) (line : Line) (m : Machine ε) : Machine ε × Option Failure :=
  settled (take settings line m)

/-- Takes lines one after another, up to the first failure. -/
def feedLines (settings : Settings) : List Line → Machine ε → Machine ε × Option Failure
  | [], m => (m, none)
  | line :: rest, m =>
    match feedLine settings line m with
    | (next, none) => feedLines settings rest next
    | failed => failed

/-- The lines of a piece of input.  They carry the given number, if it is not zero. -/
def typedLines (text : Text) (number : Option Int) : List Line :=
  let lines := Line.ofSource text none
  match number with
  | none => lines
  | some 0 => lines
  | some n => lines.map fun line => { line with number := n }

/-- Takes a piece of input. -/
def feed (settings : Settings) (text : Text) (number : Option Int) (m : Machine ε) :
    Machine ε × Option Failure :=
  feedLines settings (typedLines text number) m

/-- What is still open, in the order in which it is reported. -/
def openBlocks (s : State) : List Fault :=
  let block : List Fault := match s.mode with
    | .idle => []
    | .loop b => [⟨.unterminated .loop, b.openedAt⟩]
    | .method b => [⟨.unterminated .method, b.openedAt⟩]
  block ++ s.conditions.reverse.map fun branch =>
    ⟨.unterminated .conditional, branch.openedAt⟩

/-- Ends the input: reports and drops what is still open. -/
def finish (m : Machine ε) : Machine ε :=
  let faults := openBlocks m.state
  (faults.foldl (fun m f => m.reportFault {} f.diagnostic) m).modifyState State.discardBlocks

def result (stopped : Bool) (m : Machine ε) : Result where
  success := !m.state.report.hasErrors
  stopped := stopped
  x := m.state.pen.x
  y := m.state.pen.y
  store := m.state.store
  methods := Text.sort m.state.methods.names
  diagnostics := m.state.report.diagnostics

/-- Takes lines until one produces a diagnostic; whether one did. -/
def runStopping (settings : Settings) : List Line → Machine ε → Machine ε × Bool × Option Failure
  | [], m => (m, false, none)
  | line :: rest, m =>
    let before := m.state.report.diagnostics.length
    match feedLine settings line m with
    | (next, some f) => (next, false, some f)
    | (next, none) =>
      if before < next.state.report.diagnostics.length then
        (next.log {} (.stopping line.number), true, none)
      else runStopping settings rest next

/-- Runs the lines of a script on a machine that has been reset. -/
def runLines (settings : Settings) (lines : List Line) (m : Machine ε) :
    Machine ε × Except Failure Result :=
  if settings.stopOnError then
    match runStopping settings lines m with
    | (last, _, some f) => (last, .error f)
    | (last, true, none) =>
      let closed := last.modifyState State.discardBlocks
      (closed, .ok (closed.result true))
    | (last, false, none) => (last.finish, .ok (last.finish.result false))
  else
    match feedLines settings lines m with
    | (last, some f) => (last, .error f)
    | (last, none) => (last.finish, .ok (last.finish.result false))

/-- Runs a whole script from a fresh state. -/
def run (settings : Settings) (source : Text) (filename : Option Text) (m : Machine ε) :
    Machine ε × Except Failure Result :=
  runLines settings (Line.ofSource source filename) (reset settings m)

end Machine

end Plotter
