import Plotter.Machine.Command
import Plotter.Script.Parameters
import Plotter.Script.Statement

/-!
# One line

`step` takes one line.  In an open block the line is collected.  Otherwise it opens a block or is
executed at once: a conditional opens or closes a branch, a call runs the lines of its method
through the machine, an assignment sets a variable, and a command draws.  The line that closes a
loop executes the lines of the loop as often as its count says.

The lines of a method may call methods again, up to a number of nested calls.  `room` is how many
more calls may be nested, and every call has less of it than the line that makes it, so the
machine always comes to an end.  A replayed line never opens a block: loops do not nest, neither
in the text nor through a call.
-/

namespace Plotter

/-- A way of running a line under a nesting of calls and replays. -/
abbrev Runner (ε : Type) := Nesting → Line → Machine ε → Outcome ε

namespace Machine

variable {ε : Type}

/-- After a fault, what was opened since is closed again; after a failure nothing is done. -/
def restoring (restore : State → State) (o : Outcome ε) : Outcome ε :=
  match o.stop with
  | some (.fault _) => { o with machine := o.machine.modifyState restore }
  | _ => o

/-- A loop that was opened by the lines of a call must also be closed by them. -/
def requireClosedLoop (m : Machine ε) : Outcome ε :=
  match m.state.mode with
  | .loop block =>
    (m.modifyState fun s => { s with mode := .idle }).fault block.openedAt (.unterminated .loop)
  | _ => m.done

/-- Runs the lines of a method in place of the call. -/
def enter (deeper : Runner ε) (nesting : Nesting) (lines : List Line) (m : Machine ε) :
    Outcome ε :=
  let depth := m.state.depth
  restoring (fun s => { s with mode := s.mode.withoutLoop }.truncate depth) <|
    (runAll (deeper { nesting with calls := nesting.calls + 1 }) lines m).andThen
      requireClosedLoop

/-- Calls a method, if there is one of that name with as many parameters and there is room for
one more call. -/
def call (deeper : Option (Runner ε)) (limit : Text) (nesting : Nesting) (line : Line)
    (invocation : Call) (m : Machine ε) : Outcome ε :=
  match m.state.methods.get? invocation.name with
  | none => m.fault line (.undefinedMethod invocation.name)
  | some method =>
    if invocation.arguments.length ≠ method.arity then
      m.fault line
        (.argumentCount invocation.name method.arity invocation.arguments.length)
    else
      match deeper with
      | none => m.fault line (.callDepth invocation.name limit)
      | some runner => enter runner nesting (method.linesAt invocation.arguments line) m

/-- Opens a branch.  Under a closed gate the condition is not looked at; a condition that cannot
be evaluated opens a branch that is not taken. -/
def openBranch (line : Line) (arguments : List Text) (m : Machine ε) : Outcome ε :=
  if !m.state.gateOpen then (m.modifyState fun s => s.push false line).done
  else
    match Evaluation.condition m.state.store (Text.unwords arguments) with
    | .ok taken => (m.modifyState fun s => s.push taken line).done
    | .error (.cause c) => (m.modifyState fun s => s.push false line).fault line c
    | .error (.failure f) => m.fail f

def closeBranch (line : Line) (m : Machine ε) : Outcome ε :=
  match m.state.conditions with
  | [] => m.fault line (.unmatchedClosing .conditional)
  | _ :: outer => (m.modifyState fun s => { s with conditions := outer }).done

def assign (line : Line) (name expression : Text) (m : Machine ε) : Outcome ε :=
  match Evaluation.expression m.state.store expression with
  | .ok value => (m.modifyState fun s => s.setVariable name value).done
  | .error p => m.stopWith (p.stopAt line)

/-- Replaces the variables among the words of a line, checks the words after the first and draws.
The first word is looked up again once the variables are replaced. -/
def runCommand (nesting : Nesting) (line : Line) (m : Machine ε) : Outcome ε :=
  match Substitution.words m.state.store line.words with
  | .error e => m.fail (.numeral e)
  | .ok [] => m.fail .missingItem
  | .ok (word :: arguments) =>
    match Keyword.ofWord? word with
    | none => m.fail .unknownMember
    | some keyword =>
      match checkCommand keyword.word (some keyword) arguments with
      | some cause => m.fault line cause
      | none => m.command nesting keyword arguments

/-- The word by which a line is reported that is nothing the machine knows. -/
def unknownWord (line : Line) : Option Text → Text
  | some word => if word.isEmpty then line.head else word
  | none => line.head

/-- Executes a line that is not part of an open block. -/
def execute (deeper : Option (Runner ε)) (limit : Text) (nesting : Nesting) (line : Line)
    (statement : Statement) (m : Machine ε) : Outcome ε :=
  match statement with
  | .block .conditional true _ => closeBranch line m
  | .block .conditional false arguments => openBranch line arguments m
  | .block .loop true _ => m.fault line (.unmatchedClosing .loop)
  | .block .loop false _ => m.fault line .nestedLoop
  | .block .method _ _ => m.fault line .nestedMethod
  | other =>
    if !m.state.gateOpen then (m.log nesting (.skipped line.text)).done
    else
      match other with
      | .call invocation => call deeper limit nesting line invocation m
      | .assignment name expression => assign line name expression m
      | .command .. => runCommand nesting line m
      | .invalid word _ => m.fault line (.unknownCommand (unknownWord line word))
      | .block .. => m.done

/-- Classifies a line and goes on with the statement that it is. -/
@[inline] def classified (line : Line) (m : Machine ε)
    (next : Statement → Outcome ε) : Outcome ε :=
  match Statement.classify line.text with
  | .ok statement => next statement
  | .error f => m.fail f

/-- Executes the lines of a loop once. -/
def replayOnce (deeper : Option (Runner ε)) (limit : Text) (nesting : Nesting)
    (body : List Line) (m : Machine ε) : Outcome ε :=
  runAll (fun line m => classified line m fun statement =>
    execute deeper limit nesting line statement m) body m

/-- Closes a loop by executing its lines as often as its count says. -/
def closeLoop (deeper : Option (Runner ε)) (limit : Text) (nesting : Nesting)
    (block : Block Nat) (m : Machine ε) : Outcome ε :=
  let depth := m.state.depth
  let inner := { nesting with replays := nesting.replays + 1 }
  let closed := (m.modifyState fun s => { s with mode := .idle }).log nesting
    (.replaying block.body.length block.header)
  restoring (fun s => s.truncate depth) <|
    repeated (replayOnce deeper limit inner block.body) block.header closed

/-- Opens a loop.  Under a closed gate its count is not looked at; a count that cannot be
evaluated opens a loop that is discarded. -/
def openLoop (nesting : Nesting) (line : Line) (arguments : List Text) (m : Machine ε) :
    Outcome ε :=
  let opened (block : Block Nat) := m.modifyState fun s => { s with mode := .loop block }
  if 0 < nesting.replays then m.fault line .nestedLoop
  else if !m.state.gateOpen then (opened { header := 0, openedAt := line }).done
  else
    match Evaluation.loopCount m.state.store arguments with
    | .ok count => (opened { header := count, openedAt := line }).done
    | .error (.cause c) =>
      (opened { header := 0, openedAt := line, discarded := true }).fault line c
    | .error (.failure f) => m.fail f

/-- Opens a method definition; a malformed one is read and discarded. -/
def openMethod (line : Line) (m : Machine ε) : Outcome ε :=
  let opened (block : Block (Option Header)) :=
    m.modifyState fun s => { s with mode := .method block }
  match Header.parse? line.text with
  | some header => (opened { header := some header, openedAt := line }).done
  | none =>
    (opened { header := none, openedAt := line, discarded := true }).fault line
      (.malformedHeader .method)

/-- Ends a method definition, which must have a header. -/
def closeMethod (nesting : Nesting) (block : Block (Option Header)) (m : Machine ε) : Outcome ε :=
  match block.header with
  | some header =>
    let method : Method := ⟨header.name, header.parameters, block.body⟩
    let idle := m.modifyState fun s => { s with mode := .idle }
    ((idle.modifyState fun s => s.define method).log nesting (.defined method)).done
  | none => m.fail .unknownMember

/-- What a line does to an open block: keep it, open or close an inner block, or end it. -/
def collect {α : Type} (kind : BlockKind) (nestedCause : Cause) (block : Block α)
    (rewrap : Block α → Mode) (close : Machine ε → Outcome ε) (nesting : Nesting) (line : Line)
    (statement : Statement) (m : Machine ε) : Outcome ε :=
  let keep (b : Block α) := m.modifyState fun s => { s with mode := rewrap b }
  match statement with
  | .block found closes _ =>
    if found ≠ kind then (keep (block.keep line)).done
    else if !closes then
      let deeper := keep { block with nested := block.nested + 1, discarded := true }
      if block.discarded then deeper.done else deeper.fault line nestedCause
    else if 0 < block.nested then (keep { block with nested := block.nested - 1 }).done
    else if block.discarded then
      ((m.log nesting (.discarded kind block.openedAt.number)).modifyState
        fun s => { s with mode := .idle }).done
    else close m
  | _ => (keep (block.keep line)).done

/-- Takes a line that is not part of an open block. -/
def start (deeper : Option (Runner ε)) (limit : Text) (nesting : Nesting) (line : Line)
    (statement : Statement) (m : Machine ε) : Outcome ε :=
  match statement with
  | .block .method true _ => m.fault line (.unmatchedClosing .method)
  | .block .method false _ => openMethod line m
  | .block .loop false arguments => openLoop nesting line arguments m
  | other => execute deeper limit nesting line other m

/-- Takes one line, with a way to run the lines of a call if there is room for one. -/
def stepWith (deeper : Option (Runner ε)) (limit : Text) (nesting : Nesting) (line : Line)
    (m : Machine ε) : Outcome ε :=
  classified line m fun statement =>
    let mode := m.state.mode
    let noted := m.log nesting (.line mode.activity line.text)
    match mode with
    | .method block =>
      collect .method .nestedMethod block .method (closeMethod nesting block) nesting line
        statement noted
    | .loop block =>
      collect .loop .nestedLoop block .loop (closeLoop deeper limit nesting block) nesting line
        statement noted
    | .idle => start deeper limit nesting line statement noted

/-- Takes one line when `room` more calls may be nested; `limit` is how a report shows the
greatest number of nested calls. -/
def step (limit : Text) : (room : Nat) → Runner ε
  | 0 => stepWith none limit
  | room + 1 => stepWith (some (step limit room)) limit

end Machine

end Plotter
