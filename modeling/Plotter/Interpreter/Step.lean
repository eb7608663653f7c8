import Plotter.Interpreter.State

/-!
# One line of an interpreter

The recursion is the one of a program that calls itself: a call takes the lines of its method, the
end of a loop executes its lines, and both may call again.  What bounds it is a comparison with the
counter of calls, so the functions are least fixed points and have no value where they do not come
to an end; that they always do is a theorem.
-/

namespace Plotter.Interpreter

variable {ε : Type}

/-! ### Blocks -/

/-- Opens a loop, unless a replay is under way. -/
def openLoop (line : Line) (arguments : List Text) (e : Interpreter ε) : Exit ε :=
  if e.replaying ≠ 0 then e.fault line .nestedLoop
  else if !e.gateOpen then (e.withLoop (some { header := 0, openedAt := line })).done
  else
    match Evaluation.count e.store arguments with
    | .ok count => (e.withLoop (some { header := count, openedAt := line })).done
    | .error (.cause c) =>
      (e.withLoop (some { header := 0, openedAt := line, discarded := true })).fault line c
    | .error (.failure f) => e.fail f

/-- Opens a method definition. -/
def openMethod (line : Line) (e : Interpreter ε) : Exit ε :=
  match Header.parse? line.text with
  | some header =>
    (e.withDefinition (some { header := some header, openedAt := line })).done
  | none =>
    (e.withDefinition (some { header := none, openedAt := line, discarded := true })).fault line
      (.malformedHeader .method)

/-- Ends a method definition, which must have a header. -/
def closeMethod (block : Block (Option Header)) (e : Interpreter ε) : Exit ε :=
  match block.header with
  | some header =>
    let method : Method := ⟨header.name, header.parameters, block.body⟩
    (((e.withDefinition none).define method).log (.defined method)).done
  | none => e.fail .unknownMember

/-- Takes a line of a method that is being defined. -/
def defineLine (block : Block (Option Header)) (line : Line) (statement : Statement)
    (e : Interpreter ε) : Exit ε :=
  match block.fate .method line statement with
  | .stays next => (e.withDefinition (some next)).done
  | .spoils next => (e.withDefinition (some next)).fault line .nestedMethod
  | .vanishes =>
    ((e.log (.discarded .method block.openedAt.number)).withDefinition none).done
  | .completes => closeMethod block e

/-! ### Calls and replays -/

/-- A loop that the lines of a call have opened must also be closed by them. -/
def Exit.closed (x : Exit ε) : Exit ε :=
  match x.stop with
  | some _ => x
  | none =>
    match x.interpreter.loop with
    | some block => (x.interpreter.withLoop none).fault block.openedAt (.unterminated .loop)
    | none => x

/-- The end of a call: after a fault the loop and the conditionals of the call are dropped, and the
call is over in any case. -/
def Exit.leaveCall (depth : Nat) (x : Exit ε) : Exit ε :=
  (x.closed.afterFault fun e => (e.withLoop none).truncate depth).always fun e =>
    { e with callDepth := e.callDepth - 1 }

/-- The end of a replay: after a fault its conditionals are dropped, and it is over in any case. -/
def Exit.leaveReplay (depth : Nat) (x : Exit ε) : Exit ε :=
  (x.afterFault fun e => e.truncate depth).always fun e =>
    { e with replaying := e.replaying - 1 }

mutual

/-- Takes one line. -/
def step (limit : Count) (line : Line) (e : Interpreter ε) : Option (Exit ε) :=
  match Statement.classify line.text with
  | .error f => some (e.fail f)
  | .ok statement =>
    let noted := e.log (.line e.mode.activity line.text)
    match e.definition, e.loop with
    | some block, _ => some (noted.defineLine block line statement)
    | none, some block => noted |>.collectLine limit block line statement
    | none, none => noted |>.start limit line statement
partial_fixpoint

/-- Takes a line outside of blocks. -/
def start (limit : Count) (line : Line) (statement : Statement) (e : Interpreter ε) :
    Option (Exit ε) :=
  match statement with
  | .block .method true _ => some (e.fault line (.unmatchedClosing .method))
  | .block .method false _ => some (e.openMethod line)
  | .block .loop false arguments => some (e.openLoop line arguments)
  | other => e |>.execute limit line other
partial_fixpoint

/-- Takes a line of a loop that is being collected. -/
def collectLine (limit : Count) (block : Block Int) (line : Line) (statement : Statement)
    (e : Interpreter ε) : Option (Exit ε) :=
  match block.fate .loop line statement with
  | .stays next => some (e.withLoop (some next)).done
  | .spoils next => some ((e.withLoop (some next)).fault line .nestedLoop)
  | .vanishes => some ((e.log (.discarded .loop block.openedAt.number)).withLoop none).done
  | .completes => e |>.closeLoop limit block
partial_fixpoint

/-- Closes a loop by executing its lines as often as its count says. -/
def closeLoop (limit : Count) (block : Block Int) (e : Interpreter ε) : Option (Exit ε) := do
  let started := (e.withLoop none).log (.replaying block.body.length block.header.toNat)
  let replayed ← { started with replaying := started.replaying + 1 }
    |>.replay limit block.body block.header.toNat
  return replayed.leaveReplay e.conditions.length
partial_fixpoint

/-- Executes lines a number of times. -/
def replay (limit : Count) (lines : List Line) (rounds : Nat) (e : Interpreter ε) :
    Option (Exit ε) :=
  match rounds with
  | 0 => some e.done
  | rounds + 1 => do
    let x ← e |>.executeAll limit lines
    match x.stop with
    | none => x.interpreter |>.replay limit lines rounds
    | some _ => return x
partial_fixpoint

/-- Executes lines in order. -/
def executeAll (limit : Count) (lines : List Line) (e : Interpreter ε) : Option (Exit ε) :=
  match lines with
  | [] => some e.done
  | line :: rest =>
    match Statement.classify line.text with
    | .error f => some (e.fail f)
    | .ok statement => do
      let x ← e |>.execute limit line statement
      match x.stop with
      | none => x.interpreter |>.executeAll limit rest
      | some _ => return x
partial_fixpoint

/-- Executes a line that is not part of an open block. -/
def execute (limit : Count) (line : Line) (statement : Statement) (e : Interpreter ε) :
    Option (Exit ε) :=
  match statement with
  | .block .conditional true _ => some (e.after (e.machine.closeBranch line))
  | .block .conditional false arguments => some (e.after (e.machine.openBranch line arguments))
  | .block .loop true _ => some (e.fault line (.unmatchedClosing .loop))
  | .block .loop false _ => some (e.fault line .nestedLoop)
  | .block .method _ _ => some (e.fault line .nestedMethod)
  | other =>
    if !e.gateOpen then some (e.log (.skipped line.text)).done
    else
      match other with
      | .call invocation => e |>.call limit line invocation
      | .assignment name expression => some (e.after (e.machine.assign line name expression))
      | .command .. => some (e.after (e.machine.runCommand e.nesting line))
      | .invalid word _ => some (e.fault line (.unknownCommand (Machine.unknownWord line word)))
      | .block .. => some e.done
partial_fixpoint

/-- Calls a method, if there is one of that name with as many parameters and not too many calls are
under way. -/
def call (limit : Count) (line : Line) (invocation : Call) (e : Interpreter ε) :
    Option (Exit ε) :=
  match e.methods.get? invocation.name with
  | none => some (e.fault line (.undefinedMethod invocation.name))
  | some method =>
    if invocation.arguments.length ≠ method.arity then
      some (e.fault line
        (.argumentCount invocation.name method.arity invocation.arguments.length))
    else if limit.toNat ≤ e.callDepth then
      some (e.fault line (.callDepth invocation.name limit.text))
    else do
      let called ← { e with callDepth := e.callDepth + 1 }
        |>.stepAll limit (method.linesAt invocation.arguments line)
      return called.leaveCall e.conditions.length
partial_fixpoint

/-- Takes lines in order. -/
def stepAll (limit : Count) (lines : List Line) (e : Interpreter ε) : Option (Exit ε) :=
  match lines with
  | [] => some e.done
  | line :: rest => do
    let x ← e |>.step limit line
    match x.stop with
    | none => x.interpreter |>.stepAll limit rest
    | some _ => return x
partial_fixpoint

end

end Plotter.Interpreter
