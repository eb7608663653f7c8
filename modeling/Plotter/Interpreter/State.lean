import Plotter.Machine.Step
import Plotter.Settings

/-!
# The state of an interpreter

The machine holds at most one open block by its type, and it is told how deep it is in calls and in
replays.  An interpreter keeps both itself: a buffer for an open loop, another one for an open
method, and two counters that it raises on the way into a call or a replay and has to lower on every
way out.  Nothing in its type says that only one buffer is in use or that the counters come back to
zero.

What has nothing to do with buffers and counters is done by the machine that stands for the
interpreter (`Interpreter.machine`), and taken over from there.
-/

namespace Plotter

/-- The same block under another header. -/
def Block.under {α β : Type} (b : Block α) (header : β) : Block β :=
  { header := header, openedAt := b.openedAt, body := b.body, discarded := b.discarded,
    nested := b.nested }

/-- What a line makes of the block that is open when it is read. -/
inductive Block.Fate (α : Type) where
  | stays (block : Block α)
  /-- An inner block has been opened, which is not allowed. -/
  | spoils (block : Block α)
  | vanishes
  | completes

/-- What becomes of an open block of a kind at a line. -/
def Block.fate {α : Type} (kind : BlockKind) (b : Block α) (line : Line) :
    Statement → Block.Fate α
  | .block found closes _ =>
    if found ≠ kind then .stays (b.keep line)
    else if !closes then
      let deeper := { b with nested := b.nested + 1, discarded := true }
      if b.discarded then .stays deeper else .spoils deeper
    else if 0 < b.nested then .stays { b with nested := b.nested - 1 }
    else if b.discarded then .vanishes
    else .completes
  | _ => .stays (b.keep line)

/-- The count of a loop with the given arguments, which must not be negative. -/
def Evaluation.count (store : Dictionary Int) : List Text → Except Problem Int
  | [argument] => do
    let count ← term store argument
    if count < 0 then .error (negativeCount count) else return count
  | _ => .error (.cause (.malformedHeader .loop))

structure Interpreter (ε : Type) where
  store : Dictionary Int := .empty
  methods : Dictionary Method := .empty
  pen : Pen := {}
  /-- The open conditionals, the innermost first. -/
  conditions : List Branch := []
  /-- The loop that is being collected, under its count. -/
  loop : Option (Block Int) := none
  /-- The method that is being defined, under its header if that is well-formed. -/
  definition : Option (Block (Option Header)) := none
  report : Report := {}
  /-- The number of calls that are under way. -/
  callDepth : Int := 0
  /-- The number of replays that are under way. -/
  replaying : Int := 0
  surface : Surface ε
  journal : Array JournalEntry := #[]

namespace Interpreter

variable {ε : Type}

/-- The interpreter after a line, and the reason why the line came to an early end. -/
structure Exit (ε : Type) where
  interpreter : Interpreter ε
  stop : Option Stop := none

def done (e : Interpreter ε) : Exit ε := ⟨e, none⟩

/-- Ends a line with a cause that the script is to blame for. -/
def fault (e : Interpreter ε) (line : Line) (cause : Cause) : Exit ε :=
  ⟨e, some (.fault ⟨cause, line⟩)⟩

def fail (e : Interpreter ε) (f : Failure) : Exit ε := ⟨e, some (.failure f)⟩

/-- What is done with the next line; a method that is being defined comes first. -/
def mode (e : Interpreter ε) : Mode :=
  match e.definition, e.loop with
  | some block, _ => .method block
  | none, some block => .loop (block.under block.header.toNat)
  | none, none => .idle

def nesting (e : Interpreter ε) : Nesting := ⟨e.callDepth.toNat, e.replaying.toNat⟩

/-- The machine that stands for an interpreter. -/
def machine (e : Interpreter ε) : Machine ε where
  state :=
    { store := e.store, methods := e.methods, pen := e.pen, conditions := e.conditions
      mode := e.mode, report := e.report }
  surface := e.surface
  journal := e.journal

/-- The interpreter after its machine has done something.  Buffers and counters stay. -/
def after (e : Interpreter ε) (o : Outcome ε) : Exit ε where
  interpreter :=
    { e with
      store := o.machine.state.store, methods := o.machine.state.methods
      pen := o.machine.state.pen, conditions := o.machine.state.conditions
      report := o.machine.state.report, surface := o.machine.surface
      journal := o.machine.journal }
  stop := o.stop

/-- The interpreter with another buffer for a loop. -/
def withLoop (e : Interpreter ε) (buffer : Option (Block Int)) : Interpreter ε :=
  { e with loop := buffer }

/-- The interpreter with another buffer for a method. -/
def withDefinition (e : Interpreter ε) (buffer : Option (Block (Option Header))) : Interpreter ε :=
  { e with definition := buffer }

def define (e : Interpreter ε) (m : Method) : Interpreter ε :=
  { e with methods := e.methods.set m.name m }

def log (e : Interpreter ε) (event : Event) : Interpreter ε :=
  { e with journal := e.journal.push ⟨event, e.nesting⟩ }

def gateOpen (e : Interpreter ε) : Bool := e.conditions.all Branch.taken

/-- Drops the conditionals that were opened beyond a depth. -/
def truncate (e : Interpreter ε) (depth : Nat) : Interpreter ε :=
  { e with conditions := e.conditions.drop (e.conditions.length - depth) }

namespace Exit

/-- What is done after a fault, and not after a failure. -/
def afterFault (x : Exit ε) (restore : Interpreter ε → Interpreter ε) : Exit ε :=
  match x.stop with
  | some (.fault _) => { x with interpreter := restore x.interpreter }
  | _ => x

/-- What is done in any case, after a failure too. -/
def always (x : Exit ε) (restore : Interpreter ε → Interpreter ε) : Exit ε :=
  { x with interpreter := restore x.interpreter }

end Exit

end Interpreter

end Plotter
