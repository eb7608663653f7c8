import Plotter.Interpreter.Step
import Plotter.Proofs.Machine.Footprint
import Plotter.Proofs.Outcome

/-!
# The interpreter and its machine

A machine under a nesting is an interpreter with one buffer in use at most, a count that is not
negative and the counters of the nesting.  Started as such, the interpreter does what the machine
does, and is such an interpreter again.

## Main result

`step_interpreter`: a line has a value, and it is that of the machine.  So the counters are what
they were before, whether the line ended well, with a fault or with a failure.

## Proof strategy

The interpreter bounds its calls by its counter and the machine by the room that is left, so the two
have to add up to the limit (`Simulated`).  The recursion on the room of the machine is the
induction; inside it lines are taken one by one and rounds one by one, on both sides alike.
-/

namespace Plotter

/-- The block of a loop, with an integer as its count. -/
def Block.counted (b : Block Nat) : Block Int := b.under (b.header : Int)

/-- The buffer of an open loop. -/
def Mode.loop? : Mode → Option (Block Int)
  | .loop block => some block.counted
  | _ => none

/-- The buffer of an open method. -/
def Mode.definition? : Mode → Option (Block (Option Header))
  | .method block => some block
  | _ => none

/-- The interpreter for which a machine stands under a nesting. -/
def Machine.interpreter {ε : Type} (m : Machine ε) (nesting : Nesting) : Interpreter ε where
  store := m.state.store
  methods := m.state.methods
  pen := m.state.pen
  conditions := m.state.conditions
  loop := m.state.mode.loop?
  definition := m.state.mode.definition?
  report := m.state.report
  callDepth := nesting.calls
  replaying := nesting.replays
  surface := m.surface
  journal := m.journal

def Outcome.exit {ε : Type} (o : Outcome ε) (nesting : Nesting) : Interpreter.Exit ε :=
  ⟨o.machine.interpreter nesting, o.stop⟩

namespace Evaluation

variable {store : Dictionary Int} {arguments : List Text} {count : Int}

theorem loopCount_eq (store : Dictionary Int) (arguments : List Text) :
    loopCount store arguments = (Evaluation.count store arguments).map Int.toNat := by
  rcases arguments with _ | ⟨argument, _ | _⟩
  · rfl
  · simp only [loopCount, Evaluation.count]
    cases term store argument with
    | error e => rfl
    | ok count =>
      simp only [bind, Except.bind]
      split <;> rfl
  · rfl

theorem count_nonneg (counted : Evaluation.count store arguments = .ok count) : 0 ≤ count := by
  unfold Evaluation.count at counted
  split at counted
  · obtain ⟨value, _, rest⟩ := bind_eq_ok counted
    split at rest
    · cases rest
    · cases rest
      omega
  · cases counted

end Evaluation

namespace Interpreter

open Machine

variable {ε : Type} {limit : Count} {calls : Nat} {deeper : Option (Runner ε)} {m : Machine ε}
  {nesting : Nesting} {line : Line} {statement : Statement}

/-! ### What both have in common -/

@[simp] theorem mode_interpreter (m : Machine ε) (nesting : Nesting) :
    (m.interpreter nesting).mode = m.state.mode := by
  cases mode : m.state.mode <;>
    simp [Interpreter.mode, Machine.interpreter, mode, Mode.loop?, Mode.definition?, Block.counted,
      Block.under]

@[simp] theorem machine_interpreter (m : Machine ε) (nesting : Nesting) :
    (m.interpreter nesting).machine = m := by
  rw [machine, mode_interpreter]
  rfl

@[simp] theorem nesting_interpreter (m : Machine ε) (nesting : Nesting) :
    (m.interpreter nesting).nesting = nesting := by
  simp [Interpreter.nesting, Machine.interpreter]

@[simp] theorem gateOpen_interpreter (m : Machine ε) (nesting : Nesting) :
    (m.interpreter nesting).gateOpen = m.state.gateOpen := rfl

@[simp] theorem log_interpreter (m : Machine ε) (nesting : Nesting) (event : Event) :
    (m.interpreter nesting).log event = (m.log nesting event).interpreter nesting := by
  rw [log, nesting_interpreter]
  rfl

@[simp] theorem fault_interpreter (m : Machine ε) (nesting : Nesting) (line : Line)
    (cause : Cause) :
    (m.interpreter nesting).fault line cause = (m.fault line cause).exit nesting := rfl

/-- What the machine does without touching its mode, the interpreter does too. -/
theorem after_interpreter {o : Outcome ε} (same : o.machine.state.mode = m.state.mode)
    (nesting : Nesting) : (m.interpreter nesting).after o = o.exit nesting := by
  simp only [after, Outcome.exit, Machine.interpreter, same]

@[simp] theorem store_interpreter (m : Machine ε) (nesting : Nesting) :
    (m.interpreter nesting).store = m.state.store := rfl

@[simp] theorem loop_interpreter (m : Machine ε) (nesting : Nesting) :
    (m.interpreter nesting).loop = m.state.mode.loop? := rfl

@[simp] theorem definition_interpreter (m : Machine ε) (nesting : Nesting) :
    (m.interpreter nesting).definition = m.state.mode.definition? := rfl

@[simp] theorem replaying_interpreter (m : Machine ε) (nesting : Nesting) :
    (m.interpreter nesting).replaying = nesting.replays := rfl

/-! ### Blocks -/

/-- With the buffers of another mode the interpreter is that of the machine in this mode. -/
theorem withLoop_interpreter (mode : Mode) (undefined : m.state.mode.definition? = none)
    (same : mode.definition? = none) (nesting : Nesting) :
    (m.interpreter nesting).withLoop mode.loop? =
      (m.modifyState fun s => { s with mode := mode }).interpreter nesting := by
  simp [withLoop, Machine.interpreter, modifyState, undefined, same]

theorem withDefinition_interpreter (mode : Mode) (unlooped : m.state.mode.loop? = none)
    (same : mode.loop? = none) (nesting : Nesting) :
    (m.interpreter nesting).withDefinition mode.definition? =
      (m.modifyState fun s => { s with mode := mode }).interpreter nesting := by
  simp [withDefinition, Machine.interpreter, modifyState, unlooped, same]

theorem openLoop_interpreter (idle : m.state.mode = .idle) (nesting : Nesting) (line : Line)
    (arguments : List Text) :
    (m.interpreter nesting).openLoop line arguments =
      (Machine.openLoop nesting line arguments m).exit nesting := by
  have opened (block : Block Nat) :=
    withLoop_interpreter (.loop block) (congrArg Mode.definition? idle) rfl nesting
  unfold Interpreter.openLoop Machine.openLoop
  by_cases unreplayed : nesting.replays = 0
  · have still : ¬ (m.interpreter nesting).replaying ≠ 0 := by simp [unreplayed]
    have here : ¬ 0 < nesting.replays := by omega
    rw [if_neg still, if_neg here, Evaluation.loopCount_eq, gateOpen_interpreter, store_interpreter]
    split
    · exact congrArg done (opened { header := 0, openedAt := line })
    · cases counted : Evaluation.count m.state.store arguments with
      | ok count =>
        obtain ⟨rounds, rfl⟩ := Int.eq_ofNat_of_zero_le (Evaluation.count_nonneg counted)
        exact congrArg done (opened { header := rounds, openedAt := line })
      | error problem =>
        cases problem with
        | cause c =>
          exact congrArg (fun e => fault e line c)
            (opened { header := 0, openedAt := line, discarded := true })
        | failure f => rfl
  · have under : 0 < nesting.replays := Nat.pos_of_ne_zero unreplayed
    simp [under, unreplayed]

theorem openMethod_interpreter (idle : m.state.mode = .idle) (nesting : Nesting) (line : Line) :
    (m.interpreter nesting).openMethod line = (Machine.openMethod line m).exit nesting := by
  have opened (block : Block (Option Header)) :=
    withDefinition_interpreter (.method block) (congrArg Mode.loop? idle) rfl nesting
  unfold Interpreter.openMethod Machine.openMethod
  cases Header.parse? line.text with
  | some header => exact congrArg done (opened { header := some header, openedAt := line })
  | none =>
    exact congrArg (fun e => fault e line (.malformedHeader .method))
      (opened { header := none, openedAt := line, discarded := true })

/-- The fate of a block does not depend on how its count is kept. -/
theorem fate_counted (block : Block Nat) (kind : BlockKind) (line : Line) (statement : Statement) :
    block.counted.fate kind line statement =
      match block.fate kind line statement with
      | .stays next => .stays next.counted
      | .spoils next => .spoils next.counted
      | .vanishes => .vanishes
      | .completes => .completes := by
  have keep : block.counted.keep line = (block.keep line).counted := by
    by_cases discarded : block.discarded = true <;>
      simp [Block.keep, Block.counted, Block.under, discarded]
  cases statement with
  | block found closes arguments =>
    simp only [Block.fate, keep]
    by_cases other : found = kind
    · cases closes <;> by_cases discarded : block.discarded = true <;>
        by_cases inner : 0 < block.nested <;>
          simp [Block.counted, Block.under, other, discarded, inner]
    · simp [other]
  | _ => exact congrArg Block.Fate.stays keep

/-- A line is collected as the fate of the block says. -/
theorem collect_eq {α : Type} (kind : BlockKind) (cause : Cause) (block : Block α)
    (rewrap : Block α → Mode) (close : Machine ε → Outcome ε) (nesting : Nesting) (line : Line)
    (statement : Statement) (m : Machine ε) :
    collect kind cause block rewrap close nesting line statement m =
      match block.fate kind line statement with
      | .stays next => (m.modifyState fun s => { s with mode := rewrap next }).done
      | .spoils next => (m.modifyState fun s => { s with mode := rewrap next }).fault line cause
      | .vanishes =>
        ((m.log nesting (.discarded kind block.openedAt.number)).modifyState
          fun s => { s with mode := .idle }).done
      | .completes => close m := by
  cases statement with
  | block found closes arguments =>
    simp only [collect, Block.fate]
    split_ifs <;> rfl
  | _ => rfl

theorem closeMethod_interpreter {block : Block (Option Header)}
    (defining : m.state.mode = .method block) (nesting : Nesting) :
    (m.interpreter nesting).closeMethod block =
      (Machine.closeMethod nesting block m).exit nesting := by
  have idle := withDefinition_interpreter .idle (congrArg Mode.loop? defining) rfl nesting
  unfold Interpreter.closeMethod Machine.closeMethod
  cases block.header with
  | some header =>
    let method : Method := ⟨header.name, header.parameters, block.body⟩
    have stored (m : Machine ε) : (m.interpreter nesting).define method =
        (m.modifyState fun s => s.define method).interpreter nesting := rfl
    have same : (m.interpreter nesting).withDefinition none = _ := idle
    dsimp only
    rw [same, stored, log_interpreter]
    rfl
  | none => rfl

theorem defineLine_interpreter {block : Block (Option Header)}
    (defining : m.state.mode = .method block) (nesting : Nesting) (line : Line)
    (statement : Statement) :
    (m.interpreter nesting).defineLine block line statement =
      (collect .method .nestedMethod block .method (Machine.closeMethod nesting block) nesting line
        statement m).exit nesting := by
  have unlooped : m.state.mode.loop? = none := congrArg Mode.loop? defining
  rw [defineLine, collect_eq]
  cases block.fate .method line statement with
  | stays next =>
    exact congrArg done (withDefinition_interpreter (.method next) unlooped rfl nesting)
  | spoils next =>
    exact congrArg (fun e => fault e line .nestedMethod)
      (withDefinition_interpreter (.method next) unlooped rfl nesting)
  | vanishes =>
    let noted := m.log nesting (.discarded .method block.openedAt.number)
    rw [log_interpreter]
    exact congrArg done (withDefinition_interpreter (m := noted) .idle unlooped rfl nesting)
  | completes => exact closeMethod_interpreter defining nesting

/-! ### The way out of calls and replays -/

section Leaving

variable {restore : State → State} {restored : Interpreter ε → Interpreter ε}

theorem afterFault_exit
    (same : ∀ m : Machine ε, restored (m.interpreter nesting) =
      (m.modifyState restore).interpreter nesting) (o : Outcome ε) :
    (o.exit nesting).afterFault restored = (restoring restore o).exit nesting := by
  obtain ⟨m, _ | (f | f)⟩ := o
  · rfl
  · exact congrArg (Exit.mk · (some (.fault f))) (same m)
  · rfl

theorem truncate_interpreter (m : Machine ε) (nesting : Nesting) (depth : Nat) :
    (m.interpreter nesting).truncate depth =
      (m.modifyState fun s => s.truncate depth).interpreter nesting := rfl

/-- To drop a loop, if there is one, is to leave the mode of a loop. -/
theorem withLoop_none_interpreter (m : Machine ε) (nesting : Nesting) :
    (m.interpreter nesting).withLoop none =
      (m.modifyState fun s => { s with mode := s.mode.withoutLoop }).interpreter nesting := by
  cases mode : m.state.mode <;>
    simp [withLoop, Machine.interpreter, modifyState, mode, Mode.withoutLoop, Mode.loop?,
      Mode.definition?]

theorem dropped_interpreter (m : Machine ε) (nesting : Nesting) (depth : Nat) :
    ((m.interpreter nesting).withLoop none).truncate depth =
      (m.modifyState fun s => { s with mode := s.mode.withoutLoop }.truncate depth).interpreter
        nesting := by
  rw [withLoop_none_interpreter, truncate_interpreter]
  rfl

theorem Exit.closed_of_loop {e : Interpreter ε} {block : Block Int}
    (looping : e.loop = some block) :
    e.done.closed = (e.withLoop none).fault block.openedAt (.unterminated .loop) := by
  simp only [Exit.closed, done, looping]

theorem Exit.closed_of_unlooped {e : Interpreter ε} (unlooped : e.loop = none) :
    e.done.closed = e.done := by
  simp only [Exit.closed, done, unlooped]

theorem closed_exit (o : Outcome ε) (nesting : Nesting) :
    (o.exit nesting).closed = (o.andThen requireClosedLoop).exit nesting := by
  obtain ⟨m, _ | stop⟩ := o
  · change (m.interpreter nesting).done.closed = _
    rw [Outcome.andThen, requireClosedLoop]
    cases mode : m.state.mode with
    | loop block =>
      have looping : (m.interpreter nesting).loop = some block.counted := by
        rw [loop_interpreter, mode]
        rfl
      rw [Exit.closed_of_loop looping, withLoop_none_interpreter]
      simp [Block.counted, Block.under, modifyState, mode, Mode.withoutLoop]
    | idle | method block =>
      have unlooped : (m.interpreter nesting).loop = none := by
        rw [loop_interpreter, mode]
        rfl
      exact Exit.closed_of_unlooped unlooped
  · rfl

/-- On every way out of a call the counter is what it was before the call. -/
theorem leaveCall_exit (depth : Nat) (o : Outcome ε) (nesting : Nesting) :
    (o.exit { nesting with calls := nesting.calls + 1 }).leaveCall depth =
      (restoring (fun s => { s with mode := s.mode.withoutLoop }.truncate depth)
        (o.andThen requireClosedLoop)).exit nesting := by
  rw [Exit.leaveCall, closed_exit, afterFault_exit fun m => dropped_interpreter m _ depth]
  simp [Exit.always, Outcome.exit, Machine.interpreter]

/-- On every way out of a replay the counter is what it was before the replay. -/
theorem leaveReplay_exit (depth : Nat) (o : Outcome ε) (nesting : Nesting) :
    (o.exit { nesting with replays := nesting.replays + 1 }).leaveReplay depth =
      (restoring (fun s => s.truncate depth) o).exit nesting := by
  rw [Exit.leaveReplay, afterFault_exit fun m => truncate_interpreter m _ depth]
  simp [Exit.always, Outcome.exit, Machine.interpreter]

end Leaving

/-! ### The recursion -/

section Recursion

variable {next : Interpreter ε → Option (Exit ε)} {later : Machine ε → Outcome ε}
  {run : Line → Machine ε → Outcome ε}

/-- What goes on after the same outcome goes on in the same way. -/
theorem goesOn_exit (same : ∀ m : Machine ε, next (m.interpreter nesting) =
      some ((later m).exit nesting)) (o : Outcome ε) :
    (match (o.exit nesting).stop with
      | none => next (o.exit nesting).interpreter
      | some _ => return o.exit nesting) = some ((o.andThen later).exit nesting) := by
  obtain ⟨m, _ | stop⟩ := o
  · exact same m
  · rfl

theorem stepAll_interpreter
    (same : ∀ line m, step limit line (m.interpreter nesting) = some ((run line m).exit nesting))
    (lines : List Line) (m : Machine ε) :
    stepAll limit lines (m.interpreter nesting) = some ((runAll run lines m).exit nesting) := by
  induction lines generalizing m with
  | nil =>
    rw [stepAll]
    rfl
  | cons line rest ih =>
    rw [stepAll]
    simp only [same, Option.bind_eq_bind, Option.bind_some]
    exact goesOn_exit ih _

/-- The interpreter calls a method where the machine has room for a call, and there it takes lines
as the machine does. -/
inductive Simulated (limit : Count) (calls : Nat) : Option (Runner ε) → Prop
  | full (full : limit.toNat ≤ calls) : Simulated limit calls none
  | room {runner : Runner ε} (room : calls < limit.toNat)
      (same : ∀ replays line m, step limit line (m.interpreter ⟨calls + 1, replays⟩) =
        some ((runner ⟨calls + 1, replays⟩ line m).exit ⟨calls + 1, replays⟩)) :
      Simulated limit calls (some runner)

theorem call_interpreter (simulated : Simulated limit nesting.calls deeper) (line : Line)
    (invocation : Call) (m : Machine ε) :
    Interpreter.call limit line invocation (m.interpreter nesting) =
      some ((Machine.call deeper limit.text nesting line invocation m).exit nesting) := by
  have same : (m.interpreter nesting).methods.get? invocation.name =
      m.state.methods.get? invocation.name := rfl
  rw [Interpreter.call, Machine.call, same]
  cases m.state.methods.get? invocation.name with
  | none => rfl
  | some method =>
    dsimp only
    split
    · rfl
    · cases simulated with
      -- The comparison of the counter with the limit is the one of the room that is left with zero.
      | full full =>
        have reached : limit.toNat ≤ (m.interpreter nesting).callDepth := Int.ofNat_le.mpr full
        rw [if_pos reached]
        rfl
      | room room same =>
        have under : ¬ limit.toNat ≤ (m.interpreter nesting).callDepth := by
          change ¬ (limit.toNat : Int) ≤ nesting.calls
          omega
        rw [if_neg under]
        have raised : { m.interpreter nesting with
            callDepth := (m.interpreter nesting).callDepth + 1 } =
            m.interpreter { nesting with calls := nesting.calls + 1 } := rfl
        rw [raised, stepAll_interpreter (same nesting.replays)]
        exact congrArg some (leaveCall_exit m.state.depth _ nesting)

theorem execute_interpreter (simulated : Simulated limit nesting.calls deeper) (line : Line)
    (statement : Statement) (m : Machine ε) :
    Interpreter.execute limit line statement (m.interpreter nesting) =
      some ((Machine.execute deeper limit.text nesting line statement m).exit nesting) := by
  have adopted {o : Outcome ε} (same : o.machine.state.mode = m.state.mode) :
      some ((m.interpreter nesting).after o) = some (o.exit nesting) :=
    congrArg some (after_interpreter same nesting)
  -- Only the lines of conditionals and blocks are not skipped while the gate is closed.
  have gated {open_ : Option (Exit ε)} {o : Outcome ε} (same : open_ = some (o.exit nesting)) :
      (if !(m.interpreter nesting).gateOpen then
        some ((m.interpreter nesting).log (.skipped line.text)).done else open_) =
      some ((if !m.state.gateOpen then (m.log nesting (.skipped line.text)).done else o).exit
        nesting) := by
    rw [gateOpen_interpreter, log_interpreter]
    split
    · rfl
    · exact same
  rw [Interpreter.execute.eq_def, Machine.execute.eq_def, machine_interpreter, nesting_interpreter]
  cases statement with
  | block kind closes arguments =>
    cases kind with
    | conditional =>
      cases closes with
      | true =>
        refine adopted ?_
        unfold closeBranch
        split <;> rfl
      | false =>
        refine adopted ?_
        unfold openBranch
        split
        · rfl
        · split <;> rfl
    | loop => cases closes <;> rfl
    | method => rfl
  | call invocation => exact gated (call_interpreter simulated line invocation m)
  | assignment name expression =>
    refine gated (adopted ?_)
    unfold assign
    split <;> rfl
  | command =>
    refine gated (adopted ?_)
    obtain ⟨pen, same⟩ := runCommand_penOnly (m := m) nesting line
    rw [same]
  | invalid => exact gated rfl

theorem executeAll_interpreter (simulated : Simulated limit nesting.calls deeper)
    (lines : List Line) (m : Machine ε) :
    executeAll limit lines (m.interpreter nesting) =
      some ((replayOnce deeper limit.text nesting lines m).exit nesting) := by
  induction lines generalizing m with
  | nil =>
    rw [executeAll]
    rfl
  | cons line rest ih =>
    rw [executeAll, replayOnce, runAll, classified]
    cases Statement.classify line.text with
    | error f => rfl
    | ok statement =>
      simp only [execute_interpreter simulated, Option.bind_eq_bind, Option.bind_some]
      exact goesOn_exit ih _

theorem replay_interpreter (simulated : Simulated limit nesting.calls deeper) (lines : List Line)
    (rounds : Nat) (m : Machine ε) :
    replay limit lines rounds (m.interpreter nesting) =
      some ((repeated (replayOnce deeper limit.text nesting lines) rounds m).exit nesting) := by
  induction rounds generalizing m with
  | zero =>
    rw [replay]
    rfl
  | succ rounds ih =>
    rw [replay]
    simp only [executeAll_interpreter simulated, Option.bind_eq_bind, Option.bind_some]
    exact goesOn_exit ih _

theorem closeLoop_interpreter (simulated : Simulated limit nesting.calls deeper) {block : Block Nat}
    (collecting : m.state.mode = .loop block) :
    Interpreter.closeLoop limit block.counted (m.interpreter nesting) =
      some ((Machine.closeLoop deeper limit.text nesting block m).exit nesting) := by
  have idle : (m.interpreter nesting).withLoop none = _ :=
    withLoop_interpreter .idle (congrArg Mode.definition? collecting) rfl nesting
  have raised (m : Machine ε) : { m.interpreter nesting with
      replaying := (m.interpreter nesting).replaying + 1 } =
      m.interpreter { nesting with replays := nesting.replays + 1 } := rfl
  have inner : Simulated limit { nesting with replays := nesting.replays + 1 }.calls deeper :=
    simulated
  rw [Interpreter.closeLoop, idle, log_interpreter, raised, replay_interpreter inner]
  exact congrArg some (leaveReplay_exit m.state.depth _ nesting)

theorem collectLine_interpreter (simulated : Simulated limit nesting.calls deeper)
    {block : Block Nat} (collecting : m.state.mode = .loop block) (line : Line)
    (statement : Statement) :
    collectLine limit block.counted line statement (m.interpreter nesting) =
      some ((collect .loop .nestedLoop block .loop
        (Machine.closeLoop deeper limit.text nesting block) nesting line statement m).exit
          nesting) := by
  have undefined : m.state.mode.definition? = none := congrArg Mode.definition? collecting
  rw [collectLine, collect_eq, fate_counted]
  cases block.fate .loop line statement with
  | stays next =>
    exact congrArg (fun e => some (done e))
      (withLoop_interpreter (.loop next) undefined rfl nesting)
  | spoils next =>
    exact congrArg (fun e => some (fault e line .nestedLoop))
      (withLoop_interpreter (.loop next) undefined rfl nesting)
  | vanishes =>
    let noted := m.log nesting (.discarded .loop block.openedAt.number)
    rw [log_interpreter]
    exact congrArg (fun e => some (done e))
      (withLoop_interpreter (m := noted) .idle undefined rfl nesting)
  | completes => exact closeLoop_interpreter simulated collecting

/-- Outside of blocks a line opens one or is executed. -/
theorem start_interpreter (simulated : Simulated limit nesting.calls deeper)
    (idle : m.state.mode = .idle) (line : Line) (statement : Statement) :
    Interpreter.start limit line statement (m.interpreter nesting) =
      some ((Machine.start deeper limit.text nesting line statement m).exit nesting) := by
  rw [Interpreter.start.eq_def, Machine.start.eq_def]
  have executed (other : Statement) := execute_interpreter simulated line other m
  cases statement with
  | block kind closes arguments =>
    cases kind with
    | conditional => exact executed _
    | loop =>
      cases closes with
      | true => exact executed _
      | false => exact congrArg some (openLoop_interpreter idle nesting line arguments)
    | method =>
      cases closes with
      | true => rfl
      | false => exact congrArg some (openMethod_interpreter idle nesting line)
  | call | assignment | command | invalid => exact executed _

theorem stepWith_interpreter (simulated : Simulated limit nesting.calls deeper) (line : Line)
    (m : Machine ε) :
    step limit line (m.interpreter nesting) =
      some ((stepWith deeper limit.text nesting line m).exit nesting) := by
  rw [Interpreter.step, stepWith, classified]
  cases Statement.classify line.text with
  | error f => rfl
  | ok statement =>
    simp only [mode_interpreter, log_interpreter, loop_interpreter, definition_interpreter]
    have noted {mode : Mode} (here : m.state.mode = mode) :
        (m.log nesting (.line mode.activity line.text)).state.mode = mode := here
    cases mode : m.state.mode with
    | method block =>
      exact congrArg some (defineLine_interpreter (noted mode) nesting line statement)
    | loop block => exact collectLine_interpreter simulated (noted mode) line statement
    | idle => exact start_interpreter simulated (noted mode) line statement

/-- A line has a value, and it is that of the machine with the room that is left. -/
theorem step_interpreter (limit : Count) (room : Nat) (nesting : Nesting)
    (limited : nesting.calls + room = limit.toNat) (line : Line) (m : Machine ε) :
    step limit line (m.interpreter nesting) =
      some ((Machine.step limit.text room nesting line m).exit nesting) := by
  -- A call raises the counter by one and leaves room for one call less.
  induction room generalizing nesting line m with
  | zero => exact stepWith_interpreter (.full (by omega)) line m
  | succ room ih =>
    refine stepWith_interpreter (.room (by omega) fun replays line m => ?_) line m
    exact ih ⟨nesting.calls + 1, replays⟩ (by simp; omega) line m

end Recursion

end Interpreter

end Plotter
