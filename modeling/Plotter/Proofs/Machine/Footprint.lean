import Plotter.Proofs.Machine.Enclosure
import Plotter.Proofs.Machine.Task

/-!
# What one line leaves behind

A line changes little of what a later line finds open.  A drawing command touches nothing but the
pen.  A line that runs no others opens or closes at most one conditional, and it turns the open
block as its keyword says unless it fails or would open a loop during a replay.  A line that runs
others adds to what they did only the end of it: an open loop is dropped after a call, and the
conditionals that were opened since are dropped after a fault.
-/

namespace Plotter

@[simp] theorem Block.keep_nested {α : Type} (block : Block α) (line : Line) :
    (block.keep line).nested = block.nested := by
  unfold keep
  split <;> rfl

namespace Machine

variable {ε : Type} {m : Machine ε}

/-! ### Drawing commands -/

@[simp] theorem draw_state (nesting : Nesting) (f : Figure) :
    (m.draw nesting f).machine.state = m.state :=
  (draw_draws m nesting f).state

@[simp] theorem applyPen_state : m.applyPen.machine.state = m.state := by
  unfold applyPen setProperty
  split <;> rfl

/-- Nothing of the state has changed but the pen. -/
def PenOnly (m m' : Machine ε) : Prop := ∃ pen, m'.state = { m.state with pen := pen }

theorem PenOnly.of_state {m' : Machine ε} (same : m'.state = m.state) : m.PenOnly m' :=
  ⟨m.state.pen, same⟩

theorem PenOnly.trans {m₁ m₂ m₃ : Machine ε} (first : m₁.PenOnly m₂) (second : m₂.PenOnly m₃) :
    m₁.PenOnly m₃ := by
  obtain ⟨_, first⟩ := first
  obtain ⟨pen, second⟩ := second
  exact ⟨pen, by rw [second, first]⟩

theorem PenOnly.modifyPen (m : Machine ε) (f : Pen → Pen) : m.PenOnly (m.modifyPen f) := ⟨_, rfl⟩

theorem andThen_penOnly {o : Outcome ε} {next : Machine ε → Outcome ε} (first : m.PenOnly o.machine)
    (second : ∀ m' : Machine ε, m'.PenOnly (next m').machine) :
    m.PenOnly (o.andThen next).machine := by
  obtain ⟨m', stop⟩ := o
  cases stop with
  | none => exact first.trans (second m')
  | some stop => exact first

theorem draw_penOnly (nesting : Nesting) (f : Figure) : m.PenOnly (m.draw nesting f).machine :=
  .of_state (draw_state nesting f)

theorem drawShape_penOnly (nesting : Nesting) (shape : Shape) :
    m.PenOnly (m.drawShape nesting shape).machine := by
  refine andThen_penOnly (.of_state applyPen_state) fun ready => ?_
  split
  · exact andThen_penOnly (draw_penOnly nesting _) fun _ => draw_penOnly nesting _
  · exact draw_penOnly nesting _

theorem withValue_penOnly {α : Type} {value : Except Failure α} {next : α → Outcome ε}
    (goesOn : ∀ a, m.PenOnly (next a).machine) : m.PenOnly (m.withValue value next).machine := by
  cases value with
  | ok a => exact goesOn a
  | error f => exact .of_state rfl

theorem setPen_penOnly (nesting : Nesting) (arguments : List Text) :
    m.PenOnly (m.setPen nesting arguments).machine := by
  unfold setPen
  split
  · exact .of_state rfl
  · split
    next color _ =>
      exact (PenOnly.modifyPen m _).trans (.of_state (takeColor_state _ color))
    · exact .of_state rfl

theorem setFill_penOnly (nesting : Nesting) (arguments : List Text) :
    m.PenOnly (m.setFill nesting arguments).machine := by
  unfold setFill
  split
  · exact .of_state rfl
  · split
    · exact .modifyPen m _
    · exact .of_state rfl

theorem perform_penOnly (nesting : Nesting) (primitive : Primitive) (arguments : List Text) :
    m.PenOnly (m.perform nesting primitive arguments).machine := by
  cases primitive with
  | moveTo => exact withValue_penOnly fun _ => .modifyPen m _
  | drawTo =>
    refine withValue_penOnly fun p => andThen_penOnly (.of_state applyPen_state) fun ready => ?_
    exact andThen_penOnly (draw_penOnly nesting _) fun drawn => .modifyPen drawn _
  | clear =>
    exact (PenOnly.of_state (clearSurface_state nesting)).trans (.modifyPen _ _)
  | reset => exact .modifyPen m _
  | rectangle => exact withValue_penOnly fun _ => drawShape_penOnly nesting _
  | circle => exact withValue_penOnly fun _ => drawShape_penOnly nesting _
  | triangle => exact withValue_penOnly fun _ => drawShape_penOnly nesting _
  | pen => exact setPen_penOnly nesting arguments
  | fill => exact setFill_penOnly nesting arguments

theorem runCommand_penOnly (nesting : Nesting) (line : Line) :
    m.PenOnly (runCommand nesting line m).machine := by
  unfold runCommand
  split
  · exact .of_state rfl
  · exact .of_state rfl
  · split
    · exact .of_state rfl
    · split
      · exact .of_state rfl
      · unfold command
        split
        · exact (PenOnly.of_state rfl).trans (perform_penOnly nesting _ _)
        · exact .of_state rfl

/-! ### Lines that run no others -/

/-- What a line on its own does to the open conditionals: nothing, or it opens one, or it closes
the innermost. -/
inductive Branching (opening closing : Prop) : List Branch → List Branch → Prop
  | same (branches : List Branch) : Branching opening closing branches branches
  | opened (opens : opening) (branch : Branch) (branches : List Branch) :
      Branching opening closing branches (branch :: branches)
  | closed (closes : closing) (branch : Branch) (branches : List Branch) :
      Branching opening closing (branch :: branches) branches

theorem closeBranch_footprint {opening closing : Prop} (closes : closing) (line : Line) :
    (closeBranch line m).machine.state.mode = m.state.mode ∧
      Branching opening closing m.state.conditions
        (closeBranch line m).machine.state.conditions := by
  unfold closeBranch
  split
  · exact ⟨rfl, .same _⟩
  next branch outer inner =>
    rw [inner]
    exact ⟨rfl, .closed closes branch outer⟩

theorem openBranch_footprint {opening closing : Prop} (opens : opening) (line : Line)
    (arguments : List Text) :
    (openBranch line arguments m).machine.state.mode = m.state.mode ∧
      Branching opening closing m.state.conditions
        (openBranch line arguments m).machine.state.conditions := by
  unfold openBranch
  split
  · exact ⟨rfl, .opened opens ..⟩
  · split
    · exact ⟨rfl, .opened opens ..⟩
    · exact ⟨rfl, .opened opens ..⟩
    · exact ⟨rfl, .same _⟩

@[simp] theorem call_none_state (limit : Text) (nesting : Nesting) (line : Line)
    (invocation : Call) : (call none limit nesting line invocation m).machine.state = m.state := by
  unfold call
  split
  · rfl
  · split <;> rfl

/-- A line that is no block line and makes no call opens and closes nothing. -/
theorem execute_none_plain {opening closing : Prop} {statement : Statement}
    (plain : ∀ kind, statement.isOf kind = false) (limit : Text) (nesting : Nesting) (line : Line) :
    (execute none limit nesting line statement m).machine.state.mode = m.state.mode ∧
      Branching opening closing m.state.conditions
        (execute none limit nesting line statement m).machine.state.conditions := by
  unfold execute
  split
  · cases plain .conditional
  · cases plain .conditional
  · cases plain .loop
  · cases plain .loop
  · cases plain .method
  · split
    · exact ⟨rfl, .same _⟩
    · split
      · rw [call_none_state]
        exact ⟨rfl, .same _⟩
      · unfold assign
        split <;> exact ⟨rfl, .same _⟩
      · obtain ⟨pen, same⟩ := runCommand_penOnly (m := m) nesting line
        rw [same]
        exact ⟨rfl, .same _⟩
      · exact ⟨rfl, .same _⟩
      · exact ⟨rfl, .same _⟩

/-- A line that is executed on its own leaves the block that is open alone. -/
theorem execute_none_footprint (limit : Text) (nesting : Nesting) (line : Line)
    (statement : Statement) :
    (execute none limit nesting line statement m).machine.state.mode = m.state.mode ∧
      Branching (statement.keyword? = some (.opening .conditional))
        (statement.keyword? = some (.closing .conditional)) m.state.conditions
        (execute none limit nesting line statement m).machine.state.conditions := by
  cases statement with
  | block kind closing arguments =>
    cases kind with
    | conditional =>
      cases closing with
      | true => exact closeBranch_footprint rfl line
      | false => exact openBranch_footprint rfl line arguments
    | loop => cases closing <;> exact ⟨rfl, .same _⟩
    | method => cases closing <;> exact ⟨rfl, .same _⟩
  | _ => exact execute_none_plain (fun _ => rfl) limit nesting line

/-- A line of an open block that does not end it changes the block as its keyword says. -/
theorem collect_footprint {α : Type} {kind : BlockKind} (nestedCause : Cause) {block : Block α}
    {rewrap : Block α → Mode} (close : Machine ε → Outcome ε) (nesting : Nesting) (line : Line)
    {statement : Statement} (m : Machine ε)
    (wrapped : ∀ b, (rewrap b).enclosure = .inside kind b.nested)
    (unended : ∀ arguments, statement = .block kind true arguments →
      block.discarded = true ∨ block.nested ≠ 0) :
    let o := collect kind nestedCause block rewrap close nesting line statement m
    (∀ f, o.stop ≠ some (.failure f)) ∧
      o.machine.state.mode.enclosure =
        (Enclosure.inside kind block.nested).read statement.keyword? := by
  have kept : (rewrap (block.keep line)).enclosure = .inside kind block.nested := by
    rw [wrapped, Block.keep_nested]
  cases statement with
  | block found closing arguments =>
    cases closing with
    | false =>
      by_cases same : found = kind
      · -- An inner block of the same kind is counted, with a fault if it is the first.
        simp only [collect, same, ne_eq, not_true_eq_false, if_false, Bool.not_false, if_true]
        split
        all_goals
          refine ⟨by simp [done, fault, stopWith], ?_⟩
          exact (wrapped _).trans (by simp [Statement.keyword?, Enclosure.read])
      · simp only [collect, ne_eq, same, not_false_eq_true, if_true]
        refine ⟨by simp [done], ?_⟩
        exact kept.trans (by simp [Statement.keyword?, Enclosure.read, same])
    | true =>
      by_cases same : found = kind
      · subst same
        cases depth : block.nested with
        | succ nested =>
          simp only [collect, depth, ne_eq, not_true_eq_false, if_false, Bool.not_true,
            Bool.false_eq_true, Nat.zero_lt_succ, if_true]
          refine ⟨by simp [done], ?_⟩
          exact (wrapped _).trans (by simp [Statement.keyword?, Enclosure.read])
        | zero =>
          have discarded := (unended arguments rfl).resolve_right (by simp [depth])
          simp only [collect, depth, discarded, ne_eq, not_true_eq_false, if_false, Bool.not_true,
            Bool.false_eq_true, Nat.lt_irrefl, if_true]
          exact ⟨by simp [done], by simp [Statement.keyword?, Enclosure.read]; rfl⟩
      · simp only [collect, ne_eq, same, not_false_eq_true, if_true]
        refine ⟨by simp [done], ?_⟩
        exact kept.trans (by simp [Statement.keyword?, Enclosure.read, same])
  | _ => exact ⟨by simp [collect, done], kept⟩

theorem collect_conditions {α : Type} {kind : BlockKind} {nestedCause : Cause} {block : Block α}
    {rewrap : Block α → Mode} {close : Machine ε → Outcome ε} {nesting : Nesting} {line : Line}
    {statement : Statement} (closed : (close m).machine.state.conditions = m.state.conditions) :
    (collect kind nestedCause block rewrap close nesting line statement
      m).machine.state.conditions = m.state.conditions := by
  unfold collect
  split
  · split
    · rfl
    · split
      · split <;> rfl
      · split
        · rfl
        · split
          · rfl
          · exact closed
  · rfl

theorem Branching.mono {opening opening' closing closing' : Prop} {before after : List Branch}
    (opens : opening → opening') (closes : closing → 0 < before.length → closing')
    (branching : Branching opening closing before after) :
    Branching opening' closing' before after := by
  cases branching with
  | same => exact .same _
  | opened opening => exact .opened (opens opening) ..
  | closed closing => exact .closed (closes closing (Nat.succ_pos _)) ..

theorem openLoop_footprint (nesting : Nesting) (line : Line) (arguments : List Text) :
    let o := openLoop nesting line arguments m
    o.machine.state.conditions = m.state.conditions ∧
      if 0 < nesting.replays then
        (∀ f, o.stop ≠ some (.failure f)) ∧ o.machine.state.mode = m.state.mode
      else
        (∃ f, o.stop = some (.failure f) ∧ o.machine.state.mode = m.state.mode) ∨
          (∀ f, o.stop ≠ some (.failure f)) ∧ o.machine.state.mode.enclosure = .inside .loop 0 := by
  simp only [openLoop]
  split
  · exact ⟨rfl, by simp [fault, stopWith], rfl⟩
  · split
    · exact ⟨rfl, Or.inr ⟨by simp [done], rfl⟩⟩
    · split
      · exact ⟨rfl, Or.inr ⟨by simp [done], rfl⟩⟩
      · exact ⟨rfl, Or.inr ⟨by simp [fault, stopWith], rfl⟩⟩
      · exact ⟨rfl, Or.inl ⟨_, rfl, rfl⟩⟩

theorem openMethod_footprint (line : Line) :
    let o := openMethod line m
    o.machine.state.conditions = m.state.conditions ∧ (∀ f, o.stop ≠ some (.failure f)) ∧
      o.machine.state.mode.enclosure = .inside .method 0 := by
  simp only [openMethod]
  split
  · exact ⟨rfl, by simp [done], rfl⟩
  · exact ⟨rfl, by simp [fault, stopWith], rfl⟩

theorem closeMethod_footprint (nesting : Nesting) (block : Block (Option Header)) :
    let o := closeMethod nesting block m
    o.machine.state.conditions = m.state.conditions ∧
      ((∃ f, o.stop = some (.failure f) ∧ o.machine.state.mode = m.state.mode) ∨
        (∀ f, o.stop ≠ some (.failure f)) ∧ o.machine.state.mode.enclosure = .outside) := by
  unfold closeMethod
  split
  · exact ⟨rfl, Or.inr ⟨by simp [done], rfl⟩⟩
  · exact ⟨rfl, Or.inl ⟨_, rfl, rfl⟩⟩

end Machine

namespace Agenda

open Machine

variable {ε : Type} {o : Outcome ε}

/-- A call whose lines did not fail leaves no loop of theirs open. -/
theorem mode_conclude_call (lines : List Line) (depth : Nat) (o : Outcome ε) :
    ((call lines).conclude depth o).machine.state.mode =
      match o.stop with
      | some (.failure _) => o.machine.state.mode
      | _ => o.machine.state.mode.withoutLoop := by
  obtain ⟨m, stop⟩ := o
  cases stop with
  | none =>
    simp only [conclude, Outcome.andThen, requireClosedLoop]
    cases mode : m.state.mode with
    | loop block => rfl
    | _ => simp [restoring, done, mode, Mode.withoutLoop]
  | some stop => cases stop <;> rfl

theorem mode_conclude_replay (block : Block Nat) (depth : Nat) (o : Outcome ε) :
    ((replay block).conclude depth o).machine.state.mode = o.machine.state.mode := by
  obtain ⟨m, stop⟩ := o
  cases stop with
  | none => rfl
  | some stop => cases stop <;> rfl

/-- After a fault, the conditionals beyond the depth of the task are dropped. -/
theorem conditions_conclude (agenda : Agenda) (depth : Nat) (o : Outcome ε) :
    (agenda.conclude depth o).machine.state.conditions =
      match (agenda.conclude depth o).stop with
      | some (.fault _) =>
        o.machine.state.conditions.drop (o.machine.state.conditions.length - depth)
      | _ => o.machine.state.conditions := by
  obtain ⟨m, stop⟩ := o
  cases agenda with
  | replay block =>
    cases stop with
    | none => rfl
    | some stop => cases stop <;> rfl
  | call lines =>
    cases stop with
    | some stop => cases stop <;> rfl
    | none =>
      simp only [conclude, Outcome.andThen, requireClosedLoop]
      cases mode : m.state.mode <;> rfl

end Agenda

namespace Task

open Machine

variable {ε : Type} {settings : Settings}

/-- The line closes a conditional that is open. -/
def ClosesBranch (t : Task ε) : Prop :=
  t.Executed ∧ t.line.keyword? = some (.closing .conditional) ∧ 0 < t.machine.state.depth

/-- What a line that the machine takes does to the block that is open, if it runs no other lines. -/
inductive Turned (t : Task ε) (o : Outcome ε) : Prop
  /-- It does what its keyword says. -/
  | read (unfailed : ∀ f, o.stop ≠ some (.failure f))
      (enclosure : o.machine.state.mode.enclosure =
        t.machine.state.mode.enclosure.read t.line.keyword?)
      (unopened : 0 < t.nesting.replays → (∀ block, t.machine.state.mode ≠ .loop block) →
        ∀ block, o.machine.state.mode ≠ .loop block)
  /-- It would open a loop during a replay. -/
  | refused (replaying : 0 < t.nesting.replays) (unfailed : ∀ f, o.stop ≠ some (.failure f))
      (same : o.machine.state.mode = t.machine.state.mode)
  | failed {f : Failure} (failed : o.stop = some (.failure f))
      (same : o.machine.state.mode = t.machine.state.mode)
      (unread : ∀ block, t.machine.state.mode = .loop block →
        ∃ f, Statement.classify t.line.text = .error f)

theorem execute_turned {t : Task ε} {statement : Statement} {m : Machine ε} {limit : Text}
    (read : Statement.classify t.line.text = .ok statement) (same : m.state = t.machine.state)
    (idle : t.machine.state.mode = .idle) (unopened : statement.opensBlock = false) :
    t.Turned (execute none limit t.nesting t.line statement m) := by
  have mode := (execute_none_footprint (m := m) limit t.nesting t.line statement).1
  rw [same] at mode
  by_cases failed : ∃ f, (execute none limit t.nesting t.line statement m).stop = some (.failure f)
  · obtain ⟨f, failed⟩ := failed
    exact .failed failed mode (by simp [idle])
  · refine .read (fun f stop => failed ⟨f, stop⟩) ?_ fun _ notLoop => ?_
    · rw [mode, idle]
      exact (Enclosure.read_of_unopened read unopened).symm
    · simpa only [mode] using notLoop

theorem start_turned {t : Task ε} {statement : Statement} {m : Machine ε} {limit : Text}
    (read : Statement.classify t.line.text = .ok statement) (same : m.state = t.machine.state)
    (idle : t.machine.state.mode = .idle) :
    t.Turned (start none limit t.nesting t.line statement m) := by
  have outside : t.machine.state.mode.enclosure = .outside := by
    rw [idle]
    rfl
  have keyword := Enclosure.read_of_classify read .outside
  unfold start
  split
  · -- A method that is not open cannot be closed.
    refine .read (by simp [fault, stopWith]) ?_ (by simp [fault, stopWith, same])
    rw [outside, keyword]
    exact (congrArg (fun s : State => s.mode.enclosure) same).trans outside
  · obtain ⟨_, unfailed, opened⟩ := openMethod_footprint (m := m) t.line
    refine .read unfailed ?_ ?_
    · rw [outside, keyword]
      exact opened
    · intro _ _ block looping
      simp [looping, Mode.enclosure] at opened
  next arguments =>
    obtain ⟨_, opened⟩ := openLoop_footprint (m := m) t.nesting t.line arguments
    split at opened
    next replaying => exact .refused replaying opened.1 (by rw [opened.2, same])
    next outermost =>
      rcases opened with ⟨f, failed, unopened⟩ | ⟨unfailed, opened⟩
      · exact .failed failed (by rw [unopened, same]) (by simp [idle])
      · refine .read unfailed ?_ fun replaying => absurd replaying outermost
        rw [outside, keyword]
        exact opened
  next notClosing notMethod notLoop =>
    refine execute_turned read same idle ?_
    unfold Statement.opensBlock
    split
    next arguments => exact absurd rfl (notLoop arguments)
    next arguments => exact absurd rfl (notMethod arguments)
    · rfl

/-- A line of an open block that does not end it. -/
theorem collect_turned {α : Type} {t : Task ε} {kind : BlockKind} {nestedCause : Cause}
    {block : Block α} {rewrap : Block α → Mode} {close : Machine ε → Outcome ε}
    {statement : Statement} {m : Machine ε}
    (read : Statement.classify t.line.text = .ok statement)
    (collecting : t.machine.state.mode = rewrap block)
    (wrapped : ∀ b, (rewrap b).enclosure = .inside kind b.nested)
    (unended : ∀ arguments, statement = .block kind true arguments →
      block.discarded = true ∨ block.nested ≠ 0) :
    t.Turned (collect kind nestedCause block rewrap close t.nesting t.line statement m) := by
  obtain ⟨unfailed, turned⟩ :=
    collect_footprint nestedCause close t.nesting t.line m wrapped unended
  rw [← Enclosure.read_of_classify read, ← wrapped, ← collecting] at turned
  refine .read unfailed turned ?_
  intro _ notLoop inner looping
  -- The kind of the open block does not change, so it is still no loop.
  rw [looping, collecting, wrapped] at turned
  rcases Enclosure.read_inside kind block.nested t.line.keyword? with left | ⟨deeper, stays⟩
  · rw [left] at turned
    cases turned
  · rw [stays] at turned
    cases turned
    obtain ⟨outer, was⟩ := Mode.exists_loop_iff.mpr ⟨_, wrapped block⟩
    exact notLoop outer (collecting.trans was)

/-- The closing line of a method that is not discarded. -/
theorem closeMethod_turned {t : Task ε} {m : Machine ε} {block : Block (Option Header)}
    {arguments : List Text}
    (read : Statement.classify t.line.text = .ok (.block .method true arguments))
    (same : m.state = t.machine.state)
    (defining : t.machine.state.mode = .method block) (outermost : block.nested = 0) :
    t.Turned (closeMethod t.nesting block m) := by
  rcases (closeMethod_footprint (m := m) t.nesting block).2 with
    ⟨f, failed, unended⟩ | ⟨unfailed, closed⟩
  · exact .failed failed (by rw [unended, same]) (by simp [defining])
  · refine .read unfailed ?_ ?_
    · rw [closed, Enclosure.read_of_classify read, defining]
      simp [Mode.enclosure, outermost, Statement.keyword?, Enclosure.read]
    · intro _ _ inner looping
      simp [looping, Mode.enclosure] at closed

/-- A line that the machine takes and that runs no other does what its keyword says to the block
that is open, unless it fails or a replay is under way. -/
theorem turned_of_alone {t : Task ε} (taken : t.way = .taken) (alone : t.agenda? settings = none) :
    t.Turned (t.outcome settings) := by
  rw [outcome_of_none alone]
  cases read : Statement.classify t.line.text with
  | error f =>
    simp only [runBy, taken, stepWith, classified, read]
    exact .failed rfl rfl fun _ _ => ⟨f, read⟩
  | ok statement =>
    simp only [runBy, taken, stepWith, classified, read]
    cases mode : t.machine.state.mode with
    | idle => exact start_turned (m := t.machine.log ..) read rfl mode
    | loop block =>
      exact collect_turned read mode (fun _ => rfl) (unended_of_alone alone taken mode read)
    | method block =>
      by_cases live : ∃ arguments, statement = .block .method true arguments ∧
          block.discarded = false ∧ block.nested = 0
      · obtain ⟨arguments, rfl, kept, outermost⟩ := live
        have closed := closeMethod_turned (m := t.machine.log t.nesting
          (.line (Mode.method block).activity t.line.text)) read rfl mode outermost
        simpa [collect, kept, outermost] using closed
      · refine collect_turned read mode (fun _ => rfl) ?_
        rintro arguments rfl
        by_contra kept
        exact live ⟨arguments, rfl, by simpa using kept⟩

/-- A replayed line that runs no other leaves the open block alone. -/
theorem mode_of_alone {t : Task ε} (replayed : t.way = .replayed)
    (alone : t.agenda? settings = none) :
    (t.outcome settings).machine.state.mode = t.machine.state.mode := by
  rw [outcome_of_none alone]
  cases read : Statement.classify t.line.text with
  | error f =>
    simp only [runBy, replayed, classified, read]
    rfl
  | ok statement =>
    simp only [runBy, replayed, classified, read]
    exact (execute_none_footprint ..).1

theorem execute_branching {t : Task ε} {statement : Statement} {m : Machine ε} (limit : Text)
    (read : Statement.classify t.line.text = .ok statement) (same : m.state = t.machine.state)
    (executed : t.Executed) :
    Branching (t.line.keyword? = some (.opening .conditional)) t.ClosesBranch
      t.machine.state.conditions
      (execute none limit t.nesting t.line statement m).machine.state.conditions := by
  have branching := (execute_none_footprint (m := m) limit t.nesting t.line statement).2
  rw [same] at branching
  cases statement with
  | block kind closing arguments =>
    rw [← Statement.keyword?_of_block read] at branching
    exact branching.mono id fun closes inner => ⟨executed, closes, inner⟩
  | _ => exact branching.mono nofun nofun

theorem start_branching {t : Task ε} {statement : Statement} {m : Machine ε} {limit : Text}
    (read : Statement.classify t.line.text = .ok statement) (same : m.state = t.machine.state)
    (executed : t.Executed) :
    Branching (t.line.keyword? = some (.opening .conditional)) t.ClosesBranch
      t.machine.state.conditions
      (start none limit t.nesting t.line statement m).machine.state.conditions := by
  have executing := execute_branching limit read same executed
  rw [← same] at executing ⊢
  unfold start
  split
  · exact .same _
  · rw [(openMethod_footprint t.line).1]
    exact .same _
  · rw [(openLoop_footprint t.nesting t.line _).1]
    exact .same _
  · exact executing

/-- A line that runs no other opens at most one branch, and closes one only if it is there for
that. -/
theorem branching_of_alone {t : Task ε} (alone : t.agenda? settings = none) :
    Branching (t.line.keyword? = some (.opening .conditional)) t.ClosesBranch
      t.machine.state.conditions
      (t.outcome settings).machine.state.conditions := by
  rw [outcome_of_none alone]
  cases read : Statement.classify t.line.text with
  | error f =>
    simp only [runBy, stepWith, classified, read]
    split <;> exact .same _
  | ok statement =>
    cases way : t.way with
    | replayed =>
      simp only [runBy, way, classified, read]
      exact execute_branching _ read rfl (Or.inl way)
    | taken =>
      simp only [runBy, way, stepWith, classified, read]
      cases mode : t.machine.state.mode with
      | idle => exact start_branching (m := t.machine.log ..) read rfl (Or.inr mode)
      | loop block =>
        dsimp only
        rw [collect_eq Machine.done (unended_of_alone alone way mode read), collect_conditions rfl]
        exact .same _
      | method block =>
        rw [collect_conditions (closeMethod_footprint t.nesting block).1]
        exact .same _

end Task

end Plotter
