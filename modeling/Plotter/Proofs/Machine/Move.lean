import Mathlib.Logic.Relation
import Plotter.Machine.Step
import Plotter.Proofs.Script.Line

/-!
# What a line can do

However many calls and replays a line sets off, all that happens to the machine is a sequence of
*moves*, and there are few kinds of them: an entry in the journal, a change of the pen or of the
surface, a branch opened or closed, a variable set, and a turn of the block that is open.  A move
says what the line must have been for it.

`step_moves` is the one place where the functions of the machine are taken apart.  A property
that every move keeps is kept by every line, so an invariant of the machine is proved by looking
at the moves alone.

The lines that a call runs are not known beforehand.  `Guarded` is what makes the induction go
through: an invariant that the moves keep and that makes every line of a call, and every line of
an open loop, one of the lines that the invariant is about.
-/

namespace Plotter

/-- What a line can do to the block that is being collected. -/
inductive Block.Turn {α : Type} (fits : Line → Prop) (kind : BlockKind) :
    Block α → Block α → Prop
  | keep {block : Block α} {line : Line} (fit : fits line) (other : line.isOf kind = false) :
      Turn fits kind block (block.keep line)
  | deepen (block : Block α) :
      Turn fits kind block { block with nested := block.nested + 1, discarded := true }
  | raise {block : Block α} (inner : 0 < block.nested) :
      Turn fits kind block { block with nested := block.nested - 1 }

/-- What a line can do to the mode. -/
inductive Mode.Turn (fits : Line → Prop) : Mode → Mode → Prop
  | openLoop {line : Line} (fit : fits line) (opens : line.opens .loop = true) (count : Nat)
      (discarded : Bool) :
      Turn fits .idle (.loop { header := count, openedAt := line, discarded := discarded })
  | openMethod {line : Line} (fit : fits line) (opens : line.opens .method = true) :
      Turn fits .idle (.method
        { header := Header.parse? line.text, openedAt := line,
          discarded := (Header.parse? line.text).isNone })
  | loop {block next : Block Nat} (turn : Block.Turn fits .loop block next) :
      Turn fits (.loop block) (.loop next)
  | method {block next : Block (Option Header)} (turn : Block.Turn fits .method block next) :
      Turn fits (.method block) (.method next)
  | close (mode : Mode) : Turn fits mode .idle

theorem Block.Turn.mono {α : Type} {fits wider : Line → Prop} {kind : BlockKind}
    {block next : Block α} (weaker : ∀ line, fits line → wider line)
    (turn : Block.Turn fits kind block next) : Block.Turn wider kind block next := by
  cases turn with
  | keep fit other => exact .keep (weaker _ fit) other
  | deepen => exact .deepen block
  | raise inner => exact .raise inner

/-- A block gets new lines from the lines that make its turns. -/
theorem Block.Turn.mem_body {α : Type} {fits : Line → Prop} {kind : BlockKind}
    {block next : Block α} {line : Line} (turn : Block.Turn fits kind block next)
    (member : line ∈ next.body) : line ∈ block.body ∨ fits line := by
  cases turn with
  | keep fit other =>
    unfold Block.keep at member
    split at member
    · exact Or.inl member
    · rcases List.mem_append.mp member with earlier | last
      · exact Or.inl earlier
      · rw [List.mem_singleton.mp last]
        exact Or.inr fit
  | deepen => exact Or.inl member
  | raise => exact Or.inl member

theorem Block.Turn.openedAt_eq {α : Type} {fits : Line → Prop} {kind : BlockKind}
    {block next : Block α} (turn : Block.Turn fits kind block next) :
    next.openedAt = block.openedAt := by
  cases turn with
  | keep =>
    unfold Block.keep
    split <;> rfl
  | deepen => rfl
  | raise => rfl

theorem Mode.Turn.mono {fits wider : Line → Prop} {mode mode' : Mode}
    (weaker : ∀ line, fits line → wider line) (turn : Mode.Turn fits mode mode') :
    Mode.Turn wider mode mode' := by
  cases turn with
  | openLoop fit opens count discarded => exact .openLoop (weaker _ fit) opens count discarded
  | openMethod fit opens => exact .openMethod (weaker _ fit) opens
  | loop turn => exact .loop (turn.mono weaker)
  | method turn => exact .method (turn.mono weaker)
  | close => exact .close _

namespace Machine

variable {ε : Type} {fits : Line → Prop} {m m' : Machine ε}

/-- One thing that a line does to the machine. -/
inductive Move (fits : Line → Prop) : Machine ε → Machine ε → Prop
  | log (m : Machine ε) (nesting : Nesting) (e : Event) : Move fits m (m.log nesting e)
  /-- The pen moves, or its fill mode changes. -/
  | pen {m : Machine ε} (pen : Pen) (sameColor : pen.color = m.state.pen.color) :
      Move fits m (m.modifyPen fun _ => pen)
  | color (m : Machine ε) (color : PenColor) :
      Move fits m ((m.modifyPen fun pen => { pen with color := color.word }).takeColor color)
  | applyPen (m : Machine ε) :
      Move fits m { m with surface := m.surface.put .lineColor (.text m.state.pen.color) }
  | draw (m : Machine ε) (f : Figure) : Move fits m { m with surface := (m.surface.draw f).1 }
  | clear (m : Machine ε) : Move fits m { m with surface := m.surface.clear.1 }
  /-- A branch is taken only under an open gate. -/
  | push {m : Machine ε} {line : Line} {taken : Bool} (fit : fits line)
      (opens : line.opens .conditional = true) (gate : taken = true → m.state.gateOpen = true) :
      Move fits m (m.modifyState fun s => s.push taken line)
  | pop {m : Machine ε} {branch : Branch} {outer : List Branch}
      (inner : m.state.conditions = branch :: outer) :
      Move fits m (m.modifyState fun s => { s with conditions := outer })
  | truncate (m : Machine ε) (depth : Nat) :
      Move fits m (m.modifyState fun s => s.truncate depth)
  | assign {m : Machine ε} {line : Line} {name expression : Text} (fit : fits line)
      (read : Statement.classify line.text = .ok (.assignment name expression)) (value : Int) :
      Move fits m (m.modifyState fun s => s.setVariable name value)
  | turn {m : Machine ε} {mode : Mode} (turned : Mode.Turn fits m.state.mode mode) :
      Move fits m (m.modifyState fun s => { s with mode := mode })
  | define {m : Machine ε} {block : Block (Option Header)} {header : Header}
      (collected : m.state.mode = .method block) (named : block.header = some header) :
      Move fits m (m.modifyState fun s =>
        { s with mode := .idle }.define ⟨header.name, header.parameters, block.body⟩)

/-- A move that some lines can make is one that more lines can make. -/
theorem Move.mono {wider : Line → Prop} (weaker : ∀ line, fits line → wider line)
    (move : Move fits m m') : Move wider m m' := by
  cases move with
  | log nesting e => exact .log m nesting e
  | pen pen sameColor => exact .pen pen sameColor
  | color color => exact .color m color
  | applyPen => exact .applyPen m
  | draw f => exact .draw m f
  | clear => exact .clear m
  | push fit opens gate => exact .push (weaker _ fit) opens gate
  | pop inner => exact .pop inner
  | truncate depth => exact .truncate m depth
  | assign fit read value => exact .assign (weaker _ fit) read value
  | turn turned => exact .turn (turned.mono weaker)
  | define collected named => exact .define collected named

/-- A sequence of moves. -/
abbrev Moves (fits : Line → Prop) : Machine ε → Machine ε → Prop :=
  Relation.ReflTransGen (Move fits)

/-- A property that every move keeps holds after any sequence of moves. -/
theorem Moves.invariant {P : Machine ε → Prop} (kept : ∀ {m m'}, P m → Move fits m m' → P m')
    (moves : Moves fits m m') (initial : P m) : P m' := by
  induction moves with
  | refl => exact initial
  | tail _ last ih => exact kept ih last

/-- An invariant under which the lines of a call and the lines of an open loop fit. -/
structure Guarded (fits : Line → Prop) (P : Machine ε → Prop) : Prop where
  kept : ∀ {m m' : Machine ε}, P m → Move fits m m' → P m'
  expands : ∀ {m : Machine ε} {line : Line} {invocation : Call} {method : Method}, P m →
    fits line → Statement.classify line.text = .ok (.call invocation) →
    m.state.methods.get? invocation.name = some method →
    ∀ inner ∈ method.linesAt invocation.arguments line, fits inner
  collected : ∀ {m : Machine ε} {block : Block Nat}, P m → m.state.mode = .loop block →
    ∀ line ∈ block.body, fits line

/-- The lines that a call runs do nothing but moves. -/
def CallsMove (fits : Line → Prop) (P : Machine ε → Prop) (deeper : Option (Runner ε)) : Prop :=
  ∀ runner ∈ deeper, ∀ nesting line m, P m → fits line →
    Moves fits m (runner nesting line m).machine

/-! ### Sequences -/

theorem andThen_moves {o : Outcome ε} {next : Machine ε → Outcome ε}
    (first : Moves fits m o.machine) (second : Moves fits o.machine (next o.machine).machine) :
    Moves fits m (o.andThen next).machine := by
  obtain ⟨done, stop⟩ := o
  cases stop with
  | none => exact first.trans second
  | some stop => exact first

theorem runAll_moves {P : Machine ε → Prop} {run : Line → Machine ε → Outcome ε}
    {lines : List Line} (kept : ∀ {m m'}, P m → Move fits m m' → P m')
    (steps : ∀ line ∈ lines, ∀ m, P m → Moves fits m (run line m).machine) (initial : P m) :
    Moves fits m (runAll run lines m).machine := by
  induction lines generalizing m with
  | nil => exact .refl
  | cons line rest ih =>
    have first := steps line (List.mem_cons_self ..) m initial
    refine andThen_moves first (ih ?_ (first.invariant kept initial))
    exact fun later member => steps later (List.mem_cons_of_mem _ member)

theorem repeated_moves {P : Machine ε → Prop} {body : Machine ε → Outcome ε}
    (kept : ∀ {m m'}, P m → Move fits m m' → P m')
    (round : ∀ m, P m → Moves fits m (body m).machine) (rounds : Nat) (initial : P m) :
    Moves fits m (repeated body rounds m).machine := by
  induction rounds generalizing m with
  | zero => exact .refl
  | succ rounds ih =>
    have first := round m initial
    exact andThen_moves first (ih (first.invariant kept initial))

theorem restoring_moves {o : Outcome ε} {restore : State → State}
    (first : Moves fits m o.machine) (last : Moves fits o.machine (o.machine.modifyState restore)) :
    Moves fits m (restoring restore o).machine := by
  unfold restoring
  split
  · exact first.trans last
  · exact first

/-! ### Drawing commands -/

@[simp] theorem takeColor_state (m : Machine ε) (color : PenColor) :
    (m.takeColor color).state = m.state := by
  simp only [takeColor]
  split <;> rfl

@[simp] theorem takeColor_journal (m : Machine ε) (color : PenColor) :
    (m.takeColor color).journal = m.journal := by
  simp only [takeColor]
  split <;> rfl

theorem takeColor_surface (m : Machine ε) (color : PenColor) :
    (m.takeColor color).surface =
      let lined := m.surface.put .lineColor (.text color.word)
      if lined.palette.fill.isFalse then lined
      else lined.put .fillColor (.text color.word) :=
  apply_ite Machine.surface ..

@[simp] theorem takeColor_medium (m : Machine ε) (color : PenColor) :
    (m.takeColor color).surface.medium = m.surface.medium := by
  simp only [takeColor_surface]
  split <;> rfl

/-- A property is set if it takes the value, whatever surface it is a property of. -/
theorem setProperty_eq (m : Machine ε) (property : Property) (v : Value) :
    m.setProperty property v =
      if Palette.accepts property v then (m.putProperty property v).done
      else m.fail (.rejected property v) := by
  unfold setProperty Surface.set Palette.set
  by_cases accepted : Palette.accepts property v = true
  · simp only [if_pos accepted]
    rfl
  · simp only [if_neg accepted]
    rfl

theorem applyPen_moves (m : Machine ε) : Moves fits m m.applyPen.machine := by
  rw [applyPen, setProperty_eq]
  split
  · exact .single (.applyPen m)
  · exact .refl

@[simp] theorem logNotes_state (nesting : Nesting) (notes : List Note) :
    (m.logNotes nesting notes).state = m.state := by
  induction notes generalizing m with
  | nil => rfl
  | cons note notes ih => exact ih

theorem logNotes_moves (nesting : Nesting) (notes : List Note) :
    Moves fits m (m.logNotes nesting notes) := by
  induction notes generalizing m with
  | nil => exact .refl
  | cons note notes ih => exact .head (.log m nesting (.noted note)) ih

theorem draw_moves (m : Machine ε) (nesting : Nesting) (f : Figure) :
    Moves fits m (m.draw nesting f).machine := by
  -- The surface changes before the failure is looked at.
  have drawn : Moves fits m
      (({ m with surface := (m.surface.draw f).1 } : Machine ε).logNotes nesting
        (m.surface.draw f).2.1) :=
    .head (.draw m f) (logNotes_moves nesting _)
  simp only [draw]
  split
  · exact drawn
  · exact drawn

theorem clearSurface_moves (m : Machine ε) (nesting : Nesting) :
    Moves fits m (m.clearSurface nesting) :=
  .head (.clear m) (logNotes_moves nesting _)

theorem drawShape_moves (m : Machine ε) (nesting : Nesting) (shape : Shape) :
    Moves fits m (m.drawShape nesting shape).machine := by
  refine andThen_moves (applyPen_moves m) ?_
  split
  · exact andThen_moves (draw_moves _ nesting _) (draw_moves _ nesting _)
  · exact draw_moves _ nesting _

theorem withValue_moves {α : Type} {value : Except Failure α} {next : α → Outcome ε}
    (goesOn : ∀ a, Moves fits m (next a).machine) :
    Moves fits m (m.withValue value next).machine := by
  cases value with
  | ok a => exact goesOn a
  | error f => exact .refl

theorem setPen_moves (m : Machine ε) (nesting : Nesting) (arguments : List Text) :
    Moves fits m (m.setPen nesting arguments).machine := by
  unfold setPen
  split
  · exact .refl
  · split
    next color _ => exact .single (.color m color)
    · exact .single (.log m nesting _)

theorem setFill_moves (m : Machine ε) (nesting : Nesting) (arguments : List Text) :
    Moves fits m (m.setFill nesting arguments).machine := by
  unfold setFill
  split
  · exact .refl
  · split
    next mode _ => exact .single (.pen { m.state.pen with fill := mode } rfl)
    · exact .single (.log m nesting _)

private theorem moveTo_moves (m : Machine ε) (x y : Int) :
    Moves fits m (m.modifyPen fun pen => pen.moveTo x y) :=
  .single (.pen (m.state.pen.moveTo x y) rfl)

theorem perform_moves (m : Machine ε) (nesting : Nesting) (primitive : Primitive)
    (arguments : List Text) : Moves fits m (m.perform nesting primitive arguments).machine := by
  cases primitive with
  | moveTo => exact withValue_moves fun p => moveTo_moves m p.1 p.2
  | drawTo =>
    refine withValue_moves fun p => andThen_moves (applyPen_moves m) ?_
    exact andThen_moves (draw_moves _ nesting _) (moveTo_moves _ p.1 p.2)
  | clear => exact (clearSurface_moves m nesting).trans (moveTo_moves _ 0 0)
  | reset => exact moveTo_moves m 0 0
  | rectangle => exact withValue_moves fun _ => drawShape_moves m nesting _
  | circle => exact withValue_moves fun _ => drawShape_moves m nesting _
  | triangle => exact withValue_moves fun _ => drawShape_moves m nesting _
  | pen => exact setPen_moves m nesting arguments
  | fill => exact setFill_moves m nesting arguments

theorem command_moves (m : Machine ε) (nesting : Nesting) (keyword : Keyword)
    (arguments : List Text) : Moves fits m (m.command nesting keyword arguments).machine := by
  unfold command
  split
  next primitive => exact .head (.log m nesting _) (perform_moves _ nesting primitive arguments)
  · exact .refl

/-! ### Lines outside of a block -/

theorem openBranch_moves {line : Line} (fit : fits line)
    (opens : line.opens .conditional = true) (arguments : List Text) :
    Moves fits m (openBranch line arguments m).machine := by
  unfold openBranch
  split
  · exact .single (.push fit opens (by simp))
  next gate =>
    split
    · exact .single (.push fit opens fun _ => by simpa using gate)
    · exact .single (.push fit opens (by simp))
    · exact .refl

theorem closeBranch_moves (line : Line) : Moves fits m (closeBranch line m).machine := by
  unfold closeBranch
  split
  · exact .refl
  next inner => exact .single (.pop inner)

theorem assign_moves {line : Line} {name expression : Text} (fit : fits line)
    (read : Statement.classify line.text = .ok (.assignment name expression)) :
    Moves fits m (assign line name expression m).machine := by
  unfold assign
  split
  · exact .single (.assign fit read _)
  · exact .refl

theorem runCommand_moves (nesting : Nesting) (line : Line) :
    Moves fits m (runCommand nesting line m).machine := by
  unfold runCommand
  split
  · exact .refl
  · exact .refl
  · split
    · exact .refl
    · split
      · exact .refl
      · exact command_moves m nesting _ _

theorem openLoop_moves {line : Line} (fit : fits line) (opens : line.opens .loop = true)
    (idle : m.state.mode = .idle) (nesting : Nesting) (arguments : List Text) :
    Moves fits m (openLoop nesting line arguments m).machine := by
  have opened (count : Nat) (discarded : Bool) :
      Moves fits m
        (m.modifyState fun s => { s with mode := .loop ⟨count, line, [], discarded, 0⟩ }) :=
    .single (.turn (idle ▸ .openLoop fit opens count discarded))
  simp only [openLoop]
  split
  · exact .refl
  · split
    · exact opened 0 false
    · split
      next count _ => exact opened count false
      · exact opened 0 true
      · exact .refl

theorem openMethod_moves {line : Line} (fit : fits line) (opens : line.opens .method = true)
    (idle : m.state.mode = .idle) : Moves fits m (openMethod line m).machine := by
  have turned := Mode.Turn.openMethod fit opens
  simp only [openMethod]
  split
  next header parsed =>
    simp only [parsed, Option.isNone_some] at turned
    exact .single (.turn (idle ▸ turned))
  next parsed =>
    simp only [parsed, Option.isNone_none] at turned
    exact .single (.turn (idle ▸ turned))

/-! ### Lines of an open block -/

theorem closeMethod_moves {block : Block (Option Header)} (collected : m.state.mode = .method block)
    (nesting : Nesting) : Moves fits m (closeMethod nesting block m).machine := by
  unfold closeMethod
  split
  next header named =>
    exact .tail (.single (.define collected named)) (.log _ nesting _)
  · exact .refl

/-- A line ends the open block, if it is not discarded, or makes a turn of it, which never
fails. -/
theorem collect_cases {α : Type} {kind : BlockKind} {nestedCause : Cause} {block : Block α}
    {rewrap : Block α → Mode} {close : Machine ε → Outcome ε} {line : Line}
    {statement : Statement} (fit : fits line)
    (read : Statement.classify line.text = .ok statement)
    (turn : ∀ {next}, Block.Turn fits kind block next → Mode.Turn fits m.state.mode (rewrap next))
    (nesting : Nesting) {o : Outcome ε}
    (collected : collect kind nestedCause block rewrap close nesting line statement m = o) :
    (block.discarded = false ∧ o = close m) ∨
      (Moves fits m o.machine ∧ ∀ f, o.stop ≠ some (.failure f)) := by
  have turned {next : Block α} (t : Block.Turn fits kind block next) :
      Moves fits m (m.modifyState fun s => { s with mode := rewrap next }) :=
    .single (.turn (turn t))
  have other := Statement.isOf_classify read kind
  subst collected
  unfold collect
  split
  next found closing _ =>
    split
    next different =>
      -- A line of a block of another kind is kept like any other.
      refine Or.inr ⟨turned (.keep fit ?_), by simp [done]⟩
      rw [← other]
      simpa [Statement.isOf] using different
    · split
      · -- An inner block makes the outer one discarded, and is a fault the first time.
        refine Or.inr ?_
        split
        · exact ⟨turned (.deepen block), by simp [done]⟩
        · exact ⟨turned (.deepen block), by simp [fault, stopWith]⟩
      · split
        next inner => exact Or.inr ⟨turned (.raise inner), by simp [done]⟩
        · split
          · exact Or.inr ⟨.tail (.single (.log m nesting _)) (.turn (.close _)), by simp [done]⟩
          next kept => exact Or.inl ⟨by simpa using kept, rfl⟩
  next notBlock =>
    refine Or.inr ⟨turned (.keep fit ?_), by simp [done]⟩
    rw [← other]
    cases statement with
    | block found closing arguments => exact absurd rfl (notBlock found closing arguments)
    | _ => rfl

theorem collect_moves {α : Type} {kind : BlockKind} {nestedCause : Cause} {block : Block α}
    {rewrap : Block α → Mode} {close : Machine ε → Outcome ε} {line : Line}
    {statement : Statement} (fit : fits line)
    (read : Statement.classify line.text = .ok statement)
    (turn : ∀ {next}, Block.Turn fits kind block next → Mode.Turn fits m.state.mode (rewrap next))
    (closes : Moves fits m (close m).machine) (nesting : Nesting) :
    Moves fits m
      (collect kind nestedCause block rewrap close nesting line statement m).machine := by
  generalize collected :
    collect kind nestedCause block rewrap close nesting line statement m = o
  rcases collect_cases fit read turn nesting collected with ⟨_, rfl⟩ | ⟨moves, _⟩
  · exact closes
  · exact moves

/-! ### Calls and replays -/

section Calls

variable {P : Machine ε → Prop} {deeper : Option (Runner ε)} {limit : Text}

theorem requireClosedLoop_moves (m : Machine ε) : Moves fits m (requireClosedLoop m).machine := by
  unfold requireClosedLoop
  split
  · exact .single (.turn (.close _))
  · exact .refl

theorem withoutLoop_moves (m : Machine ε) :
    Moves fits m (m.modifyState fun s => { s with mode := s.mode.withoutLoop }) := by
  obtain ⟨⟨store, methods, pen, conditions, mode, report⟩, surface, journal⟩ := m
  cases mode with
  | loop block => exact .single (.turn (.close _))
  | idle => exact .refl
  | method block => exact .refl

theorem enter_moves (guarded : Guarded fits P) {runner : Runner ε}
    (runs : ∀ nesting line m, P m → fits line → Moves fits m (runner nesting line m).machine)
    {lines : List Line} (fit : ∀ line ∈ lines, fits line) (nesting : Nesting) (initial : P m) :
    Moves fits m (enter runner nesting lines m).machine := by
  have ran : Moves fits m
      ((runAll (runner { nesting with calls := nesting.calls + 1 }) lines m).andThen
        requireClosedLoop).machine := by
    -- The invariant holds before every line, so every line fits where it is run.
    refine andThen_moves (runAll_moves guarded.kept ?_ initial) (requireClosedLoop_moves _)
    exact fun line member m holds => runs _ line m holds (fit line member)
  refine restoring_moves ran ?_
  -- The open loop is dropped first, then the branches beyond the depth of the call.
  exact (withoutLoop_moves _).tail (.truncate _ m.state.depth)

theorem call_moves (guarded : Guarded fits P)
    (runs : CallsMove fits P deeper) {line : Line} {invocation : Call} (fit : fits line)
    (read : Statement.classify line.text = .ok (.call invocation)) (nesting : Nesting)
    (initial : P m) : Moves fits m (call deeper limit nesting line invocation m).machine := by
  unfold call
  split
  · exact .refl
  next method found =>
    split
    · exact .refl
    · split
      · exact .refl
      next runner =>
        exact enter_moves guarded (runs runner rfl) (guarded.expands initial fit read found) nesting
          initial

theorem execute_moves (guarded : Guarded fits P)
    (runs : CallsMove fits P deeper) {line : Line} {statement : Statement} (fit : fits line)
    (read : Statement.classify line.text = .ok statement) (nesting : Nesting) (initial : P m) :
    Moves fits m (execute deeper limit nesting line statement m).machine := by
  unfold execute
  split
  · exact closeBranch_moves line
  · exact openBranch_moves fit (Statement.opens_of_classify read) _
  · exact .refl
  · exact .refl
  · exact .refl
  · split
    · exact .single (.log m nesting _)
    · split
      · exact call_moves guarded runs fit read nesting initial
      · exact assign_moves fit read
      · exact runCommand_moves nesting line
      · exact .refl
      · exact .refl

theorem replayLine_moves (guarded : Guarded fits P) (runs : CallsMove fits P deeper) {line : Line}
    (fit : fits line) (nesting : Nesting) (initial : P m) :
    Moves fits m (classified line m fun statement =>
      execute deeper limit nesting line statement m).machine := by
  unfold classified
  split
  next statement read => exact execute_moves guarded runs fit read nesting initial
  · exact .refl

theorem replayOnce_moves (guarded : Guarded fits P) (runs : CallsMove fits P deeper)
    {body : List Line} (fit : ∀ line ∈ body, fits line) (nesting : Nesting) (initial : P m) :
    Moves fits m (replayOnce deeper limit nesting body m).machine :=
  runAll_moves guarded.kept
    (fun line member _ holds => replayLine_moves guarded runs (fit line member) nesting holds)
    initial

theorem closeLoop_moves (guarded : Guarded fits P)
    (runs : CallsMove fits P deeper) {block : Block Nat} (collected : m.state.mode = .loop block)
    (nesting : Nesting) (initial : P m) :
    Moves fits m (closeLoop deeper limit nesting block m).machine := by
  have closed : Moves fits m ((m.modifyState fun s => { s with mode := .idle }).log nesting
      (.replaying block.body.length block.header)) :=
    .tail (.single (.turn (.close _))) (.log _ nesting _)
  -- The lines are fixed when the replay starts, whatever they do to the machine.
  have fit := guarded.collected initial collected
  refine restoring_moves (closed.trans ?_) (.single (.truncate _ m.state.depth))
  exact repeated_moves guarded.kept (fun m holds => replayOnce_moves guarded runs fit _ holds)
    block.header (closed.invariant guarded.kept initial)

theorem start_moves (guarded : Guarded fits P)
    (runs : CallsMove fits P deeper) {line : Line} {statement : Statement} (fit : fits line)
    (read : Statement.classify line.text = .ok statement) (idle : m.state.mode = .idle)
    (nesting : Nesting) (initial : P m) :
    Moves fits m (start deeper limit nesting line statement m).machine := by
  unfold start
  split
  · exact .refl
  · exact openMethod_moves fit (Statement.opens_of_classify read) idle
  · exact openLoop_moves fit (Statement.opens_of_classify read) idle nesting _
  · exact execute_moves guarded runs fit read nesting initial

/-- A line that can be classified is noted in the journal before anything else is done. -/
theorem stepWith_noted_moves (guarded : Guarded fits P) (runs : CallsMove fits P deeper)
    {line : Line} {statement : Statement} (fit : fits line)
    (read : Statement.classify line.text = .ok statement) (nesting : Nesting) (initial : P m) :
    Moves fits (m.log nesting (.line m.state.mode.activity line.text))
      (stepWith deeper limit nesting line m).machine := by
  have holds : P (m.log nesting (.line m.state.mode.activity line.text)) :=
    guarded.kept initial (.log ..)
  simp only [stepWith, classified, read]
  split
  next block collected =>
    exact collect_moves (m := m.log ..) fit read (fun t => collected ▸ .method t)
      (closeMethod_moves (m := m.log ..) collected nesting) nesting
  next block collected =>
    exact collect_moves (m := m.log ..) fit read (fun t => collected ▸ .loop t)
      (closeLoop_moves (m := m.log ..) guarded runs collected nesting holds) nesting
  next idle => exact start_moves (m := m.log ..) guarded runs fit read idle nesting holds

theorem stepWith_moves (guarded : Guarded fits P) (runs : CallsMove fits P deeper) {line : Line}
    (fit : fits line) (nesting : Nesting) (initial : P m) :
    Moves fits m (stepWith deeper limit nesting line m).machine := by
  cases read : Statement.classify line.text with
  | ok statement =>
    exact .head (.log ..) (stepWith_noted_moves guarded runs fit read nesting initial)
  | error f =>
    simp only [stepWith, classified, read]
    exact .refl

end Calls

/-- The way to run the lines of a call when there is room for so many more. -/
def inner (limit : Text) : Nat → Option (Runner ε)
  | 0 => none
  | room + 1 => some (step limit room)

theorem step_eq_stepWith (limit : Text) (room : Nat) :
    (step limit room : Runner ε) = stepWith (inner limit room) limit := by
  cases room <;> rfl

theorem callsMove_inner {P : Machine ε → Prop} (guarded : Guarded fits P) (limit : Text)
    (room : Nat) : CallsMove fits P (inner limit room) := by
  induction room with
  | zero => simp [CallsMove, inner]
  | succ room ih =>
    -- A call has one level less than the line that makes it.
    rintro runner ⟨⟩ nesting line m holds fit
    rw [step_eq_stepWith]
    exact stepWith_moves guarded ih fit nesting holds

/-- A line does nothing but moves, as long as the invariant makes every line fit that it leads
to. -/
theorem step_moves {P : Machine ε → Prop} (guarded : Guarded fits P) (limit : Text) (room : Nat)
    {line : Line} (fit : fits line) (nesting : Nesting) (initial : P m) :
    Moves fits m (step limit room nesting line m).machine := by
  rw [step_eq_stepWith]
  exact stepWith_moves guarded (callsMove_inner guarded limit room) fit nesting initial

/-! ### What every line keeps -/

theorem Guarded.step {P : Machine ε → Prop} (guarded : Guarded fits P) (limit : Text) (room : Nat)
    {line : Line} (fit : fits line) (nesting : Nesting) (initial : P m) :
    P (step limit room nesting line m).machine :=
  (step_moves guarded limit room fit nesting initial).invariant guarded.kept initial

theorem Moves.report_eq (moves : Moves fits m m') : m'.state.report = m.state.report := by
  refine moves.invariant (P := fun m' => m'.state.report = m.state.report) ?_ rfl
  rintro m₁ m₂ same (_ | _ | _ | _ | _ | _ | _ | _ | _ | _ | _ | _)
  case color color => rwa [takeColor_state]
  all_goals exact same

end Machine

end Plotter
