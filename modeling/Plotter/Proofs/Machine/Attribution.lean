import Plotter.Proofs.Machine.Stopping
import Plotter.Proofs.Machine.Task

/-!
# The line that a diagnostic points at

A line of a method is run at the place of the call, and a line of a loop at its own.  So what goes
wrong while a line is fed is reported at that line, however deep in calls it comes up, unless the
line closes a loop: then it is reported at one of the lines of the loop.  A block that is still open
at the end is reported where it was opened.

`Line.StemsFrom` says of a line that some lines have led to it, and `Machine.Attributed` that
all the machine holds has come about in this way.  That a fault blames such a line is proved along
the recursion of a line, and that a block was opened by one along its moves.
-/

namespace Plotter

/-! ### Places -/

namespace Line

/-- Two lines at the same place of one source. -/
structure SamePlace (line other : Line) : Prop where
  number : line.number = other.number
  filename : line.filename = other.filename

def Calls (line : Line) : Prop :=
  ∃ invocation, Statement.classify line.text = .ok (.call invocation)

/-- One of the lines, or a line at the place of a call among them. -/
def StemsFrom (lines : List Line) (line : Line) : Prop :=
  ∃ source ∈ lines, line = source ∨ line.SamePlace source ∧ source.Calls

variable {lines : List Line} {line : Line}

theorem StemsFrom.of_mem (member : line ∈ lines) : line.StemsFrom lines :=
  ⟨line, member, Or.inl rfl⟩

theorem StemsFrom.expanded (stems : line.StemsFrom lines) (calls : line.Calls) (text : Text) :
    StemsFrom lines { line with text := text } := by
  obtain ⟨source, member, rfl | ⟨same, called⟩⟩ := stems
  · exact ⟨line, member, Or.inr ⟨⟨rfl, rfl⟩, calls⟩⟩
  · -- A call in a method is at the place of the outer call, and so are the lines it leads to.
    exact ⟨source, member, Or.inr ⟨⟨same.number, same.filename⟩, called⟩⟩

theorem StemsFrom.samePlace (stems : line.StemsFrom lines) :
    ∃ source ∈ lines, line.SamePlace source := by
  obtain ⟨source, member, rfl | ⟨same, _⟩⟩ := stems
  · exact ⟨line, member, rfl, rfl⟩
  · exact ⟨source, member, same⟩

end Line

def Diagnostic.PointsAt (d : Diagnostic) (line : Line) : Prop :=
  d.line = line.number ∧ d.span.start.filename = line.filename

theorem Fault.pointsAt {f : Fault} {line : Line} (same : f.line.SamePlace line) :
    f.diagnostic.PointsAt line :=
  ⟨same.number, same.filename⟩

/-! ### Faults of one line -/

/-- If the outcome is a fault, it blames a line that fits. -/
def Outcome.Blames {ε : Type} (fits : Line → Prop) (o : Outcome ε) : Prop :=
  ∀ f, o.stop = some (.fault f) → fits f.line

namespace Machine

variable {ε : Type} {fits : Line → Prop} {m : Machine ε} {line : Line}

@[simp] theorem done_blames (m : Machine ε) : m.done.Blames fits := by
  intro fault faulted
  cases faulted

@[simp] theorem fail_blames (m : Machine ε) (f : Failure) : (m.fail f).Blames fits := by
  intro fault faulted
  cases faulted

@[simp] theorem fault_blames_iff {cause : Cause} :
    (m.fault line cause).Blames fits ↔ fits line := by
  simp [Outcome.Blames, fault, stopWith]

theorem andThen_blames {o : Outcome ε} {next : Machine ε → Outcome ε} (first : o.Blames fits)
    (second : ∀ m, (next m).Blames fits) : (o.andThen next).Blames fits := by
  obtain ⟨m, stop⟩ := o
  cases stop with
  | none => exact second m
  | some stop => exact first

theorem applyPen_blames (m : Machine ε) : m.applyPen.Blames fits := by
  rw [applyPen, setProperty_eq]
  split
  · exact done_blames _
  · exact fail_blames m _

theorem draw_blames (m : Machine ε) (nesting : Nesting) (f : Figure) :
    (m.draw nesting f).Blames fits := by
  intro fault faulted
  rw [(draw_draws m nesting f).stop] at faulted
  simp at faulted

theorem drawShape_blames (m : Machine ε) (nesting : Nesting) (shape : Shape) :
    (m.drawShape nesting shape).Blames fits := by
  refine andThen_blames (applyPen_blames m) fun ready => ?_
  split
  · exact andThen_blames (draw_blames ready nesting _) fun filled => draw_blames filled nesting _
  · exact draw_blames ready nesting _

theorem withValue_blames {α : Type} {value : Except Failure α} {next : α → Outcome ε}
    (goesOn : ∀ a, (next a).Blames fits) : (m.withValue value next).Blames fits := by
  cases value with
  | ok a => exact goesOn a
  | error f => exact fail_blames m f

theorem perform_blames (m : Machine ε) (nesting : Nesting) (primitive : Primitive)
    (arguments : List Text) : (m.perform nesting primitive arguments).Blames fits := by
  -- A drawing command can fail, but what the script is to blame for has been checked before.
  cases primitive with
  | moveTo => exact withValue_blames fun _ => done_blames _
  | drawTo =>
    refine withValue_blames fun _ => andThen_blames (applyPen_blames m) fun ready => ?_
    exact andThen_blames (draw_blames ready nesting _) fun _ => done_blames _
  | clear => exact done_blames _
  | reset => exact done_blames _
  | rectangle => exact withValue_blames fun _ => drawShape_blames m nesting _
  | circle => exact withValue_blames fun _ => drawShape_blames m nesting _
  | triangle => exact withValue_blames fun _ => drawShape_blames m nesting _
  | pen =>
    show (m.setPen nesting arguments).Blames fits
    unfold setPen
    split
    · exact fail_blames m _
    · split <;> exact done_blames _
  | fill =>
    show (m.setFill nesting arguments).Blames fits
    unfold setFill
    split
    · exact fail_blames m _
    · split <;> exact done_blames _

theorem runCommand_blames (fit : fits line) (nesting : Nesting) (m : Machine ε) :
    (runCommand nesting line m).Blames fits := by
  unfold runCommand
  split
  · exact fail_blames m _
  · exact fail_blames m _
  · split
    · exact fail_blames m _
    · split
      · exact fault_blames_iff.mpr fit
      · unfold command
        split
        · exact perform_blames _ nesting _ _
        · exact fail_blames m _

theorem openBranch_blames (fit : fits line) (arguments : List Text) (m : Machine ε) :
    (openBranch line arguments m).Blames fits := by
  unfold openBranch
  split
  · exact done_blames _
  · split
    · exact done_blames _
    · exact fault_blames_iff.mpr fit
    · exact fail_blames m _

theorem closeBranch_blames (fit : fits line) (m : Machine ε) :
    (closeBranch line m).Blames fits := by
  unfold closeBranch
  split
  · exact fault_blames_iff.mpr fit
  · exact done_blames _

theorem assign_blames (fit : fits line) (name expression : Text) (m : Machine ε) :
    (assign line name expression m).Blames fits := by
  unfold assign
  split
  · exact done_blames _
  next problem _ =>
    cases problem with
    | cause c => exact fault_blames_iff.mpr fit
    | failure f => exact fail_blames m f

theorem call_none_blames (fit : fits line) (limit : Text) (nesting : Nesting) (invocation : Call)
    (m : Machine ε) : (call none limit nesting line invocation m).Blames fits := by
  unfold call
  split
  · exact fault_blames_iff.mpr fit
  · split <;> exact fault_blames_iff.mpr fit

theorem execute_none_blames (fit : fits line) (limit : Text) (nesting : Nesting)
    (statement : Statement) (m : Machine ε) :
    (execute none limit nesting line statement m).Blames fits := by
  unfold execute
  split
  · exact closeBranch_blames fit m
  · exact openBranch_blames fit _ m
  · exact fault_blames_iff.mpr fit
  · exact fault_blames_iff.mpr fit
  · exact fault_blames_iff.mpr fit
  · split
    · exact done_blames _
    · split
      · exact call_none_blames fit limit nesting _ m
      · exact assign_blames fit _ _ m
      · exact runCommand_blames fit nesting m
      · exact fault_blames_iff.mpr fit
      · exact done_blames m

theorem openLoop_blames (fit : fits line) (nesting : Nesting) (arguments : List Text)
    (m : Machine ε) : (openLoop nesting line arguments m).Blames fits := by
  simp only [openLoop]
  split
  · exact fault_blames_iff.mpr fit
  · split
    · exact done_blames _
    · split
      · exact done_blames _
      · exact fault_blames_iff.mpr fit
      · exact fail_blames m _

theorem openMethod_blames (fit : fits line) (m : Machine ε) :
    (openMethod line m).Blames fits := by
  simp only [openMethod]
  split
  · exact done_blames _
  · exact fault_blames_iff.mpr fit

theorem start_none_blames (fit : fits line) (limit : Text) (nesting : Nesting)
    (statement : Statement) (m : Machine ε) :
    (start none limit nesting line statement m).Blames fits := by
  unfold start
  split
  · exact fault_blames_iff.mpr fit
  · exact openMethod_blames fit m
  · exact openLoop_blames fit nesting _ m
  · exact execute_none_blames fit limit nesting _ m

theorem closeMethod_blames (nesting : Nesting) (block : Block (Option Header)) (m : Machine ε) :
    (closeMethod nesting block m).Blames fits := by
  unfold closeMethod
  split
  · exact done_blames _
  · exact fail_blames m _

theorem collect_blames {α : Type} {kind : BlockKind} {nestedCause : Cause} {block : Block α}
    {rewrap : Block α → Mode} {close : Machine ε → Outcome ε} (fit : fits line)
    (closes : (close m).Blames fits) (nesting : Nesting) (statement : Statement) :
    (collect kind nestedCause block rewrap close nesting line statement m).Blames fits := by
  unfold collect
  split
  · split
    · exact done_blames _
    · split
      · split
        · exact done_blames _
        · exact fault_blames_iff.mpr fit
      · split
        · exact done_blames _
        · split
          · exact done_blames _
          · exact closes
  · exact done_blames _

end Machine

/-! ### Lines that have opened a block -/

/-- The lines that an open block holds, that which has opened it included. -/
def Mode.lines : Mode → List Line
  | .idle => []
  | .loop block => block.openedAt :: block.body
  | .method block => block.openedAt :: block.body

/-- The kind of the open block and the line that has opened it. -/
def Mode.opening? : Mode → Option (BlockKind × Line)
  | .idle => none
  | .loop block => some (.loop, block.openedAt)
  | .method block => some (.method, block.openedAt)

/-- A block of the kind or a conditional is open that the line has opened. -/
def State.Opened (s : State) (kind : BlockKind) (line : Line) : Prop :=
  s.mode.opening? = some (kind, line) ∨
    kind = .conditional ∧ line ∈ s.conditions.map Branch.openedAt

theorem State.opened_iff_of_idle {s : State} {kind : BlockKind} {line : Line}
    (idle : s.mode = .idle) :
    s.Opened kind line ↔ kind = .conditional ∧ line ∈ s.conditions.map Branch.openedAt := by
  simp [State.Opened, idle, Mode.opening?]

section Turns

variable {fits : Line → Prop} {line : Line} {mode mode' : Mode}

private theorem Block.Turn.mem_lines {α : Type} {kind : BlockKind} {block next : Block α}
    (turn : Block.Turn fits kind block next) (member : line ∈ next.openedAt :: next.body) :
    line ∈ block.openedAt :: block.body ∨ fits line := by
  rcases List.mem_cons.mp member with rfl | inBody
  · exact Or.inl (turn.openedAt_eq ▸ List.mem_cons_self ..)
  · exact (turn.mem_body inBody).imp_left (List.mem_cons_of_mem _)

theorem Mode.Turn.mem_lines (turn : Mode.Turn fits mode mode') (member : line ∈ mode'.lines) :
    line ∈ mode.lines ∨ fits line := by
  cases turn with
  | openLoop fit | openMethod fit =>
    rw [List.mem_singleton.mp member]
    exact Or.inr fit
  | loop turn => exact turn.mem_lines member
  | method turn => exact turn.mem_lines member
  | close => cases member

theorem Mode.Turn.opening? {kind : BlockKind} (turn : Mode.Turn fits mode mode')
    (opened : mode'.opening? = some (kind, line)) :
    mode.opening? = some (kind, line) ∨ fits line ∧ line.opens kind = true := by
  cases turn with
  | openLoop fit opens | openMethod fit opens =>
    cases opened
    exact Or.inr ⟨fit, opens⟩
  | loop turn =>
    simp only [Mode.opening?, turn.openedAt_eq] at opened
    exact Or.inl opened
  | method turn =>
    simp only [Mode.opening?, turn.openedAt_eq] at opened
    exact Or.inl opened
  | close => cases opened

end Turns

namespace Machine

variable {ε : Type} {fits : Line → Prop} {known : BlockKind → Line → Prop} {m m' : Machine ε}
  {line : Line} {kind : BlockKind}

theorem mem_openBlocks {s : State} {f : Fault} (member : f ∈ openBlocks s) :
    ∃ kind, f.cause = .unterminated kind ∧ s.Opened kind f.line := by
  rcases List.mem_append.mp member with collected | conditional
  · cases mode : s.mode with
    | idle => simp [mode] at collected
    | loop block =>
      simp only [mode, List.mem_singleton] at collected
      subst collected
      exact ⟨.loop, rfl, Or.inl (by rw [mode]; rfl)⟩
    | method block =>
      simp only [mode, List.mem_singleton] at collected
      subst collected
      exact ⟨.method, rfl, Or.inl (by rw [mode]; rfl)⟩
  · obtain ⟨branch, inside, rfl⟩ := List.mem_map.mp conditional
    exact ⟨.conditional, rfl, Or.inr ⟨rfl, List.mem_map_of_mem (List.mem_reverse.mp inside)⟩⟩

/-- What is open after a move was open before, or a line that fits has opened it. -/
theorem Move.opened (move : Move fits m m') (isOpen : m'.state.Opened kind line) :
    m.state.Opened kind line ∨ fits line ∧ line.opens kind = true := by
  cases move with
  | log | pen | applyPen | draw | clear | assign => exact Or.inl isOpen
  | color color =>
    rw [takeColor_state] at isOpen
    exact Or.inl isOpen
  | push fit opens =>
    rcases isOpen with block | ⟨rfl, member⟩
    · exact Or.inl (Or.inl block)
    · rcases List.mem_cons.mp member with rfl | outer
      · exact Or.inr ⟨fit, opens⟩
      · exact Or.inl (Or.inr ⟨rfl, outer⟩)
  | pop inner =>
    refine Or.inl (isOpen.imp_right fun ⟨conditional, member⟩ => ⟨conditional, ?_⟩)
    rw [inner]
    exact List.mem_cons_of_mem _ member
  | truncate depth =>
    refine Or.inl (isOpen.imp_right fun ⟨conditional, member⟩ => ⟨conditional, ?_⟩)
    obtain ⟨branch, inside, rfl⟩ := List.mem_map.mp member
    exact List.mem_map_of_mem (List.mem_of_mem_drop inside)
  | turn turned =>
    rcases isOpen with block | conditional
    · exact (turned.opening? block).imp_left Or.inl
    · exact Or.inl (Or.inr conditional)
  | define =>
    rcases isOpen with block | conditional
    · cases block
    · exact Or.inl (Or.inr conditional)

theorem Moves.opened (moves : Moves fits m m') (isOpen : m'.state.Opened kind line) :
    m.state.Opened kind line ∨ fits line ∧ line.opens kind = true := by
  induction moves with
  | refl => exact Or.inl isOpen
  | tail _ last ih => exact (last.opened isOpen).elim ih Or.inr

/-- The open block holds lines that fit, and what is open was known to be or has been opened by
lines that fit. -/
structure Attributed (fits : Line → Prop) (known : BlockKind → Line → Prop) (m : Machine ε) :
    Prop where
  held : ∀ line ∈ m.state.mode.lines, fits line
  opened : ∀ kind line, m.state.Opened kind line →
    known kind line ∨ fits line ∧ line.opens kind = true

/-- What has come about since a machine, a fault or an open block, is due to a line that fits. -/
structure DueTo (fits : Line → Prop) (m : Machine ε) (o : Outcome ε) : Prop where
  blames : o.Blames fits
  opened : ∀ kind opened, o.machine.state.Opened kind opened →
    m.state.Opened kind opened ∨ fits opened ∧ opened.opens kind = true

theorem Attributed.of_state (attributed : m.Attributed fits known)
    (mode : m'.state.mode = m.state.mode) (conditions : m'.state.conditions = m.state.conditions) :
    m'.Attributed fits known := by
  refine ⟨fun line member => attributed.held line (mode ▸ member), fun kind line isOpen => ?_⟩
  apply attributed.opened kind line
  rwa [State.Opened, ← mode, ← conditions]

theorem Attributed.of_idle (idle : m.state.mode = .idle) :
    m.Attributed fits m.state.Opened :=
  ⟨by simp [idle, Mode.lines], fun _ _ => Or.inl⟩

theorem Attributed.move (attributed : m.Attributed fits known) (move : Move fits m m') :
    m'.Attributed fits known := by
  have opened : ∀ kind line, m'.state.Opened kind line →
      known kind line ∨ fits line ∧ line.opens kind = true := by
    intro kind line isOpen
    exact (move.opened isOpen).elim (attributed.opened kind line) Or.inr
  refine ⟨?_, opened⟩
  cases move with
  | turn turned =>
    intro line member
    exact (turned.mem_lines member).elim (attributed.held line) id
  | define =>
    -- The method is stored, and nothing is held any more.
    intro line member
    cases member
  | color color =>
    rw [takeColor_state]
    exact attributed.held
  | _ => exact attributed.held

theorem guarded_attributed
    (expanded : ∀ {line : Line}, fits line → line.Calls → ∀ text, fits { line with text := text }) :
    Guarded fits (Attributed (ε := ε) fits known) where
  kept attributed move := attributed.move move
  expands _ fit read _ inner member := by
    -- Of a line of the method only the text is used, at the place of the call.
    obtain ⟨kept, _, rfl⟩ := List.mem_map.mp member
    exact expanded fit ⟨_, read⟩ _
  collected attributed looping line member :=
    attributed.held line (by rw [looping]; exact List.mem_cons_of_mem _ member)

end Machine

/-! ### Faults and openings in the course of a line -/

namespace Agenda

open Machine

variable {ε : Type} {fits : Line → Prop} {o : Outcome ε}

theorem conclude_moves (agenda : Agenda) (depth : Nat) (o : Outcome ε) :
    Moves fits o.machine (agenda.conclude depth o).machine := by
  cases agenda with
  | call lines =>
    refine restoring_moves (andThen_moves .refl (requireClosedLoop_moves _)) ?_
    exact (withoutLoop_moves _).tail (.truncate _ depth)
  | replay block => exact restoring_moves .refl (.single (.truncate _ depth))

theorem conclude_blames (held : ∀ line ∈ o.machine.state.mode.lines, fits line)
    (blames : o.Blames fits) (agenda : Agenda) (depth : Nat) :
    (agenda.conclude depth o).Blames fits := by
  have restored (restore : State → State) {o : Outcome ε} (blames : o.Blames fits) :
      (restoring restore o).Blames fits := by
    unfold restoring
    split <;> exact blames
  cases agenda with
  | replay block => exact restored _ blames
  | call lines =>
    refine restored _ ?_
    obtain ⟨m, stop⟩ := o
    cases stop with
    | some stop => exact blames
    | none =>
      show (requireClosedLoop m).Blames fits
      unfold requireClosedLoop
      split
      next block looping =>
        -- A loop that the lines of a call leave open is blamed on its header.
        refine fault_blames_iff.mpr (held _ ?_)
        rw [show m.state.mode = .loop block from looping]
        exact List.mem_cons_self ..
      · exact done_blames m

end Agenda

namespace Task

open Machine

variable {ε : Type} {settings : Settings} {fits : Line → Prop}
  {known : BlockKind → Line → Prop} {t : Task ε}

theorem blames_of_alone (alone : t.agenda? settings = none) (fit : fits t.line) :
    (t.outcome settings).Blames fits := by
  rw [outcome_of_none alone]
  cases read : Statement.classify t.line.text with
  | error f =>
    simp only [runBy, stepWith, classified, read]
    split <;> exact fail_blames _ f
  | ok statement =>
    cases way : t.way with
    | replayed =>
      simp only [runBy, way, classified, read]
      exact execute_none_blames fit _ t.nesting statement t.machine
    | taken =>
      simp only [runBy, way, stepWith, classified, read]
      cases mode : t.machine.state.mode with
      | idle => exact start_none_blames fit _ t.nesting statement _
      | method block => exact collect_blames fit (closeMethod_blames t.nesting block _) _ statement
      | loop block =>
        dsimp only
        rw [collect_eq Machine.done (unended_of_alone alone way mode read)]
        exact collect_blames fit (done_blames _) _ statement

/-- A line of an open block that runs no others makes only moves of its own.  The lines that the
block holds play no part in it, so they need not fit. -/
theorem moves_of_collected (taken : t.way = .taken) (alone : t.agenda? settings = none)
    (collecting : t.machine.state.mode ≠ .idle) (fit : fits t.line) :
    Moves fits t.machine (t.outcome settings).machine := by
  rw [outcome_of_none alone]
  cases read : Statement.classify t.line.text with
  | error f =>
    simp only [runBy, taken, stepWith, classified, read]
    exact .refl
  | ok statement =>
    simp only [runBy, taken, stepWith, classified, read]
    -- The line is noted first, which leaves the open block alone.
    generalize noted : t.machine.log t.nesting
      (.line t.machine.state.mode.activity t.line.text) = m
    have same : m.state = t.machine.state := by
      rw [← noted]
      rfl
    have logged : Move fits t.machine m := by
      rw [← noted]
      exact .log ..
    refine .head logged ?_
    cases mode : t.machine.state.mode with
    | idle => exact absurd mode collecting
    | method block =>
      have defining : m.state.mode = .method block := same ▸ mode
      exact collect_moves fit read (fun turn => defining ▸ .method turn)
        (closeMethod_moves defining t.nesting) t.nesting
    | loop block =>
      have looping : m.state.mode = .loop block := same ▸ mode
      dsimp only
      rw [collect_eq Machine.done (unended_of_alone alone taken mode read)]
      exact collect_moves fit read (fun turn => looping ▸ .loop turn) .refl t.nesting

theorem dueTo_of_collected (taken : t.way = .taken) (alone : t.agenda? settings = none)
    (collecting : t.machine.state.mode ≠ .idle) (fit : fits t.line) :
    DueTo fits t.machine (t.outcome settings) := by
  constructor
  · exact blames_of_alone alone fit
  · intro kind opened isOpen
    exact (moves_of_collected taken alone collecting fit).opened isOpen

section Expanding

variable
  (expanded : ∀ {line : Line}, fits line → line.Calls → ∀ text, fits { line with text := text })

include expanded

theorem attributed_of_agenda {agenda : Agenda} (planned : t.agenda? settings = some agenda)
    (fit : ∀ part ∈ t.started settings, fits part.line)
    (initial : (agenda.opening t.nesting t.noted).Attributed fits known)
    (blame : ∀ part ∈ t.started settings, fits part.line → part.machine.Attributed fits known →
      (part.outcome settings).Blames fits) :
    (t.outcome settings).machine.Attributed fits known ∧ (t.outcome settings).Blames fits := by
  have guarded : Guarded fits (Attributed (ε := ε) fits known) := guarded_attributed expanded
  let Q (o : Outcome ε) : Prop := o.machine.Attributed fits known ∧ o.Blames fits
  -- Each further line starts from where the one before has come to, so both go along the run.
  have steps : ∀ part ∈ t.started settings, Q part.machine.done → Q (part.outcome settings) := by
    intro part started before
    have here := fit part started
    exact ⟨guarded_outcome guarded here before.1, blame part started here before.1⟩
  obtain ⟨attributed, blames⟩ := (ran_invariant planned ⟨initial, done_blames _⟩ steps).2
  rw [outcome_of_agenda planned]
  constructor
  · exact (agenda.conclude_moves _ _).invariant guarded.kept attributed
  · exact agenda.conclude_blames attributed.held blames _

/-- Whatever a line that fits leads to, the fault that ends it blames a line that fits. -/
theorem blames_outcome (fit : fits t.line) (holds : t.machine.Attributed fits known) :
    (t.outcome settings).Blames fits := by
  have guarded : Guarded fits (Attributed (ε := ε) fits known) := guarded_attributed expanded
  -- The induction is over the tasks that a task starts, since only those can end it in a fault.
  induction t using (wellFounded_started settings).induction with
  | _ t ih =>
    cases planned : t.agenda? settings with
    | none => exact blames_of_alone planned fit
    | some agenda =>
      have opening := guarded_opening guarded holds agenda
      have inner : ∀ part ∈ t.started settings, fits part.line := by
        intro part started
        exact guarded_line guarded fit holds started
      exact (attributed_of_agenda expanded planned inner opening ih).2

theorem dueTo_of_idle (idle : t.machine.state.mode = .idle) (fit : fits t.line) :
    DueTo fits t.machine (t.outcome settings) := by
  have attributed : t.machine.Attributed fits t.machine.state.Opened := .of_idle idle
  constructor
  · exact blames_outcome expanded fit attributed
  · exact (guarded_outcome (guarded_attributed expanded) fit attributed).opened

/-- The closing line of a loop, which itself need not fit, is due to the lines of the loop. -/
theorem dueTo_of_replay {block : Block Nat} (taken : t.way = .taken)
    (looping : t.machine.state.mode = .loop block) (closing : t.closes block = true)
    (fit : ∀ line ∈ block.body, fits line) : DueTo fits t.machine (t.outcome settings) := by
  have planned : t.agenda? settings = some (.replay block) := by
    simp [agenda?, taken, looping, closing]
  -- The header need not fit either, but the lines are run on a machine that is idle again.
  have opening : ((Agenda.replay block).opening t.nesting t.noted).Attributed fits
      t.machine.state.Opened := by
    constructor
    · intro line held
      cases held
    · intro kind opened isOpen
      rw [State.opened_iff_of_idle rfl, opening_conditions] at isOpen
      exact Or.inl (Or.inr isOpen)
  have inner : ∀ part ∈ t.started settings, fits part.line := by
    intro part started
    have member := (part_of_started planned started).1
    obtain ⟨round, repeats, inRound⟩ := List.mem_flatten.mp member
    rw [List.eq_of_mem_replicate repeats] at inRound
    exact fit _ inRound
  obtain ⟨attributed, blames⟩ := attributed_of_agenda expanded planned inner opening
    fun part _ here holds => blames_outcome expanded here holds
  exact ⟨blames, attributed.opened⟩

end Expanding

end Task

namespace Machine

variable {ε : Type} {settings : Settings} {m : Machine ε} {line opened : Line} {lines : List Line}
  {kind : BlockKind}

/-! ### Lines that are fed -/

/-- The lines that are at work while a line is fed: those of the loop that it closes, or the line
itself. -/
def responsible (m : Machine ε) (line : Line) : List Line :=
  match m.state.mode with
  | .loop block => if Task.closes ⟨.taken, {}, line, m⟩ block then block.body else [line]
  | _ => [line]

/-- What a line brings about is due to the lines at work while it is fed. -/
theorem take_dueTo (settings : Settings) (line : Line) (m : Machine ε) :
    DueTo (Line.StemsFrom (m.responsible line)) m (take settings line m) := by
  let fed : Task ε := ⟨.taken, {}, line, m⟩
  rw [show take settings line m = fed.outcome settings from take_eq settings line m]
  cases mode : m.state.mode with
  | idle =>
    have itself : m.responsible line = [line] := by simp [responsible, mode]
    rw [itself]
    exact Task.dueTo_of_idle (t := fed) Line.StemsFrom.expanded mode
      (.of_mem (List.mem_singleton_self _))
  | method block =>
    have itself : m.responsible line = [line] := by simp [responsible, mode]
    have alone : fed.agenda? settings = none := by simp [fed, Task.agenda?, mode]
    rw [itself]
    exact Task.dueTo_of_collected rfl alone (by simp [fed, mode])
      (.of_mem (List.mem_singleton_self _))
  | loop block =>
    by_cases closes : fed.closes block = true
    · have body : m.responsible line = block.body := by
        simp only [responsible, mode]
        exact if_pos closes
      rw [body]
      exact Task.dueTo_of_replay Line.StemsFrom.expanded rfl mode closes fun _ member =>
        .of_mem member
    · have itself : m.responsible line = [line] := by
        simp only [responsible, mode]
        exact if_neg closes
      have alone : fed.agenda? settings = none := by simp [fed, Task.agenda?, mode, closes]
      rw [itself]
      exact Task.dueTo_of_collected rfl alone (by simp [fed, mode])
        (.of_mem (List.mem_singleton_self _))

/-- What a line adds to the report is the diagnostic of the fault that has ended it. -/
theorem feedLine_reports (settings : Settings) (line : Line) (m : Machine ε) :
    ∃ added, (feedLine settings line m).1.diagnostics = m.diagnostics ++ added ∧
      ∀ d ∈ added, ∃ f, (take settings line m).stop = some (.fault f) ∧ d = f.diagnostic := by
  have unreported := congrArg Report.diagnostics (take_report settings line m)
  rcases taken : take settings line m with ⟨next, _ | f | f⟩
  · rw [taken] at unreported
    exact ⟨[], by simpa [feedLine, settled, taken] using unreported, by simp⟩
  · refine ⟨[f.diagnostic], ?_, fun d member => ⟨f, rfl, List.mem_singleton.mp member⟩⟩
    rw [feedLine_of_fault taken]
    exact diagnostics_of_fault (by rw [taken]) (feedLine_of_fault taken)
  · rw [taken] at unreported
    exact ⟨[], by simpa [feedLine, settled, taken] using unreported, by simp⟩

theorem feedLine_opened_iff : (feedLine settings line m).1.state.Opened kind opened ↔
    (take settings line m).machine.state.Opened kind opened := by
  unfold feedLine settled
  split <;> exact Iff.rfl

/-- A block that is open after some lines was open before them, or one of them has opened it. -/
theorem feedLines_opened (isOpen : (feedLines settings lines m).1.state.Opened kind opened) :
    m.state.Opened kind opened ∨
      ∃ before fed after here, lines = before ++ fed :: after ∧
        feedLines settings before m = (here, none) ∧
        (feedLine settings fed here).1.state.Opened kind opened ∧
        opened.StemsFrom (here.responsible fed) ∧ opened.opens kind = true := by
  induction lines generalizing m with
  | nil => exact Or.inl isOpen
  | cons line rest ih =>
    -- Whether the line fails or not, what is open after it was open before or is due to it.
    have byThisLine (isOpen : (feedLine settings line m).1.state.Opened kind opened) :
        m.state.Opened kind opened ∨
          ∃ before fed after here, line :: rest = before ++ fed :: after ∧
            feedLines settings before m = (here, none) ∧
            (feedLine settings fed here).1.state.Opened kind opened ∧
            opened.StemsFrom (here.responsible fed) ∧ opened.opens kind = true := by
      have due := (take_dueTo settings line m).opened kind opened (feedLine_opened_iff.mp isOpen)
      exact due.imp_right fun opening => ⟨[], line, rest, m, rfl, rfl, isOpen, opening⟩
    unfold feedLines at isOpen
    split at isOpen
    next next fed =>
      rw [fed] at byThisLine
      rcases ih isOpen with earlier | ⟨before, later, after, here, rfl, led, opening⟩
      · exact byThisLine earlier
      · refine Or.inr ⟨line :: before, later, after, here, rfl, ?_, opening⟩
        simp only [feedLines, fed, led]
    next failed => exact byThisLine isOpen

/-! ### Whole runs -/

theorem finish_diagnostics (m : Machine ε) :
    m.finish.diagnostics = m.diagnostics ++ (openBlocks m.state).map Fault.diagnostic := by
  rw [diagnostics, finish_state]

/-- All that the machine holds and has reported goes back to the lines. -/
structure Sourced (lines : List Line) (m : Machine ε) : Prop where
  attributed : m.Attributed (Line.StemsFrom lines) fun _ _ => False
  reported : ∀ d ∈ m.diagnostics, ∃ fed ∈ lines, d.PointsAt fed

theorem reset_unopened (settings : Settings) (m : Machine ε) (kind : BlockKind) (line : Line) :
    ¬ (reset settings m).state.Opened kind line := by
  rw [reset, takeColor_state, State.opened_iff_of_idle rfl]
  simp

theorem Sourced.reset (settings : Settings) (m : Machine ε) : (reset settings m).Sourced lines := by
  refine ⟨⟨fun line held => ?_, fun kind line isOpen => ?_⟩, by simp⟩
  · rw [Machine.reset, takeColor_state] at held
    cases held
  · exact absurd isOpen (reset_unopened settings m kind line)

theorem Sourced.feedLine (sourced : m.Sourced lines) (member : line ∈ lines) (settings : Settings) :
    (feedLine settings line m).1.Sourced lines := by
  have taken : take settings line m = (⟨.taken, {}, line, m⟩ : Task ε).outcome settings :=
    take_eq settings line m
  have fit : line.StemsFrom lines := .of_mem member
  have attributed : (take settings line m).machine.Attributed (Line.StemsFrom lines)
      fun _ _ => False := by
    rw [taken]
    exact Task.guarded_outcome (guarded_attributed Line.StemsFrom.expanded) fit sourced.attributed
  refine ⟨?_, fun d reported => ?_⟩
  · unfold Machine.feedLine settled
    split <;> exact attributed.of_state rfl rfl
  · obtain ⟨added, report, faults⟩ := feedLine_reports settings line m
    rcases List.mem_append.mp (report ▸ reported) with earlier | new
    · exact sourced.reported d earlier
    · obtain ⟨f, faulted, rfl⟩ := faults d new
      rw [taken] at faulted
      have stems := Task.blames_outcome Line.StemsFrom.expanded fit sourced.attributed f faulted
      obtain ⟨fed, among, same⟩ := stems.samePlace
      exact ⟨fed, among, Fault.pointsAt same⟩

theorem Sourced.discard (sourced : m.Sourced lines) :
    (m.modifyState State.discardBlocks).Sourced lines := by
  refine ⟨⟨fun line held => ?_, fun kind line isOpen => ?_⟩, sourced.reported⟩
  · cases held
  · rw [State.opened_iff_of_idle rfl] at isOpen
    cases isOpen.2

theorem Sourced.finish (sourced : m.Sourced lines) : m.finish.Sourced lines := by
  have discarded := sourced.discard.attributed
  refine ⟨discarded.of_state (by rw [finish_state]; rfl) (by rw [finish_state]; rfl), ?_⟩
  intro d reported
  rcases List.mem_append.mp (finish_diagnostics m ▸ reported) with earlier | last
  · exact sourced.reported d earlier
  · -- What is reported last is open, so one of the lines has led to it.
    obtain ⟨f, member, rfl⟩ := List.mem_map.mp last
    obtain ⟨kind, _, isOpen⟩ := mem_openBlocks member
    obtain ⟨stems, _⟩ := (sourced.attributed.opened kind f.line isOpen).resolve_left id
    obtain ⟨fed, among, same⟩ := stems.samePlace
    exact ⟨fed, among, Fault.pointsAt same⟩

theorem run_sourced (settings : Settings) (source : Text) (filename : Option Text)
    (m : Machine ε) :
    (run settings source filename m).1.Sourced (Line.ofSource source filename) :=
  runLines_keeps (fun _ member _ sourced => sourced.feedLine member settings)
    (fun _ _ sourced => ⟨sourced.attributed.of_state rfl rfl, sourced.reported⟩)
    (fun _ => Sourced.finish) (fun _ => Sourced.discard) (Sourced.reset settings m)

/-- Every diagnostic of a run carries the number and the file of a line of the source that is
neither blank nor a comment.  What feeding a line reports is at that line, or, if it closes a loop,
at one of the lines of the loop.  What the end of the input reports is at the line that has opened
the block, or at the call by which it was opened. -/
theorem diagnostics_point_at_responsible_line (settings : Settings) (source : Text)
    (filename : Option Text) (m : Machine ε) :
    (∀ d ∈ (run settings source filename m).1.diagnostics,
      d.span.start.filename = filename ∧
        ∃ (index : Nat) (raw : Text), (Text.lines source)[index]? = some raw ∧
          Line.isSilent (Text.trim raw) = false ∧ d.line = index + 1) ∧
    (∀ (before : Machine ε) (line : Line), ∃ added,
      (feedLine settings line before).1.diagnostics = before.diagnostics ++ added ∧
        ∀ d ∈ added, ∃ source ∈ before.responsible line, d.PointsAt source) ∧
    ∀ lines : List Line,
      let last := (feedLines settings lines (reset settings m)).1
      ∃ added, last.finish.diagnostics = last.diagnostics ++ added ∧
        ∀ d ∈ added, ∃ kind opened, d = Fault.diagnostic ⟨.unterminated kind, opened⟩ ∧
          opened.opens kind = true ∧ opened.StemsFrom lines ∧
          ∃ before fed after here, lines = before ++ fed :: after ∧
            feedLines settings before (reset settings m) = (here, none) ∧
            (feedLine settings fed here).1.state.Opened kind opened ∧
            opened.StemsFrom (here.responsible fed) := by
  refine ⟨fun d reported => ?_, fun before line => ?_, ?_⟩
  · obtain ⟨fed, member, number, file⟩ :=
      (run_sourced settings source filename m).reported d reported
    obtain ⟨index, raw, found, heard, rfl⟩ := Line.mem_numbered member
    exact ⟨file, index, raw, found, heard, number.trans (Int.add_comm ..)⟩
  · obtain ⟨added, report, faults⟩ := feedLine_reports settings line before
    refine ⟨added, report, fun d new => ?_⟩
    obtain ⟨f, faulted, rfl⟩ := faults d new
    obtain ⟨source, atWork, same⟩ := ((take_dueTo settings line before).blames f faulted).samePlace
    exact ⟨source, atWork, Fault.pointsAt same⟩
  · intro lines last
    refine ⟨_, finish_diagnostics last, fun d new => ?_⟩
    obtain ⟨⟨cause, opened⟩, member, rfl⟩ := List.mem_map.mp new
    obtain ⟨kind, rfl, isOpen⟩ := mem_openBlocks member
    have sourced : last.Sourced lines :=
      feedLines_keeps (fun _ among _ holds => holds.feedLine among settings)
        (Sourced.reset settings m)
    obtain ⟨stems, _⟩ := (sourced.attributed.opened kind opened isOpen).resolve_left id
    obtain ⟨before, fed, after, here, cut, led, opens, due, opening⟩ :=
      (feedLines_opened isOpen).resolve_left (reset_unopened settings m kind opened)
    exact ⟨kind, opened, rfl, opening, stems, before, fed, after, here, cut, led, opens, due⟩

/-- A call leaves a conditional open, and a loop calls a method with an unknown word.  The closing
line of the loop is reported at the second call, and the end of the input at the first. -/
theorem diagnostics_point_at_responsible_line_of_calls :
    let source := ("method begin(a)\nif a > 0\nendmethod\nmethod bad(a)\n  bogus a\nendmethod\n" ++
      "\n# calls\nx = 1\nbegin(x)\nloop 2\nbad(x)\nendloop").toList
    let filename := some "a.pen".toList
    let lines := Line.ofSource source filename
    let fresh : Machine Recorded := { surface := Recording.surface }
    let inLoop := (feedLines {} (lines.take 10) (reset {} fresh)).1
    let closing : Line := ⟨"endloop".toList, 13, filename⟩
    (run {} source filename fresh).1.diagnostics.map Diagnostic.line = [12, 10] ∧
      (∀ d ∈ (run {} source filename fresh).1.diagnostics, d.span.start.filename = filename) ∧
      (∃ added, added ≠ [] ∧
        (feedLine {} closing inLoop).1.diagnostics = inLoop.diagnostics ++ added ∧
        ∀ d ∈ added, d.PointsAt ⟨"bad(x)".toList, 12, filename⟩) ∧
      ∃ added, added ≠ [] ∧
        (feedLines {} lines (reset {} fresh)).1.finish.diagnostics =
          (feedLines {} lines (reset {} fresh)).1.diagnostics ++ added ∧
        ∀ d ∈ added, ∃ kind opened, d = Fault.diagnostic ⟨.unterminated kind, opened⟩ ∧
          opened.StemsFrom lines := by
  intro source filename lines fresh inLoop closing
  have nonempty {known all added : List Diagnostic} (grown : all ≠ known)
      (report : all = known ++ added) : added ≠ [] := by
    rintro rfl
    exact grown (report.trans (List.append_nil _))
  have atWork : inLoop.responsible closing = [⟨"bad(x)".toList, 12, filename⟩] := by
    decide +kernel
  have reports : (feedLine {} closing inLoop).1.diagnostics ≠ inLoop.diagnostics := by
    decide +kernel
  have openEnded : (feedLines {} lines (reset {} fresh)).1.finish.diagnostics ≠
      (feedLines {} lines (reset {} fresh)).1.diagnostics := by decide +kernel
  obtain ⟨located, fed, ended⟩ := diagnostics_point_at_responsible_line {} source filename fresh
  refine ⟨by decide +kernel, fun d reported => (located d reported).1, ?_, ?_⟩
  · obtain ⟨added, report, points⟩ := fed inLoop closing
    refine ⟨added, nonempty reports report, report, fun d new => ?_⟩
    obtain ⟨line, member, pointed⟩ := points d new
    rw [atWork] at member
    rwa [List.mem_singleton.mp member] at pointed
  · obtain ⟨added, report, openings⟩ := ended lines
    refine ⟨added, nonempty openEnded report, report, fun d new => ?_⟩
    obtain ⟨kind, opened, shown, _, stems, _⟩ := openings d new
    exact ⟨kind, opened, shown, stems⟩

end Machine

end Plotter
