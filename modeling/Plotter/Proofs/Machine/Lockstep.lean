import Plotter.Proofs.Machine.Move
import Plotter.Proofs.Surface.Drawing

/-!
# Machines in lockstep

Two machines in the same state go through the lines of a script together, whatever they draw on.
The state decides what a line does, and a surface is asked for one thing only: whether it has a
brush.  So all that has to be known of two surfaces is that some relation between them is kept
when the pen is applied or changed, when a line or a shape is drawn, and when they are cleared.
`Companions` is this list of obligations.  From it alone the machines stay in step through every
command, call and replay.

An early end on one side can be *excused*: then nothing more is said of the two.  The room for
further calls matters only when it is used up, and the nesting only to a line that opens a loop,
so both may differ between the two machines.

As for moves, an invariant of the first machine says which lines a call can lead to.
-/

namespace Plotter

/-! ### Early ends that are excused -/

/-- The early ends of the first and of the second side that are excused. -/
structure Excuses (σ : Type) where
  first : σ → Prop
  second : σ → Prop

namespace Excuses

variable {σ : Type}

/-- Both sides end in the same way and are related, or one of them has an excuse. -/
inductive Cover (excuses : Excuses σ) (related : Prop) : Option σ → Option σ → Prop
  | first {stop : σ} (excused : excuses.first stop) (other : Option σ) :
      Cover excuses related (some stop) other
  | second {stop : σ} (excused : excuses.second stop) (other : Option σ) :
      Cover excuses related other (some stop)
  | both (holds : related) (stop : Option σ) : Cover excuses related stop stop

theorem Cover.related {excuses : Excuses σ} {related : Prop} {stop₁ stop₂ : Option σ}
    (cover : excuses.Cover related stop₁ stop₂) (first : ∀ stop ∈ stop₁, ¬ excuses.first stop)
    (second : ∀ stop ∈ stop₂, ¬ excuses.second stop) : related := by
  cases cover with
  | first excused => exact absurd excused (first _ rfl)
  | second excused => exact absurd excused (second _ rfl)
  | both holds => exact holds

theorem Cover.imp {excuses : Excuses σ} {related implied : Prop} {stop₁ stop₂ : Option σ}
    (cover : excuses.Cover related stop₁ stop₂) (implies : related → implied) :
    excuses.Cover implied stop₁ stop₂ := by
  cases cover with
  | first excused => exact .first excused _
  | second excused => exact .second excused _
  | both holds => exact .both (implies holds) _

end Excuses

/-! ### Surfaces and machines that stay together -/

variable {ε ε₁ ε₂ : Type}

/-- A relation between two surfaces under a pen of the given colour. -/
abbrev Pairing (ε₁ ε₂ : Type) := Text → Surface ε₁ → Surface ε₂ → Prop

/-- What becomes of two surfaces when figures are drawn on them. -/
def DrawnInStep (excuses : Excuses Stop) (R : Surface ε₁ → Surface ε₂ → Prop)
    (figures₁ figures₂ : List Figure) (s₁ : Surface ε₁) (s₂ : Surface ε₂) : Prop :=
  excuses.Cover (R (s₁.drawn figures₁) (s₂.drawn figures₂))
    ((s₁.rendering figures₁).failure.map .failure) ((s₂.rendering figures₂).failure.map .failure)

/-- A relation that is kept by all that a machine does to its surface. -/
structure Companions (excuses : Excuses Stop) (R : Pairing ε₁ ε₂) : Prop where
  penned : ∀ {color s₁ s₂}, R color s₁ s₂ →
    R color (s₁.put .lineColor (.text color)) (s₂.put .lineColor (.text color))
  colored : ∀ {color s₁ s₂}, R color s₁ s₂ → ∀ next : PenColor,
    R next.word (s₁.colored next) (s₂.colored next)
  line : ∀ {color s₁ s₂}, R color s₁ s₂ → ∀ start stop : Point,
    DrawnInStep excuses (R color) [.line start stop] [.line start stop] s₁ s₂
  /-- One surface may fill a shape that the other only outlines. -/
  shape : ∀ {color s₁ s₂}, R color s₁ s₂ → ∀ (filling : Bool) (shape : Shape),
    DrawnInStep excuses (R color) (shape.figures (filling && s₁.palette.fill.isPresent))
      (shape.figures (filling && s₂.palette.fill.isPresent)) s₁ s₂
  cleared : ∀ {color s₁ s₂}, R color s₁ s₂ → R color s₁.clear.1 s₂.clear.1

/-- The same state, and surfaces that belong together. -/
structure Machine.InStep (R : Pairing ε₁ ε₂) (m₁ : Machine ε₁) (m₂ : Machine ε₂) : Prop where
  state : m₁.state = m₂.state
  surface : R m₁.state.pen.color m₁.surface m₂.surface

def Outcome.InStep (excuses : Excuses Stop) (R : Pairing ε₁ ε₂) (o₁ : Outcome ε₁)
    (o₂ : Outcome ε₂) : Prop :=
  excuses.Cover (o₁.machine.InStep R o₂.machine) o₁.stop o₂.stop

/-- Two nestings under which the lines that fit open the same loops. -/
def Nesting.Agree (fits : Line → Prop) (n₁ n₂ : Nesting) : Prop :=
  (0 < n₁.replays ↔ 0 < n₂.replays) ∨ ∀ line, fits line → line.isOf .loop = false

/-- All that happened is that figures were drawn. -/
structure Outcome.Draws (m : Machine ε) (figures : List Figure) (o : Outcome ε) : Prop where
  state : o.machine.state = m.state
  surface : o.machine.surface = m.surface.drawn figures
  stop : o.stop = (m.surface.rendering figures).failure.map .failure

namespace Machine

open Outcome

variable {excuses : Excuses Stop} {R : Pairing ε₁ ε₂} {fits : Line → Prop} {P : Machine ε₁ → Prop}
  {m : Machine ε} {m₁ : Machine ε₁} {m₂ : Machine ε₂} {n₁ n₂ : Nesting}

namespace InStep

theorem log (inStep : m₁.InStep R m₂) (e₁ e₂ : Event) : (m₁.log n₁ e₁).InStep R (m₂.log n₂ e₂) :=
  ⟨inStep.state, inStep.surface⟩

/-- The state may change in any way that leaves the colour of the pen. -/
theorem modifyState (inStep : m₁.InStep R m₂) {f : State → State}
    (sameColor : ∀ s, (f s).pen.color = s.pen.color) :
    (m₁.modifyState f).InStep R (m₂.modifyState f) := by
  refine ⟨congrArg f inStep.state, ?_⟩
  simp only [Machine.modifyState, sameColor]
  exact inStep.surface

theorem modifyPen (inStep : m₁.InStep R m₂) {f : Pen → Pen}
    (sameColor : ∀ pen, (f pen).color = pen.color) :
    (m₁.modifyPen f).InStep R (m₂.modifyPen f) :=
  inStep.modifyState (f := fun s => { s with pen := f s.pen }) fun s => sameColor s.pen

theorem stopWith (inStep : m₁.InStep R m₂) (stop : Stop) :
    (m₁.stopWith stop).InStep excuses R (m₂.stopWith stop) :=
  .both inStep _

theorem done (inStep : m₁.InStep R m₂) : m₁.done.InStep excuses R m₂.done := .both inStep _

end InStep

/-! ### Sequences -/

theorem andThen_inStep {o₁ : Outcome ε₁} {o₂ : Outcome ε₂} {next₁ : Machine ε₁ → Outcome ε₁}
    {next₂ : Machine ε₂ → Outcome ε₂} (first : o₁.InStep excuses R o₂)
    (second : o₁.machine.InStep R o₂.machine →
      (next₁ o₁.machine).InStep excuses R (next₂ o₂.machine)) :
    (o₁.andThen next₁).InStep excuses R (o₂.andThen next₂) := by
  obtain ⟨m₁, stop₁⟩ := o₁
  obtain ⟨m₂, stop₂⟩ := o₂
  cases first with
  -- An early end with an excuse ends the sequence on its side, whatever the other does.
  | first excused => exact .first excused _
  | second excused => exact .second excused _
  | both inStep =>
    cases stop₁ with
    | none => exact second inStep
    | some stop => exact .both inStep _

theorem runAll_inStep {run₁ : Line → Machine ε₁ → Outcome ε₁}
    {run₂ : Line → Machine ε₂ → Outcome ε₂} {lines : List Line}
    (kept : ∀ line ∈ lines, ∀ m, P m → P (run₁ line m).machine)
    (each : ∀ line ∈ lines, ∀ m₁ m₂, P m₁ → m₁.InStep R m₂ →
      (run₁ line m₁).InStep excuses R (run₂ line m₂))
    (holds : P m₁) (inStep : m₁.InStep R m₂) :
    (runAll run₁ lines m₁).InStep excuses R (runAll run₂ lines m₂) := by
  induction lines generalizing m₁ m₂ with
  | nil => exact inStep.done
  | cons line rest ih =>
    have here : line ∈ line :: rest := List.mem_cons_self ..
    refine andThen_inStep (each line here m₁ m₂ holds inStep) fun inStep => ?_
    refine ih ?_ ?_ (kept line here m₁ holds) inStep
    · exact fun later member => kept later (List.mem_cons_of_mem _ member)
    · exact fun later member => each later (List.mem_cons_of_mem _ member)

theorem repeated_inStep {body₁ : Machine ε₁ → Outcome ε₁} {body₂ : Machine ε₂ → Outcome ε₂}
    (kept : ∀ m, P m → P (body₁ m).machine)
    (round : ∀ m₁ m₂, P m₁ → m₁.InStep R m₂ → (body₁ m₁).InStep excuses R (body₂ m₂))
    (rounds : Nat) (holds : P m₁) (inStep : m₁.InStep R m₂) :
    (repeated body₁ rounds m₁).InStep excuses R (repeated body₂ rounds m₂) := by
  induction rounds generalizing m₁ m₂ with
  | zero => exact inStep.done
  | succ rounds ih =>
    exact andThen_inStep (round m₁ m₂ holds inStep) fun inStep => ih (kept m₁ holds) inStep

theorem restoring_inStep {o₁ : Outcome ε₁} {o₂ : Outcome ε₂} (inStep : o₁.InStep excuses R o₂)
    {restore : State → State} (sameColor : ∀ s, (restore s).pen.color = s.pen.color) :
    (restoring restore o₁).InStep excuses R (restoring restore o₂) := by
  -- What is restored is the state, and the early end stays as it is.
  have same {ε : Type} (o : Outcome ε) : (restoring restore o).stop = o.stop := by
    unfold restoring
    split <;> rfl
  unfold Outcome.InStep
  rw [same, same]
  obtain ⟨m₁, stop₁⟩ := o₁
  obtain ⟨m₂, stop₂⟩ := o₂
  cases inStep with
  | first excused => exact .first excused _
  | second excused => exact .second excused _
  | both inStep =>
    refine .both ?_ _
    rcases stop₁ with _ | fault | failure
    · exact inStep
    · exact inStep.modifyState sameColor
    · exact inStep

/-! ### Drawing commands -/

@[simp] theorem logNotes_surface (nesting : Nesting) (notes : List Note) :
    (m.logNotes nesting notes).surface = m.surface := by
  induction notes generalizing m with
  | nil => rfl
  | cons note notes ih => exact ih

@[simp] theorem clearSurface_state (nesting : Nesting) :
    (m.clearSurface nesting).state = m.state := by
  simp [clearSurface]

@[simp] theorem clearSurface_surface (nesting : Nesting) :
    (m.clearSurface nesting).surface = m.surface.clear.1 := by
  simp [clearSurface]

theorem draw_draws (m : Machine ε) (nesting : Nesting) (f : Figure) :
    (m.draw nesting f).Draws m [f] := by
  have failure : (m.surface.draw f).2.2 = (m.surface.rendering [f]).failure := by
    rw [Surface.rendering_singleton, Surface.draw]
  simp only [draw, ← Surface.drawn_singleton, failure]
  split
  next unfailed =>
    refine ⟨logNotes_state .., logNotes_surface .., ?_⟩
    rw [unfailed]
    rfl
  next reason failed =>
    refine ⟨logNotes_state .., logNotes_surface .., ?_⟩
    rw [failed]
    rfl

/-- A figure and then others, which are drawn unless the first cannot be. -/
theorem andThen_draws {o : Outcome ε} {f : Figure} {rest : List Figure}
    {next : Machine ε → Outcome ε} (first : o.Draws m [f])
    (second : (next o.machine).Draws o.machine rest) : (o.andThen next).Draws m (f :: rest) := by
  obtain ⟨drawn, stop⟩ := o
  obtain ⟨state, surface, stopped⟩ := first
  have same : drawn.surface.rendering rest = m.surface.rendering rest := by
    rw [surface]
    rfl
  rw [Surface.rendering_singleton] at stopped
  cases failure : (m.surface.medium.draw m.surface.palette f).failure with
  | none =>
    rw [failure] at stopped
    cases stopped
    refine ⟨second.state.trans state, ?_, ?_⟩
    · rw [Surface.drawn_cons (by simpa using failure), ← surface]
      exact second.surface
    · rw [Surface.rendering_cons, Rendering.append_eq_of_unfailed failure, ← same]
      exact second.stop
  | some reason =>
    -- The others are not drawn, and the rendering ends where the first figure does.
    have ends : m.surface.rendering (f :: rest) = m.surface.rendering [f] := by
      rw [Surface.rendering_singleton, Surface.rendering_cons]
      exact Rendering.append_eq_of_failed failure _
    rw [failure] at stopped
    cases stopped
    refine ⟨state, ?_, ?_⟩
    · rw [Surface.drawn, ends]
      exact surface
    · rw [ends, Surface.rendering_singleton, failure]
      rfl

/-! ### Shapes and lines -/

theorem inStep_of_draws {o₁ : Outcome ε₁} {o₂ : Outcome ε₂} {figures₁ figures₂ : List Figure}
    (state : m₁.state = m₂.state) (draws₁ : o₁.Draws m₁ figures₁) (draws₂ : o₂.Draws m₂ figures₂)
    (drawn : DrawnInStep excuses (R m₁.state.pen.color) figures₁ figures₂ m₁.surface m₂.surface) :
    o₁.InStep excuses R o₂ := by
  unfold Outcome.InStep
  rw [draws₁.stop, draws₂.stop]
  refine drawn.imp fun related => ⟨?_, ?_⟩
  · rw [draws₁.state, draws₂.state, state]
  · rw [draws₁.state, draws₁.surface, draws₂.surface]
    exact related

/-- Whether the pen can be applied depends on its colour only. -/
theorem applyPen_inStep (companions : Companions excuses R) (inStep : m₁.InStep R m₂) :
    m₁.applyPen.InStep excuses R m₂.applyPen := by
  simp only [applyPen, setProperty_eq, ← inStep.state]
  split
  · exact .both ⟨inStep.state, companions.penned inStep.surface⟩ _
  · exact inStep.stopWith _

theorem draws_shape (m : Machine ε) (nesting : Nesting) (shape : Shape) :
    Draws m (shape.figures m.fillsShapes)
      (if m.fillsShapes then
        (m.draw nesting (.fill shape)).andThen fun filled => filled.draw nesting (.outline shape)
      else m.draw nesting (.outline shape)) := by
  unfold Shape.figures
  split
  · exact andThen_draws (draw_draws m nesting _) (draw_draws _ nesting _)
  · exact draw_draws m nesting _

theorem drawShape_inStep (companions : Companions excuses R) (inStep : m₁.InStep R m₂)
    (shape : Shape) : (m₁.drawShape n₁ shape).InStep excuses R (m₂.drawShape n₂ shape) := by
  refine andThen_inStep (applyPen_inStep companions inStep) fun ready => ?_
  have drawn := companions.shape ready.surface m₁.applyPen.machine.state.pen.fill shape
  refine inStep_of_draws ready.state (draws_shape ..) ?_ drawn
  rw [ready.state]
  exact draws_shape ..

theorem withValue_inStep {α : Type} (inStep : m₁.InStep R m₂) (value : Except Failure α)
    {next₁ : α → Outcome ε₁} {next₂ : α → Outcome ε₂}
    (goesOn : ∀ a, (next₁ a).InStep excuses R (next₂ a)) :
    (m₁.withValue value next₁).InStep excuses R (m₂.withValue value next₂) := by
  cases value with
  | ok a => exact goesOn a
  | error f => exact inStep.stopWith _

theorem setPen_inStep (companions : Companions excuses R) (inStep : m₁.InStep R m₂)
    (arguments : List Text) :
    (m₁.setPen n₁ arguments).InStep excuses R (m₂.setPen n₂ arguments) := by
  unfold setPen
  split
  · exact inStep.stopWith _
  · split
    next color _ =>
      -- The pen and the surface change their colour together.
      refine .both ⟨?_, ?_⟩ _
      · simp only [Machine.done, takeColor_state, Machine.modifyPen, inStep.state]
      · simp only [Machine.done, takeColor_state, takeColor_surface]
        exact companions.colored inStep.surface color
    · exact (inStep.log _ _).done

theorem setFill_inStep (inStep : m₁.InStep R m₂) (arguments : List Text) :
    (m₁.setFill n₁ arguments).InStep excuses R (m₂.setFill n₂ arguments) := by
  unfold setFill
  split
  · exact inStep.stopWith _
  · split
    · exact (inStep.modifyPen fun _ => by rfl).done
    · exact (inStep.log _ _).done

theorem clearSurface_inStep (companions : Companions excuses R) (inStep : m₁.InStep R m₂) :
    (m₁.clearSurface n₁).InStep R (m₂.clearSurface n₂) := by
  constructor
  · simp only [clearSurface_state, inStep.state]
  · simp only [clearSurface_state, clearSurface_surface]
    exact companions.cleared inStep.surface

theorem perform_inStep (companions : Companions excuses R) (inStep : m₁.InStep R m₂)
    (primitive : Primitive) (arguments : List Text) :
    (m₁.perform n₁ primitive arguments).InStep excuses R (m₂.perform n₂ primitive arguments) := by
  cases primitive with
  | moveTo => exact withValue_inStep inStep _ fun _ => (inStep.modifyPen fun _ => by rfl).done
  | drawTo =>
    refine withValue_inStep inStep _ fun p => ?_
    refine andThen_inStep (applyPen_inStep companions inStep) fun ready => ?_
    rw [← ready.state]
    have line := companions.line ready.surface m₁.applyPen.machine.state.pen.position
      (Point.ofInts p.1 p.2)
    refine andThen_inStep (inStep_of_draws ready.state (draw_draws ..) (draw_draws ..) line) ?_
    exact fun drawn => (drawn.modifyPen fun _ => by rfl).done
  | clear => exact ((clearSurface_inStep companions inStep).modifyPen fun _ => by rfl).done
  | reset => exact (inStep.modifyPen fun _ => by rfl).done
  | rectangle =>
    simp only [perform, inStep.state]
    exact withValue_inStep inStep _ fun _ => drawShape_inStep companions inStep _
  | circle =>
    simp only [perform, inStep.state]
    exact withValue_inStep inStep _ fun _ => drawShape_inStep companions inStep _
  | triangle => exact withValue_inStep inStep _ fun _ => drawShape_inStep companions inStep _
  | pen => exact setPen_inStep companions inStep arguments
  | fill => exact setFill_inStep inStep arguments

/-! ### Lines outside of a block -/

theorem openBranch_inStep (inStep : m₁.InStep R m₂) (line : Line) (arguments : List Text) :
    (openBranch line arguments m₁).InStep excuses R (openBranch line arguments m₂) := by
  have pushed (taken : Bool) :=
    inStep.modifyState (f := fun s => s.push taken line) fun _ => rfl
  unfold openBranch
  rw [inStep.state]
  split
  · exact (pushed _).done
  · split
    · exact (pushed _).done
    · exact (pushed _).stopWith _
    · exact inStep.stopWith _

theorem closeBranch_inStep (inStep : m₁.InStep R m₂) (line : Line) :
    (closeBranch line m₁).InStep excuses R (closeBranch line m₂) := by
  unfold closeBranch
  rw [inStep.state]
  split
  · exact inStep.stopWith _
  · exact (inStep.modifyState fun _ => by rfl).done

theorem assign_inStep (inStep : m₁.InStep R m₂) (line : Line) (name expression : Text) :
    (assign line name expression m₁).InStep excuses R (assign line name expression m₂) := by
  unfold assign
  rw [inStep.state]
  split
  · exact (inStep.modifyState fun _ => by rfl).done
  · exact inStep.stopWith _

theorem runCommand_inStep (companions : Companions excuses R) (inStep : m₁.InStep R m₂)
    (line : Line) : (runCommand n₁ line m₁).InStep excuses R (runCommand n₂ line m₂) := by
  unfold runCommand
  rw [inStep.state]
  split
  · exact inStep.stopWith _
  · exact inStep.stopWith _
  · split
    · exact inStep.stopWith _
    · split
      · exact inStep.stopWith _
      · unfold command
        split
        · exact perform_inStep companions (inStep.log _ _) _ _
        · exact inStep.stopWith _

/-- Here, and only here, it matters whether a replay is under way. -/
theorem openLoop_inStep (inStep : m₁.InStep R m₂) (sameReplay : 0 < n₁.replays ↔ 0 < n₂.replays)
    (line : Line) (arguments : List Text) :
    (openLoop n₁ line arguments m₁).InStep excuses R (openLoop n₂ line arguments m₂) := by
  have opened (block : Block Nat) :=
    inStep.modifyState (f := fun s => { s with mode := .loop block }) fun _ => rfl
  simp only [openLoop, sameReplay, inStep.state]
  split
  · exact inStep.stopWith _
  · split
    · exact (opened _).done
    · split
      · exact (opened _).done
      · exact (opened _).stopWith _
      · exact inStep.stopWith _

theorem openMethod_inStep (inStep : m₁.InStep R m₂) (line : Line) :
    (openMethod line m₁).InStep excuses R (openMethod line m₂) := by
  simp only [openMethod]
  split
  · exact (inStep.modifyState fun _ => by rfl).done
  · exact (inStep.modifyState fun _ => by rfl).stopWith _

/-! ### Lines of an open block -/

theorem closeMethod_inStep (inStep : m₁.InStep R m₂) (block : Block (Option Header)) :
    (closeMethod n₁ block m₁).InStep excuses R (closeMethod n₂ block m₂) := by
  unfold closeMethod
  split
  next header _ =>
    have defined := (inStep.modifyState (f := fun s => { s with mode := .idle })
      fun _ => rfl).modifyState
        (f := fun s => s.define ⟨header.name, header.parameters, block.body⟩) fun _ => rfl
    exact (defined.log _ _).done
  · exact inStep.stopWith _

theorem collect_inStep {α : Type} (inStep : m₁.InStep R m₂) (kind : BlockKind)
    (nestedCause : Cause) (block : Block α) (rewrap : Block α → Mode)
    {close₁ : Machine ε₁ → Outcome ε₁} {close₂ : Machine ε₂ → Outcome ε₂}
    (closes : (close₁ m₁).InStep excuses R (close₂ m₂)) (line : Line) (statement : Statement) :
    (collect kind nestedCause block rewrap close₁ n₁ line statement m₁).InStep excuses R
      (collect kind nestedCause block rewrap close₂ n₂ line statement m₂) := by
  have kept (b : Block α) :=
    inStep.modifyState (f := fun s => { s with mode := rewrap b }) fun _ => rfl
  cases statement with
  | block found closing arguments =>
    simp only [collect]
    split
    · exact (kept _).done
    · split
      · split
        · exact (kept _).done
        · exact (kept _).stopWith _
      · split
        · exact (kept _).done
        · split
          · exact ((inStep.log _ _).modifyState fun _ => by rfl).done
          · exact closes
  | _ => exact (kept _).done

/-! ### Calls and replays -/

section Calls

variable {deeper₁ : Option (Runner ε₁)} {deeper₂ : Option (Runner ε₂)} {limit₁ limit₂ : Text}

/-- Two ways to run a line of a call that keep machines in step. -/
structure RunnersInStep (excuses : Excuses Stop) (R : Pairing ε₁ ε₂) (fits : Line → Prop)
    (P : Machine ε₁ → Prop) (runner₁ : Runner ε₁) (runner₂ : Runner ε₂) : Prop where
  moves : ∀ nesting line m, P m → fits line → Moves fits m (runner₁ nesting line m).machine
  inStep : ∀ n₁ n₂ line m₁ m₂, Nesting.Agree fits n₁ n₂ → P m₁ → fits line → m₁.InStep R m₂ →
    (runner₁ n₁ line m₁).InStep excuses R (runner₂ n₂ line m₂)

/-- Two ways to run the lines of a call, if there is room for one.  The first may be missing alone
when running out of room is excused. -/
inductive CallsInStep (excuses : Excuses Stop) (R : Pairing ε₁ ε₂) (fits : Line → Prop)
    (P : Machine ε₁ → Prop) (limit₁ limit₂ : Text) :
    Option (Runner ε₁) → Option (Runner ε₂) → Prop
  | neither (sameLimit : limit₁ = limit₂) : CallsInStep excuses R fits P limit₁ limit₂ none none
  | exhausted (excused : ∀ name line, excuses.first (.fault ⟨.callDepth name limit₁, line⟩))
      (deeper : Option (Runner ε₂)) : CallsInStep excuses R fits P limit₁ limit₂ none deeper
  | both {runner₁ : Runner ε₁} {runner₂ : Runner ε₂}
      (runners : RunnersInStep excuses R fits P runner₁ runner₂) :
      CallsInStep excuses R fits P limit₁ limit₂ (some runner₁) (some runner₂)

theorem CallsInStep.callsMove
    (calls : CallsInStep excuses R fits P limit₁ limit₂ deeper₁ deeper₂) :
    CallsMove fits P deeper₁ := by
  cases calls with
  | neither => simp [CallsMove]
  | exhausted => simp [CallsMove]
  | both runners =>
    rintro runner ⟨⟩
    exact runners.moves

theorem requireClosedLoop_inStep (inStep : m₁.InStep R m₂) :
    (requireClosedLoop m₁).InStep excuses R (requireClosedLoop m₂) := by
  unfold requireClosedLoop
  rw [inStep.state]
  split
  · exact (inStep.modifyState fun _ => by rfl).stopWith _
  · exact inStep.done

theorem enter_inStep (guarded : Guarded fits P) {runner₁ : Runner ε₁} {runner₂ : Runner ε₂}
    (runners : RunnersInStep excuses R fits P runner₁ runner₂) {lines : List Line}
    (fit : ∀ line ∈ lines, fits line) (agree : Nesting.Agree fits n₁ n₂) (holds : P m₁)
    (inStep : m₁.InStep R m₂) :
    (enter runner₁ n₁ lines m₁).InStep excuses R (enter runner₂ n₂ lines m₂) := by
  simp only [enter, State.depth, inStep.state]
  refine restoring_inStep (andThen_inStep ?_ requireClosedLoop_inStep) fun _ => rfl
  refine runAll_inStep (P := P) ?_ ?_ holds inStep
  · intro line member m holds
    exact (runners.moves _ line m holds (fit line member)).invariant guarded.kept holds
  · -- One more call on both sides leaves the replays as they are.
    exact fun line member m₁ m₂ holds inStep =>
      runners.inStep _ _ line m₁ m₂ agree holds (fit line member) inStep

theorem call_inStep (guarded : Guarded fits P)
    (calls : CallsInStep excuses R fits P limit₁ limit₂ deeper₁ deeper₂) {line : Line}
    {invocation : Call} (fit : fits line)
    (read : Statement.classify line.text = .ok (.call invocation))
    (agree : Nesting.Agree fits n₁ n₂) (holds : P m₁) (inStep : m₁.InStep R m₂) :
    (call deeper₁ limit₁ n₁ line invocation m₁).InStep excuses R
      (call deeper₂ limit₂ n₂ line invocation m₂) := by
  unfold call
  rw [← inStep.state]
  split
  · exact inStep.stopWith _
  next method found =>
    split
    · exact inStep.stopWith _
    · cases calls with
      | neither sameLimit =>
        rw [sameLimit]
        exact inStep.stopWith _
      | exhausted excused => exact .first (excused invocation.name line) _
      | both runners =>
        exact enter_inStep guarded runners (guarded.expands holds fit read found) agree holds
          inStep

theorem execute_inStep (companions : Companions excuses R) (guarded : Guarded fits P)
    (calls : CallsInStep excuses R fits P limit₁ limit₂ deeper₁ deeper₂) {line : Line}
    {statement : Statement} (fit : fits line)
    (read : Statement.classify line.text = .ok statement) (agree : Nesting.Agree fits n₁ n₂)
    (holds : P m₁) (inStep : m₁.InStep R m₂) :
    (execute deeper₁ limit₁ n₁ line statement m₁).InStep excuses R
      (execute deeper₂ limit₂ n₂ line statement m₂) := by
  unfold execute
  rw [← inStep.state]
  split
  · exact closeBranch_inStep inStep line
  · exact openBranch_inStep inStep line _
  · exact inStep.stopWith _
  · exact inStep.stopWith _
  · exact inStep.stopWith _
  · split
    · exact (inStep.log _ _).done
    · split
      · exact call_inStep guarded calls fit read agree holds inStep
      · exact assign_inStep inStep line _ _
      · exact runCommand_inStep companions inStep line
      · exact inStep.stopWith _
      · exact inStep.done

theorem replayOnce_inStep (companions : Companions excuses R) (guarded : Guarded fits P)
    (calls : CallsInStep excuses R fits P limit₁ limit₂ deeper₁ deeper₂) {body : List Line}
    (fit : ∀ line ∈ body, fits line) (agree : Nesting.Agree fits n₁ n₂) (holds : P m₁)
    (inStep : m₁.InStep R m₂) :
    (replayOnce deeper₁ limit₁ n₁ body m₁).InStep excuses R
      (replayOnce deeper₂ limit₂ n₂ body m₂) := by
  refine runAll_inStep (P := P) ?_ ?_ holds inStep
  · intro line member m holds
    refine Moves.invariant guarded.kept ?_ holds
    exact replayLine_moves guarded calls.callsMove (fit line member) n₁ holds
  · intro line member m₁ m₂ holds inStep
    unfold classified
    split
    next statement read =>
      exact execute_inStep companions guarded calls (fit line member) read agree holds inStep
    · exact inStep.stopWith _

theorem closeLoop_inStep (companions : Companions excuses R) (guarded : Guarded fits P)
    (calls : CallsInStep excuses R fits P limit₁ limit₂ deeper₁ deeper₂) {block : Block Nat}
    (collected : m₁.state.mode = .loop block) (holds : P m₁) (inStep : m₁.InStep R m₂) :
    (closeLoop deeper₁ limit₁ n₁ block m₁).InStep excuses R
      (closeLoop deeper₂ limit₂ n₂ block m₂) := by
  have fit := guarded.collected holds collected
  -- Both replay, so they agree on opening no loop, whatever they did before.
  have agree : Nesting.Agree fits { n₁ with replays := n₁.replays + 1 }
      { n₂ with replays := n₂.replays + 1 } := Or.inl (by simp)
  simp only [closeLoop, State.depth, inStep.state]
  refine restoring_inStep ?_ fun _ => rfl
  refine repeated_inStep (P := P) ?_ ?_ block.header ?_
    ((inStep.modifyState fun _ => by rfl).log _ _)
  · intro m holds
    exact (replayOnce_moves guarded calls.callsMove fit _ holds).invariant guarded.kept holds
  · intro m₁ m₂ holds inStep
    exact replayOnce_inStep companions guarded calls fit agree holds inStep
  · exact guarded.kept (guarded.kept holds (.turn (.close _))) (.log ..)

theorem start_inStep (companions : Companions excuses R) (guarded : Guarded fits P)
    (calls : CallsInStep excuses R fits P limit₁ limit₂ deeper₁ deeper₂) {line : Line}
    {statement : Statement} (fit : fits line)
    (read : Statement.classify line.text = .ok statement) (agree : Nesting.Agree fits n₁ n₂)
    (holds : P m₁) (inStep : m₁.InStep R m₂) :
    (start deeper₁ limit₁ n₁ line statement m₁).InStep excuses R
      (start deeper₂ limit₂ n₂ line statement m₂) := by
  unfold start
  split
  · exact inStep.stopWith _
  · exact openMethod_inStep inStep line
  next arguments =>
    rcases agree with sameReplay | noLoops
    · exact openLoop_inStep inStep sameReplay line arguments
    · -- A line that opens a loop does not fit.
      have opens := Line.isOf_of_opens (Statement.opens_of_classify read)
      rw [noLoops line fit] at opens
      cases opens
  · exact execute_inStep companions guarded calls fit read agree holds inStep

theorem stepWith_inStep (companions : Companions excuses R) (guarded : Guarded fits P)
    (calls : CallsInStep excuses R fits P limit₁ limit₂ deeper₁ deeper₂) {line : Line}
    (fit : fits line) (agree : Nesting.Agree fits n₁ n₂) (holds : P m₁)
    (inStep : m₁.InStep R m₂) :
    (stepWith deeper₁ limit₁ n₁ line m₁).InStep excuses R
      (stepWith deeper₂ limit₂ n₂ line m₂) := by
  have kept : P (m₁.log n₁ (.line m₁.state.mode.activity line.text)) :=
    guarded.kept holds (.log ..)
  have noted : (m₁.log n₁ (.line m₁.state.mode.activity line.text)).InStep R
      (m₂.log n₂ (.line m₂.state.mode.activity line.text)) := inStep.log _ _
  simp only [stepWith, classified]
  rw [← inStep.state] at noted ⊢
  split
  next statement read =>
    split
    · exact collect_inStep noted _ _ _ _ (closeMethod_inStep noted _) line statement
    next block collected =>
      refine collect_inStep noted _ _ _ _ ?_ line statement
      have looping :
          (m₁.log n₁ (.line m₁.state.mode.activity line.text)).state.mode = .loop block := collected
      exact closeLoop_inStep companions guarded calls looping kept noted
    · exact start_inStep companions guarded calls fit read agree kept noted
  · exact inStep.stopWith _

end Calls

/-- Equal limits and equal room, or less room on the first side with an excuse for running out of
it. -/
def Rooms (excuses : Excuses Stop) (limit₁ limit₂ : Text) (room₁ room₂ : Nat) : Prop :=
  limit₁ = limit₂ ∧ room₁ = room₂ ∨
    room₁ ≤ room₂ ∧ ∀ name line, excuses.first (.fault ⟨.callDepth name limit₁, line⟩)

theorem callsInStep_inner (companions : Companions excuses R) (guarded : Guarded fits P)
    {limit₁ limit₂ : Text} {room₁ room₂ : Nat} (rooms : Rooms excuses limit₁ limit₂ room₁ room₂) :
    CallsInStep excuses R fits P limit₁ limit₂ (inner limit₁ room₁) (inner limit₂ room₂) := by
  induction room₁ generalizing room₂ with
  | zero =>
    rcases rooms with ⟨sameLimit, rfl⟩ | ⟨_, excused⟩
    · exact .neither sameLimit
    · -- The first has no room left where the second may have.
      exact .exhausted excused _
  | succ room₁ ih =>
    cases room₂ with
    | zero => simp [Rooms] at rooms
    | succ room₂ =>
      have fewer : Rooms excuses limit₁ limit₂ room₁ room₂ := by simpa [Rooms] using rooms
      have calls := ih fewer
      refine .both ⟨?_, ?_⟩
      · exact fun nesting line m holds fit => step_moves guarded limit₁ room₁ fit nesting holds
      · intro n₁ n₂ line m₁ m₂ agree holds fit inStep
        simp only [step_eq_stepWith]
        exact stepWith_inStep companions guarded calls fit agree holds inStep

/-- A line keeps machines in step, unless one of them ends early and that is excused. -/
theorem step_inStep (companions : Companions excuses R) (guarded : Guarded fits P)
    {limit₁ limit₂ : Text} {room₁ room₂ : Nat} (rooms : Rooms excuses limit₁ limit₂ room₁ room₂)
    {line : Line} (fit : fits line) (agree : Nesting.Agree fits n₁ n₂) (holds : P m₁)
    (inStep : m₁.InStep R m₂) :
    (step limit₁ room₁ n₁ line m₁).InStep excuses R (step limit₂ room₂ n₂ line m₂) := by
  simp only [step_eq_stepWith]
  exact stepWith_inStep companions guarded (callsInStep_inner companions guarded rooms) fit agree
    holds inStep

end Machine

end Plotter
