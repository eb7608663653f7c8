import Plotter.Proofs.Machine.Attribution
import Plotter.Proofs.Machine.Failing
import Plotter.Proofs.Machine.Restoring

/-!
# Lines that do not come to their end

A call and the end of a loop run other lines, and what those have done stays done.  Every other
line looks at all it needs before it changes anything.  So if it ends in a fault, the variables, the
methods, the pen and the drawing are as they were, and so are the open blocks, but for the mark that
keeps later closing lines in their places: a condition that cannot be evaluated opens a branch that
is not taken, a header that cannot be read opens a block that is discarded, and an inner block
discards the outer one.  If it ends in a failure, which on a surface that draws every figure is a
matter of its numbers, nothing has changed at all.

## Main result

`failed_line_is_atomic`: this holds for every line that a host feeds, wherever it can get to.
-/

namespace Plotter

namespace State

variable {line : Line} {s : State}

/-- The state with the mark that a fault in a line leaves. -/
def struck (line : Line) (s : State) : State :=
  match s.mode, line.keyword? with
  | .idle, some (.opening .conditional) => s.push false line
  | .idle, some (.opening .loop) =>
    { s with mode := .loop { header := 0, openedAt := line, discarded := true } }
  | .idle, some (.opening .method) =>
    { s with mode := .method { header := none, openedAt := line, discarded := true } }
  | .loop block, some (.opening .loop) =>
    { s with mode := .loop { block with nested := block.nested + 1, discarded := true } }
  | .method block, some (.opening .method) =>
    { s with mode := .method { block with nested := block.nested + 1, discarded := true } }
  | _, _ => s

/-- Only a line that opens a block leaves a mark. -/
theorem struck_of_unopened (unopened : ∀ kind, line.opens kind = false) : s.struck line = s := by
  unfold struck
  split <;> first
    | rfl
    | next keyword => exact absurd keyword (by simpa [Line.opens] using unopened _)

theorem struck_of_statement {statement : Statement}
    (read : Statement.classify line.text = .ok statement)
    (unopened : ∀ kind arguments, statement ≠ .block kind false arguments) :
    s.struck line = s := by
  refine struck_of_unopened fun kind => ?_
  have same := Statement.isOf_classify read kind
  cases statement with
  | block found closing arguments =>
    cases closing with
    | false => exact absurd rfl (unopened found arguments)
    | true => simp [Line.opens, Statement.keyword?_of_block read, Statement.keyword?]
  | _ =>
    rw [← Bool.not_eq_true]
    intro opens
    rw [Line.isOf_of_opens opens] at same
    cases same

end State

variable {ε : Type}

/-- What is left of a line that does not come to its end: after a fault the state has its mark and
the surface is as it was, and after a failure both are, if the surface draws every figure. -/
structure Outcome.Atomic (marked : State) (m : Machine ε) (o : Outcome ε) : Prop where
  fault : ∀ f, o.stop = some (.fault f) → o.machine.Alike { m with state := marked }
  failure : m.surface.medium.Unfailing → ∀ f, o.stop = some (.failure f) → o.machine.Alike m

/-- The journal does not count. -/
theorem Outcome.Atomic.of_log {marked : State} {m : Machine ε} {nesting : Nesting} {e : Event}
    {o : Outcome ε} (atomic : o.Atomic marked (m.log nesting e)) : o.Atomic marked m where
  fault f faulted := ⟨(atomic.fault f faulted).state, (atomic.fault f faulted).surface⟩
  failure unfailing f failed :=
    ⟨(atomic.failure unfailing f failed).state, (atomic.failure unfailing f failed).surface⟩

namespace Machine

variable {m : Machine ε} {marked : State} {line : Line} {nesting : Nesting}

/-! ### Ends of a line -/

theorem done_atomic (m' : Machine ε) : m'.done.Atomic marked m :=
  ⟨by simp [done], by simp [done]⟩

theorem fail_atomic (f : Failure) : (m.fail f).Atomic marked m :=
  ⟨by simp [fail, stopWith], fun _ _ _ => ⟨rfl, rfl⟩⟩

/-- A fault right after the mark has been left. -/
theorem fault_atomic {f : State → State} (marks : f m.state = marked) (cause : Cause) :
    ((m.modifyState f).fault line cause).Atomic marked m :=
  ⟨fun _ _ => ⟨marks, rfl⟩, by simp [fault, stopWith]⟩

/-! ### Drawing commands -/

theorem Sound.applyPen_done (sound : m.Sound) : m.applyPen.stop = none := by
  have accepted := (Palette.accepts_penColor sound.valid.color).1
  simp [applyPen, setProperty_eq, accepted, Machine.done]

theorem Sound.draw_done (sound : m.Sound) (nesting : Nesting) (f : Figure) :
    (m.draw nesting f).stop = none := by
  have drawn := sound.unfailing m.surface.palette f
  simp [draw, Surface.draw, drawn, Machine.done]

theorem andThen_done {o : Outcome ε} {next : Machine ε → Outcome ε} (first : o.stop = none)
    (second : (next o.machine).stop = none) : (o.andThen next).stop = none := by
  obtain ⟨m, stop⟩ := o
  cases first
  exact second

theorem Sound.drawShape_done (sound : m.Sound) (nesting : Nesting) (shape : Shape) :
    (m.drawShape nesting shape).stop = none := by
  have ready := (applyPen_safe sound).sound
  refine andThen_done sound.applyPen_done ?_
  split
  · have filled := (draw_safe ready nesting (.fill shape)).sound
    exact andThen_done (ready.draw_done nesting _) (filled.draw_done nesting _)
  · exact ready.draw_done nesting _

/-- To read the words is the only thing that fails, and it comes first. -/
theorem withValue_fails {α : Type} {value : Except Failure α} {next : α → Outcome ε}
    (goesOn : ∀ a, (next a).stop = none) {f : Failure}
    (failed : (m.withValue value next).stop = some (.failure f)) :
    m.withValue value next = m.fail f := by
  cases value with
  | ok a =>
    have unstopped : (m.withValue (.ok a) next).stop = none := goesOn a
    rw [unstopped] at failed
    cases failed
  | error g =>
    cases failed
    rfl

theorem Sound.perform_fails (sound : m.Sound) {primitive : Primitive} {arguments : List Text}
    {f : Failure} (failed : (m.perform nesting primitive arguments).stop = some (.failure f)) :
    m.perform nesting primitive arguments = m.fail f := by
  cases primitive with
  | moveTo => exact withValue_fails (fun _ => rfl) failed
  | drawTo =>
    refine withValue_fails (fun p => ?_) failed
    have ready := (applyPen_safe sound).sound
    exact andThen_done sound.applyPen_done (andThen_done (ready.draw_done nesting _) rfl)
  | clear => cases failed
  | reset => cases failed
  | rectangle => exact withValue_fails (fun _ => sound.drawShape_done nesting _) failed
  | circle => exact withValue_fails (fun _ => sound.drawShape_done nesting _) failed
  | triangle => exact withValue_fails (fun _ => sound.drawShape_done nesting _) failed
  | pen =>
    simp only [perform, setPen] at failed ⊢
    split at failed
    · cases failed
      rfl
    · split at failed <;> cases failed
  | fill =>
    simp only [perform, setFill] at failed ⊢
    split at failed
    · cases failed
      rfl
    · split at failed <;> cases failed

theorem perform_atomic (valid : m.state.Valid) (primitive : Primitive) (arguments : List Text) :
    (m.perform nesting primitive arguments).Atomic marked m where
  fault f faulted := by
    -- What the script is to blame for has been checked before.
    have unblamed : (m.perform nesting primitive arguments).Blames fun _ => False :=
      perform_blames m nesting primitive arguments
    exact (unblamed f faulted).elim
  failure unfailing f failed := by
    rw [Sound.perform_fails ⟨valid, unfailing⟩ failed]
    exact ⟨rfl, rfl⟩

/-! ### Lines outside of a block -/

theorem runCommand_atomic (valid : m.state.Valid) (unmarked : m.state = marked) :
    (runCommand nesting line m).Atomic marked m := by
  unfold runCommand
  split
  · exact fail_atomic _
  · exact fail_atomic _
  · split
    · exact fail_atomic _
    · split
      -- The words are checked before anything is drawn.
      · exact fault_atomic (f := id) unmarked _
      · unfold command
        split
        · exact .of_log (perform_atomic (m := m.log ..) valid _ _)
        · exact fail_atomic _

theorem assign_atomic (unmarked : m.state = marked) (name expression : Text) :
    (assign line name expression m).Atomic marked m := by
  unfold assign
  split
  · exact done_atomic _
  next problem _ =>
    cases problem with
    | cause c => exact fault_atomic (f := id) unmarked c
    | failure f => exact fail_atomic f

theorem openBranch_atomic (marks : m.state.push false line = marked) (arguments : List Text) :
    (openBranch line arguments m).Atomic marked m := by
  unfold openBranch
  split
  · exact done_atomic _
  · split
    · exact done_atomic _
    · exact fault_atomic (f := fun s => s.push false line) marks _
    · exact fail_atomic _

theorem closeBranch_atomic (unmarked : m.state = marked) :
    (closeBranch line m).Atomic marked m := by
  unfold closeBranch
  split
  · exact fault_atomic (f := id) unmarked _
  · exact done_atomic _

theorem openLoop_atomic
    (marks : { m.state with mode := .loop { header := 0, openedAt := line, discarded := true } } =
      marked) (arguments : List Text) : (openLoop {} line arguments m).Atomic marked m := by
  simp only [openLoop, Nat.lt_irrefl, ↓reduceIte]
  split
  · exact done_atomic _
  · split
    · exact done_atomic _
    · exact fault_atomic
        (f := fun s =>
          { s with mode := .loop { header := 0, openedAt := line, discarded := true } }) marks _
    · exact fail_atomic _

theorem openMethod_atomic
    (marks : { m.state with
      mode := .method { header := none, openedAt := line, discarded := true } } = marked) :
    (openMethod line m).Atomic marked m := by
  simp only [openMethod]
  split
  · exact done_atomic _
  · exact fault_atomic
      (f := fun s =>
        { s with mode := .method { header := none, openedAt := line, discarded := true } }) marks _

/-! ### Lines of an open block -/

theorem closeMethod_atomic (block : Block (Option Header)) :
    (closeMethod nesting block m).Atomic marked m := by
  unfold closeMethod
  split
  · exact done_atomic _
  · exact fail_atomic _

/-- Of the lines of an open block only an inner block is a fault, unless the block ends. -/
theorem collect_atomic {α : Type} {kind : BlockKind} {nestedCause : Cause} {block : Block α}
    {rewrap : Block α → Mode} {close : Machine ε → Outcome ε} {statement : Statement}
    (marks : ∀ arguments, statement = .block kind false arguments →
      { m.state with
        mode := rewrap { block with nested := block.nested + 1, discarded := true } } = marked)
    (closes : ∀ arguments, statement = .block kind true arguments → block.discarded = false →
      block.nested = 0 → (close m).Atomic marked m) :
    (collect kind nestedCause block rewrap close nesting line statement m).Atomic marked m := by
  unfold collect
  split
  next found closing arguments =>
    split
    · exact done_atomic _
    next same =>
      obtain rfl : found = kind := by simpa using same
      dsimp only
      split
      next opening =>
        -- The first inner block is the fault; the outer one is discarded from then on.
        obtain rfl : closing = false := by simpa using opening
        split
        · exact done_atomic _
        · exact fault_atomic (f := fun s =>
            { s with mode := rewrap { block with nested := block.nested + 1, discarded := true } })
            (marks arguments rfl) _
      next closed =>
        obtain rfl : closing = true := by simpa using closed
        split
        · exact done_atomic _
        next outermost =>
          split
          · exact done_atomic _
          next kept => exact closes arguments rfl (by simpa using kept) (by omega)
  · exact done_atomic _

/-! ### One line -/

section Lines

variable {deeper : Option (Runner ε)} {limit : Text} {statement : Statement}

theorem execute_atomic (valid : m.state.Valid) (idle : m.state.mode = .idle)
    (read : Statement.classify line.text = .ok statement)
    (uncalled : m.state.gateOpen = true → ∀ invocation, statement ≠ .call invocation)
    (uncollected : statement.opensBlock = false) :
    (execute deeper limit nesting line statement m).Atomic (m.state.struck line) m := by
  -- Whatever opens neither a branch nor a block leaves no mark.
  have unmarked (unopened : ∀ kind arguments, statement ≠ .block kind false arguments) :
      m.state = m.state.struck line :=
    (State.struck_of_statement read unopened).symm
  unfold execute
  split
  · exact closeBranch_atomic (unmarked (by simp))
  · refine openBranch_atomic ?_ _
    simp [State.struck, idle, Statement.keyword?_of_block read, Statement.keyword?]
  · exact fault_atomic (f := id) (unmarked (by simp)) _
  · cases uncollected
  next closes _ =>
    cases closes with
    | true => exact fault_atomic (f := id) (unmarked (by simp)) _
    | false => cases uncollected
  · split
    · exact done_atomic _
    next gate =>
      split
      · exact absurd rfl (uncalled (by simpa using gate) _)
      · exact assign_atomic (unmarked (by simp)) _ _
      · exact runCommand_atomic valid (unmarked (by simp))
      · exact fault_atomic (f := id) (unmarked (by simp)) _
      · exact done_atomic _

theorem start_atomic (valid : m.state.Valid) (idle : m.state.mode = .idle)
    (read : Statement.classify line.text = .ok statement)
    (uncalled : m.state.gateOpen = true → ∀ invocation, statement ≠ .call invocation) :
    (start deeper limit {} line statement m).Atomic (m.state.struck line) m := by
  unfold start
  split
  · exact fault_atomic (f := id) (State.struck_of_statement read (by simp)).symm _
  · refine openMethod_atomic ?_
    simp [State.struck, idle, Statement.keyword?_of_block read, Statement.keyword?]
  · refine openLoop_atomic ?_ _
    simp [State.struck, idle, Statement.keyword?_of_block read, Statement.keyword?]
  next headless unlooped =>
    refine execute_atomic valid idle read uncalled ?_
    unfold Statement.opensBlock
    split
    · exact absurd rfl (unlooped _)
    · exact absurd rfl (headless _)
    · rfl

/-- A line other than a call and the end of a loop that is run. -/
theorem stepWith_atomic (valid : m.state.Valid) (tidy : line.Tidy)
    (uncalled : m.state.mode = .idle → m.state.gateOpen = true →
      ∀ invocation, Statement.classify line.text ≠ .ok (.call invocation))
    (unended : ∀ block, m.state.mode = .loop block → line.closes .loop = true →
      block.discarded = true ∨ 0 < block.nested) :
    (stepWith deeper limit {} line m).Atomic (m.state.struck line) m := by
  obtain ⟨statement, read⟩ := Statement.classify_of_trimmed tidy.trimmed
  simp only [stepWith, classified, read]
  split
  next block collecting =>
    refine .of_log (collect_atomic (fun arguments opening => ?_) fun _ _ _ _ =>
      closeMethod_atomic block)
    subst opening
    simp [State.struck, collecting, Statement.keyword?_of_block read, Statement.keyword?, log]
  next block collecting =>
    refine .of_log (collect_atomic (fun arguments opening => ?_)
      fun arguments closing kept outermost => ?_)
    · subst opening
      simp [State.struck, collecting, Statement.keyword?_of_block read, Statement.keyword?, log]
    · -- The loop that would be run here is the one that the line does not end.
      subst closing
      have closes : line.closes .loop = true := by
        simp [Line.closes, Statement.keyword?_of_block read, Statement.keyword?]
      rcases unended block collecting closes with discarded | inner
      · rw [kept] at discarded
        cases discarded
      · omega
  next idle =>
    refine .of_log (start_atomic (m := m.log ..) valid idle read fun gate invocation call => ?_)
    exact uncalled idle gate invocation (call ▸ read)

end Lines

/-! ### Fed lines -/

/-- The same variables, methods, pen and drawing. -/
structure SameWork (m m' : Machine ε) : Prop where
  store : m'.state.store = m.state.store
  methods : m'.state.methods = m.state.methods
  pen : m'.state.pen = m.state.pen
  surface : m'.surface = m.surface

theorem sameWork_of_struck {m' : Machine ε} (state : m'.state = m.state.struck line)
    (surface : m'.surface = m.surface) : m.SameWork m' := by
  suffices kept : (m.state.struck line).store = m.state.store ∧
      (m.state.struck line).methods = m.state.methods ∧
      (m.state.struck line).pen = m.state.pen by
    rw [← state] at kept
    exact ⟨kept.1, kept.2.1, kept.2.2, surface⟩
  unfold State.struck
  split <;> exact ⟨rfl, rfl, rfl⟩

/-- Let a host feed a line that is neither a call to be run nor the end of a loop to be run.  If it
leaves a diagnostic, then besides it only the mark of a fault is new.  If it fails, on a surface
that draws every figure as a recording one does, nothing is.  Either way the variables, the methods,
the pen and the drawing are the same. -/
theorem failed_line_is_atomic {settings : Settings} (reachable : Reachable settings m)
    (tidy : line.Tidy)
    (uncalled : m.state.mode = .idle → m.state.gateOpen = true →
      ∀ invocation, Statement.classify line.text ≠ .ok (.call invocation))
    (unended : ∀ block, m.state.mode = .loop block → line.closes .loop = true →
      block.discarded = true ∨ 0 < block.nested) :
    let fed := feedLine settings line m
    (m.state.report.diagnostics.length < fed.1.state.report.diagnostics.length →
      m.SameWork fed.1 ∧ ∃ d, fed.1.state = (m.state.struck line).addDiagnostic d) ∧
    (m.surface.medium.Unfailing → fed.2.isSome = true →
      m.SameWork fed.1 ∧ fed.1.state = m.state) := by
  intro fed
  have atomic : (take settings line m).Atomic (m.state.struck line) m := by
    rw [take_eq]
    exact stepWith_atomic reachable.valid tidy uncalled unended
  have settledFed : fed = settled (take settings line m) := rfl
  refine ⟨fun reported => ?_, fun unfailing failed => ?_⟩
  · obtain ⟨f, faulted, _⟩ := fault_of_reported reported
    have alike := atomic.fault f faulted
    simp only [settledFed, settled, faulted]
    have work := sameWork_of_struck alike.state alike.surface
    refine ⟨⟨work.store, work.methods, work.pen, work.surface⟩, f.diagnostic, ?_⟩
    exact congrArg (State.addDiagnostic · f.diagnostic) alike.state
  · -- Only a failure is left when a line is settled.
    simp only [settledFed, settled] at failed ⊢
    split at failed
    · cases failed
    · cases failed
    next f stopped =>
      have alike := atomic.failure unfailing f stopped
      exact ⟨⟨by rw [alike.state], by rw [alike.state], by rw [alike.state], alike.surface⟩,
        alike.state⟩

/-- An inner loop is a fault of the line, and a triangle too wide for a double a failure. -/
theorem failed_line_is_atomic_at_loop_and_triangle :
    let fresh := create {} Recording.surface
    let m := (feed {} "x = 1\nloop 2\ndrawto x x".toList none fresh).1
    let inner : Line := { text := "loop 3".toList }
    let wide : Line := { text := "triangle ".toList ++ List.replicate 400 '9' ++ " 1 1 1".toList }
    (m.state.report.diagnostics.length < (feedLine {} inner m).1.state.report.diagnostics.length ∧
      m.SameWork (feedLine {} inner m).1 ∧
      ∃ d, (feedLine {} inner m).1.state = (m.state.struck inner).addDiagnostic d) ∧
    ((feedLine {} wide fresh).2.isSome = true ∧ fresh.SameWork (feedLine {} wide fresh).1 ∧
      (feedLine {} wide fresh).1.state = fresh.state) := by
  intro fresh m inner wide
  have created : Reachable {} fresh := .created Recording.surface
  have reachable : Reachable {} m := .fed created _ none
  have collecting : m.state.mode.activity = .collectingLoop := by decide +kernel
  have reported : m.state.report.diagnostics.length <
      (feedLine {} inner m).1.state.report.diagnostics.length := by decide +kernel
  have idle : fresh.state.mode.activity = .idle := by decide +kernel
  have failed : (feedLine {} wide fresh).2.isSome = true := by decide +kernel
  have command : (Statement.classify wide.text).toOption = some (.command .triangle
      (List.replicate 400 '9' :: List.replicate 3 "1".toList)) := by decide +kernel
  have tidy : wide.Tidy := by decide +kernel
  -- From here on the digits would only be in the way.
  clear_value wide
  refine ⟨⟨reported, ?_⟩, failed, ?_⟩
  · refine (failed_line_is_atomic reachable (by decide) (fun waiting => ?_)
      fun _ _ closes => absurd closes (by decide)).1 reported
    rw [waiting] at collecting
    cases collecting
  · refine (failed_line_is_atomic created tidy (fun _ _ invocation call => ?_)
      fun block looping => ?_).2 Recording.unfailing failed
    · rw [call] at command
      cases command
    · rw [looping] at idle
      cases idle

end Machine

end Plotter
