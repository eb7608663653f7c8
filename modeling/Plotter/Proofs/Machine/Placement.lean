import Plotter.Proofs.Machine.Feeding
import Plotter.Proofs.Machine.Recasting

/-!
# What a line does wherever it stands

Lines carry the number and the file that they have in their source, and so do the blocks that they
open, the methods that they define, the diagnostics that they leave and the entries of the journal.
Nothing of that decides what happens next: it is only carried along and shown.

`unplaced` takes it away, from a line and from everything that a line finds its way into.  Each
function of the machine does the same with and without it, so lines of the same texts have the same
effect up to it.

## Main result

`feedLines_of_texts`: two lists of lines with the same texts, fed to one machine, lead to the same
machine up to the places of lines, and they fail in the same way if they fail.
-/

namespace Plotter

/-! ### Taking places away -/

def Line.unplaced (line : Line) : Line := { text := line.text }

def Location.unplaced (l : Location) : Location := { l with line := 0, filename := none }

def Diagnostic.unplaced (d : Diagnostic) : Diagnostic :=
  { d with span := ⟨d.span.start.unplaced, d.span.stop.unplaced⟩ }

def Branch.unplaced (b : Branch) : Branch := { b with openedAt := b.openedAt.unplaced }

def Block.unplaced {α : Type} (b : Block α) : Block α :=
  { b with openedAt := b.openedAt.unplaced, body := b.body.map Line.unplaced }

def Mode.unplaced : Mode → Mode
  | .idle => .idle
  | .loop block => .loop block.unplaced
  | .method block => .method block.unplaced

def Method.unplaced (m : Method) : Method := { m with body := m.body.map Line.unplaced }

/-- The same names with other values. -/
def Dictionary.map {α β : Type} (f : α → β) (d : Dictionary α) : Dictionary β :=
  ⟨d.entries.map fun entry => (entry.1, f entry.2)⟩

def State.unplaced (s : State) : State :=
  { s with
    methods := s.methods.map Method.unplaced
    conditions := s.conditions.map Branch.unplaced
    mode := s.mode.unplaced
    report := { s.report with diagnostics := s.report.diagnostics.map Diagnostic.unplaced } }

def Event.unplaced : Event → Event
  | .discarded kind _ => .discarded kind 0
  | .defined method => .defined method.unplaced
  | .reported _ message => .reported 0 message
  | .stopping _ => .stopping 0
  | other => other

def Fault.unplaced (f : Fault) : Fault := { f with line := f.line.unplaced }

def Stop.unplaced : Stop → Stop
  | .fault f => .fault f.unplaced
  | .failure f => .failure f

variable {ε : Type}

def Machine.unplaced (m : Machine ε) : Machine ε where
  state := m.state.unplaced
  surface := m.surface
  journal := m.journal.map fun entry => { entry with event := entry.event.unplaced }

def Outcome.unplaced (o : Outcome ε) : Outcome ε := ⟨o.machine.unplaced, o.stop.map Stop.unplaced⟩

/-! ### Dictionaries -/

namespace Dictionary

variable {α β : Type} (f : α → β)

theorem get?_map (d : Dictionary α) (name : Text) : (d.map f).get? name = (d.get? name).map f := by
  obtain ⟨entries⟩ := d
  simp only [map, get?]
  induction entries with
  | nil => rfl
  | cons entry rest ih =>
    simp only [List.map_cons, lookup]
    split
    · rfl
    · exact ih

theorem map_set (d : Dictionary α) (name : Text) (value : α) :
    (d.set name value).map f = (d.map f).set name (f value) := by
  obtain ⟨entries⟩ := d
  simp only [map, set, Dictionary.mk.injEq]
  induction entries with
  | nil => rfl
  | cons entry rest ih =>
    simp only [List.map_cons, put]
    split
    · rfl
    · rw [List.map_cons, ih]

end Dictionary

/-! ### Lines and states -/

@[simp] theorem Line.text_unplaced (line : Line) : line.unplaced.text = line.text := rfl

namespace State

variable (s : State)

@[simp] theorem store_unplaced : s.unplaced.store = s.store := rfl

@[simp] theorem pen_unplaced : s.unplaced.pen = s.pen := rfl

@[simp] theorem mode_unplaced : s.unplaced.mode = s.mode.unplaced := rfl

@[simp] theorem conditions_unplaced :
    s.unplaced.conditions = s.conditions.map Branch.unplaced := rfl

@[simp] theorem gateOpen_unplaced : s.unplaced.gateOpen = s.gateOpen := by
  simp only [gateOpen, unplaced, List.all_map]
  rfl

@[simp] theorem depth_unplaced : s.unplaced.depth = s.depth := List.length_map ..

theorem truncate_unplaced (depth : Nat) :
    (s.truncate depth).unplaced = s.unplaced.truncate depth := by
  simp only [truncate, depth_unplaced]
  simp [unplaced, List.map_drop]

theorem define_unplaced (method : Method) :
    (s.define method).unplaced = s.unplaced.define method.unplaced := by
  simp only [define, unplaced, Dictionary.map_set]
  rfl

theorem addDiagnostic_unplaced (d : Diagnostic) :
    (s.addDiagnostic d).unplaced = s.unplaced.addDiagnostic d.unplaced := by
  simp [addDiagnostic, unplaced, Report.add]

end State

theorem Block.keep_unplaced {α : Type} (block : Block α) (line : Line) :
    (block.keep line).unplaced = block.unplaced.keep line.unplaced := by
  unfold keep
  by_cases discarded : block.discarded = true
  · simp [discarded, unplaced]
  · simp [discarded, unplaced]

theorem Mode.withoutLoop_unplaced (mode : Mode) :
    mode.withoutLoop.unplaced = mode.unplaced.withoutLoop := by
  cases mode <;> rfl

theorem Mode.activity_unplaced (mode : Mode) : mode.unplaced.activity = mode.activity := by
  cases mode <;> rfl

/-- A call takes the texts of the lines of its method and gives them its own place. -/
theorem Method.linesAt_unplaced (m : Method) (arguments : List Text) (site : Line) :
    (m.linesAt arguments site).map Line.unplaced =
      m.unplaced.linesAt arguments site.unplaced := by
  simp only [linesAt, unplaced, List.map_map]
  rfl

namespace Machine

variable (m : Machine ε) (nesting : Nesting)

@[simp] theorem state_unplaced : m.unplaced.state = m.state.unplaced := rfl

/-! ### Ends of a line -/

theorem log_unplaced (e : Event) :
    (m.log nesting e).unplaced = m.unplaced.log nesting e.unplaced := by
  simp [log, unplaced]

theorem done_unplaced : m.done.unplaced = m.unplaced.done := rfl

theorem fault_unplaced (line : Line) (cause : Cause) :
    (m.fault line cause).unplaced = m.unplaced.fault line.unplaced cause := rfl

theorem modifyState_unplaced {f g : State → State}
    (same : ∀ s : State, (f s).unplaced = g s.unplaced) :
    (m.modifyState f).unplaced = m.unplaced.modifyState g := by
  simp only [unplaced, modifyState, same]

theorem reportFault_unplaced (f : Fault) :
    (m.reportFault nesting f.diagnostic).unplaced =
      m.unplaced.reportFault nesting f.unplaced.diagnostic := by
  have added (m : Machine ε) : (m.modifyState fun s => s.addDiagnostic f.diagnostic).unplaced =
      m.unplaced.modifyState fun s => s.addDiagnostic f.unplaced.diagnostic :=
    modifyState_unplaced m fun s => s.addDiagnostic_unplaced _
  rw [reportFault, added, log_unplaced]
  rfl

theorem andThen_unplaced {o : Outcome ε} {next next' : Machine ε → Outcome ε}
    (second : ∀ m, (next m).unplaced = next' m.unplaced) :
    (o.andThen next).unplaced = o.unplaced.andThen next' := by
  obtain ⟨m, stop⟩ := o
  cases stop with
  | none => exact second m
  | some stop => rfl

theorem runAll_unplaced {run run' : Line → Machine ε → Outcome ε}
    (each : ∀ line m, (run line m).unplaced = run' line.unplaced m.unplaced) (lines : List Line) :
    (runAll run lines m).unplaced = runAll run' (lines.map Line.unplaced) m.unplaced := by
  induction lines generalizing m with
  | nil => rfl
  | cons line rest ih =>
    simp only [runAll, List.map_cons, ← each]
    exact andThen_unplaced ih

theorem repeated_unplaced {body body' : Machine ε → Outcome ε}
    (round : ∀ m, (body m).unplaced = body' m.unplaced) (rounds : Nat) :
    (repeated body rounds m).unplaced = repeated body' rounds m.unplaced := by
  induction rounds generalizing m with
  | zero => rfl
  | succ rounds ih =>
    simp only [repeated, ← round]
    exact andThen_unplaced ih

theorem restoring_unplaced {restore : State → State}
    (same : ∀ s : State, (restore s).unplaced = restore s.unplaced) (o : Outcome ε) :
    (restoring restore o).unplaced = restoring restore o.unplaced := by
  obtain ⟨m, _ | f | f⟩ := o
  · rfl
  · simp only [restoring, Outcome.unplaced, unplaced, modifyState, same]
    rfl
  · rfl

/-- A drawing command neither looks at places nor records one. -/
theorem recasts_unplaced : Recasts (unplaced (ε := ε)) Stop.unplaced where
  pen _ := rfl
  surface _ := rfl
  log m nesting e drawing := by
    rw [log_unplaced]
    cases e <;> first | rfl | cases drawing
  modifyPen _ _ := rfl
  onSurface _ _ := rfl
  failure _ := rfl

/-! ### Lines outside of a block -/

variable (line : Line)

theorem openBranch_unplaced (arguments : List Text) :
    (openBranch line arguments m).unplaced = openBranch line.unplaced arguments m.unplaced := by
  simp only [openBranch, state_unplaced, State.gateOpen_unplaced, State.store_unplaced]
  split
  · rfl
  · split <;> rfl

theorem closeBranch_unplaced :
    (closeBranch line m).unplaced = closeBranch line.unplaced m.unplaced := by
  simp only [closeBranch, state_unplaced, State.conditions_unplaced]
  cases open_ : m.state.conditions with
  | nil => rfl
  | cons innermost outer => rfl

theorem assign_unplaced (name expression : Text) :
    (assign line name expression m).unplaced =
      assign line.unplaced name expression m.unplaced := by
  simp only [assign, state_unplaced, State.store_unplaced]
  split
  · rfl
  next problem _ => cases problem <;> rfl

theorem runCommand_unplaced :
    (runCommand nesting line m).unplaced = runCommand nesting line.unplaced m.unplaced :=
  recasts_unplaced.runCommand m nesting rfl fun _ => rfl

theorem openLoop_unplaced (arguments : List Text) :
    (openLoop nesting line arguments m).unplaced =
      openLoop nesting line.unplaced arguments m.unplaced := by
  simp only [openLoop, state_unplaced, State.gateOpen_unplaced, State.store_unplaced]
  split
  · rfl
  · split
    · rfl
    · split <;> rfl

theorem openMethod_unplaced :
    (openMethod line m).unplaced = openMethod line.unplaced m.unplaced := by
  simp only [openMethod, Line.text_unplaced]
  split <;> rfl

/-! ### Lines of an open block -/

theorem closeMethod_unplaced (block : Block (Option Header)) :
    (closeMethod nesting block m).unplaced =
      closeMethod nesting block.unplaced m.unplaced := by
  have header : block.unplaced.header = block.header := rfl
  simp only [closeMethod, header]
  split
  next named _ =>
    let method : Method := ⟨named.name, named.parameters, block.body⟩
    have defined (m : Machine ε) : (m.modifyState fun s => s.define method).unplaced =
        m.unplaced.modifyState fun s => s.define method.unplaced :=
      modifyState_unplaced m fun s => s.define_unplaced _
    rw [done_unplaced, log_unplaced, defined]
    rfl
  · rfl

theorem collect_unplaced {α : Type} {kind : BlockKind} {nestedCause : Cause} {block : Block α}
    {rewrap : Block α → Mode} {close close' : Machine ε → Outcome ε} {statement : Statement}
    (wraps : ∀ b, (rewrap b).unplaced = rewrap b.unplaced)
    (closes : (close m).unplaced = close' m.unplaced) :
    (collect kind nestedCause block rewrap close nesting line statement m).unplaced =
      collect kind nestedCause block.unplaced rewrap close' nesting line.unplaced statement
        m.unplaced := by
  have kept (b : Block α) :
      (m.modifyState fun s => { s with mode := rewrap b }).unplaced =
        m.unplaced.modifyState fun s => { s with mode := rewrap b.unplaced } := by
    refine modifyState_unplaced m fun s => ?_
    rw [← wraps]
    rfl
  have nested : block.unplaced.nested = block.nested := rfl
  have discarded : block.unplaced.discarded = block.discarded := rfl
  unfold collect
  split
  · simp only [nested, discarded]
    split
    · rw [done_unplaced, kept, Block.keep_unplaced]
    · split
      · split
        · rw [done_unplaced, kept]
          rfl
        · rw [fault_unplaced, kept]
          rfl
      · split
        · rw [done_unplaced, kept]
          rfl
        · split
          · -- The number of a discarded block is in the journal only.
            have closed (m : Machine ε) :
                (m.modifyState fun s => { s with mode := .idle }).unplaced =
                  m.unplaced.modifyState fun s => { s with mode := .idle } := rfl
            rw [done_unplaced, closed, log_unplaced]
            rfl
          · exact closes
  · rw [done_unplaced, kept, Block.keep_unplaced]

/-! ### Calls and replays -/

section Calls

variable {limit : Text}

/-- Two ways to run the lines of a call, of which the second does without places what the first
does with them. -/
inductive CallsUnplaced : Option (Runner ε) → Option (Runner ε) → Prop
  | neither : CallsUnplaced none none
  | both {runner runner' : Runner ε}
      (same : ∀ nesting line m,
        (runner nesting line m).unplaced = runner' nesting line.unplaced m.unplaced) :
      CallsUnplaced (some runner) (some runner')

variable {deeper deeper' : Option (Runner ε)}

theorem requireClosedLoop_unplaced :
    (requireClosedLoop m).unplaced = requireClosedLoop m.unplaced := by
  simp only [requireClosedLoop, state_unplaced, State.mode_unplaced]
  cases m.state.mode <;> rfl

theorem enter_unplaced {runner runner' : Runner ε}
    (same : ∀ nesting line m,
      (runner nesting line m).unplaced = runner' nesting line.unplaced m.unplaced)
    (lines : List Line) :
    (enter runner nesting lines m).unplaced =
      enter runner' nesting (lines.map Line.unplaced) m.unplaced := by
  simp only [enter, state_unplaced, State.depth_unplaced]
  rw [restoring_unplaced, andThen_unplaced requireClosedLoop_unplaced, runAll_unplaced]
  · exact fun line m => same _ line m
  · -- What a fault leaves open is dropped by its depth and its kind, not by its place.
    intro s
    rw [State.truncate_unplaced]
    simp only [State.unplaced, Mode.withoutLoop_unplaced]

theorem call_unplaced (calls : CallsUnplaced deeper deeper') (invocation : Call) :
    (call deeper limit nesting line invocation m).unplaced =
      call deeper' limit nesting line.unplaced invocation m.unplaced := by
  have found : m.unplaced.state.methods.get? invocation.name =
      (m.state.methods.get? invocation.name).map Method.unplaced :=
    Dictionary.get?_map Method.unplaced m.state.methods invocation.name
  simp only [call, found]
  cases m.state.methods.get? invocation.name with
  | none => rfl
  | some method =>
    have arity : method.unplaced.arity = method.arity := rfl
    simp only [Option.map_some, arity]
    split
    · rfl
    · cases calls with
      | neither => rfl
      | both same =>
        dsimp only
        rw [enter_unplaced _ _ same, Method.linesAt_unplaced]

theorem execute_unplaced (calls : CallsUnplaced deeper deeper') (statement : Statement) :
    (execute deeper limit nesting line statement m).unplaced =
      execute deeper' limit nesting line.unplaced statement m.unplaced := by
  unfold execute
  split
  · exact closeBranch_unplaced m line
  · exact openBranch_unplaced m line _
  · rfl
  · rfl
  · rfl
  · simp only [state_unplaced, State.gateOpen_unplaced]
    split
    · rw [done_unplaced, log_unplaced]
      rfl
    · split
      · exact call_unplaced m nesting line calls _
      · exact assign_unplaced m line _ _
      · exact runCommand_unplaced m nesting line
      · rfl
      · rfl

theorem classified_unplaced {next next' : Statement → Outcome ε}
    (goesOn : ∀ statement, (next statement).unplaced = next' statement) :
    (classified line m next).unplaced = classified line.unplaced m.unplaced next' := by
  simp only [classified, Line.text_unplaced]
  split
  · exact goesOn _
  · rfl

theorem closeLoop_unplaced (calls : CallsUnplaced deeper deeper') (block : Block Nat) :
    (closeLoop deeper limit nesting block m).unplaced =
      closeLoop deeper' limit nesting block.unplaced m.unplaced := by
  have round (inner : Nesting) (m : Machine ε) :
      (replayOnce deeper limit inner block.body m).unplaced =
        replayOnce deeper' limit inner block.unplaced.body m.unplaced := by
    refine runAll_unplaced m (fun line m => ?_) block.body
    exact classified_unplaced m line fun statement =>
      execute_unplaced m inner line calls statement
  have closed : ((m.modifyState fun s => { s with mode := .idle }).log nesting
      (.replaying block.body.length block.header)).unplaced =
      (m.unplaced.modifyState fun s => { s with mode := .idle }).log nesting
        (.replaying block.unplaced.body.length block.unplaced.header) := by
    rw [log_unplaced, Block.unplaced, List.length_map]
    rfl
  simp only [closeLoop, state_unplaced, State.depth_unplaced, ← closed]
  rw [restoring_unplaced fun s => s.truncate_unplaced m.state.depth, repeated_unplaced _ (round _)]
  rfl

theorem start_unplaced (calls : CallsUnplaced deeper deeper') (statement : Statement) :
    (start deeper limit nesting line statement m).unplaced =
      start deeper' limit nesting line.unplaced statement m.unplaced := by
  unfold start
  split
  · rfl
  · exact openMethod_unplaced m line
  · exact openLoop_unplaced m nesting line _
  · exact execute_unplaced m nesting line calls _

theorem stepWith_unplaced (calls : CallsUnplaced deeper deeper') :
    (stepWith deeper limit nesting line m).unplaced =
      stepWith deeper' limit nesting line.unplaced m.unplaced := by
  have noted : (m.log nesting (.line m.state.mode.activity line.text)).unplaced =
      m.unplaced.log nesting (.line m.state.mode.unplaced.activity line.text) := by
    rw [log_unplaced, Mode.activity_unplaced]
    rfl
  refine classified_unplaced m line fun statement => ?_
  simp only [state_unplaced, State.mode_unplaced]
  rw [Line.text_unplaced, ← noted]
  cases m.state.mode with
  | idle => exact start_unplaced _ nesting line calls statement
  | loop block =>
    exact collect_unplaced _ nesting line (fun _ => rfl) (closeLoop_unplaced _ nesting calls block)
  | method block =>
    exact collect_unplaced _ nesting line (fun _ => rfl) (closeMethod_unplaced _ nesting block)

end Calls

/-- A line does the same wherever it stands. -/
theorem step_unplaced (limit : Text) (room : Nat) (nesting : Nesting) (line : Line)
    (m : Machine ε) :
    (step limit room nesting line m).unplaced =
      step limit room nesting line.unplaced m.unplaced := by
  induction room generalizing nesting line m with
  | zero => exact stepWith_unplaced m nesting line .neither
  | succ room ih => exact stepWith_unplaced m nesting line (.both ih)

/-! ### Lines fed by a host -/

variable (settings : Settings)

theorem feedLine_unplaced :
    feedLine settings line.unplaced m.unplaced =
      ((feedLine settings line m).1.unplaced, (feedLine settings line m).2) := by
  have taken : take settings line.unplaced m.unplaced = (take settings line m).unplaced :=
    (step_unplaced ..).symm
  simp only [feedLine, taken]
  generalize take settings line m = o
  obtain ⟨after, _ | f | f⟩ := o
  · rfl
  · simp only [settled, reportFault_unplaced]
    rfl
  · rfl

theorem feedLines_unplaced (lines : List Line) :
    feedLines settings (lines.map Line.unplaced) m.unplaced =
      ((feedLines settings lines m).1.unplaced, (feedLines settings lines m).2) := by
  induction lines generalizing m with
  | nil => rfl
  | cons line rest ih =>
    simp only [List.map_cons, feedLines, feedLine_unplaced]
    generalize feedLine settings line m = fed
    obtain ⟨next, _ | f⟩ := fed
    · exact ih next
    · rfl

theorem openBlocks_unplaced (s : State) :
    openBlocks s.unplaced = (openBlocks s).map Fault.unplaced := by
  simp only [openBlocks, State.mode_unplaced, State.conditions_unplaced, List.map_append,
    ← List.map_reverse, List.map_map]
  cases s.mode <;> rfl

theorem finish_unplaced_diagnostics :
    m.unplaced.finish.state.report.diagnostics =
      m.finish.state.report.diagnostics.map Diagnostic.unplaced := by
  have reported : m.state.unplaced.report.diagnostics =
      m.state.report.diagnostics.map Diagnostic.unplaced := rfl
  simp only [finish_state, state_unplaced, openBlocks_unplaced, reported, List.map_append,
    List.map_map]
  rfl

/-- Whether anything has been reported, and whether anything will have been at the end of the
input, does not depend on places. -/
theorem diagnostics_of_unplaced {m₁ m₂ : Machine ε} (same : m₁.unplaced = m₂.unplaced) :
    (m₁.state.report.diagnostics = [] ↔ m₂.state.report.diagnostics = []) ∧
      (m₁.finish.state.report.diagnostics = [] ↔ m₂.finish.state.report.diagnostics = []) := by
  have reported := congrArg (fun m => m.state.report.diagnostics) same
  have finished := congrArg (fun m => m.finish.state.report.diagnostics) same
  simp only [finish_unplaced_diagnostics] at finished
  constructor
  · rw [← List.map_eq_nil_iff, ← List.map_eq_nil_iff (l := m₂.state.report.diagnostics)]
    exact iff_of_eq (congrArg (· = []) reported)
  · rw [← List.map_eq_nil_iff, finished, List.map_eq_nil_iff]

/-- Lines of the same texts have the same effect, wherever they stand. -/
theorem feedLines_of_texts {first second : List Line}
    (same : first.map Line.text = second.map Line.text) :
    (feedLines settings first m).1.unplaced = (feedLines settings second m).1.unplaced ∧
      (feedLines settings first m).2 = (feedLines settings second m).2 := by
  have bare (lines : List Line) : lines.map Line.unplaced =
      (lines.map Line.text).map fun text => { text := text } := by
    rw [List.map_map]
    rfl
  have fed : feedLines settings (first.map Line.unplaced) m.unplaced =
      feedLines settings (second.map Line.unplaced) m.unplaced := by
    rw [bare, bare, same]
  rw [feedLines_unplaced, feedLines_unplaced] at fed
  exact Prod.ext_iff.mp fed

end Machine

end Plotter
