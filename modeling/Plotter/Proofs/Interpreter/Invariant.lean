import Plotter.Interpreter.Run
import Plotter.Surface.Recording
import Plotter.Proofs.Interpreter.Simulation
import Plotter.Proofs.Machine.Validity

/-!
# The invariant of the interpreter

Between two operations of a host an interpreter is that of a machine outside of calls and replays,
so what holds of the machines that a host can get to holds of its buffers too.

## Main result

`reachable_invariant`: wherever a host can get to, also after faults and after failures, not both
buffers are in use, both counters are zero, names, methods and buffers are what they should be, and
every further operation comes to an end.

## Proof strategy

Each operation on the interpreter of a machine is the operation on the machine
(`feedLine_interpreter` to `run_interpreter`), so the two stay together along every sequence of
operations (`Reachable.exists_machine`).
-/

namespace Plotter.Interpreter

variable {ε : Type} {settings : Settings} {e : Interpreter ε} {m : Machine ε}

/-! ### Operations of a host -/

/-- The interpreter of a machine outside of calls and replays, with what the machine gave. -/
def ofResult {α : Type} (r : Machine ε × α) : Interpreter ε × α := (r.1.interpreter {}, r.2)

theorem reset_eq (settings : Settings) (m : Machine ε) (nesting : Nesting) :
    (m.interpreter nesting).reset settings = (m.reset settings).interpreter {} := by
  unfold Interpreter.reset Machine.reset
  rw [machine_interpreter]
  unfold Machine.interpreter
  simp only [Machine.takeColor_state, Machine.takeColor_journal, Machine.takeColor_surface]
  rfl

theorem create_eq (settings : Settings) (surface : Surface ε) :
    create settings surface = (Machine.create settings surface).interpreter {} :=
  reset_eq settings { surface := surface } {}

theorem setProperty_interpreter (m : Machine ε) (property : Property) (v : Value) :
    (m.interpreter {}).setProperty property v = (m.setProperty property v).exit {} := by
  rw [setProperty, machine_interpreter]
  refine after_interpreter ?_ {}
  unfold Machine.setProperty
  split <;> rfl

theorem reportFault_interpreter (m : Machine ε) (d : Diagnostic) :
    (m.interpreter {}).reportFault d = (m.reportFault {} d).interpreter {} := by
  rw [reportFault, log_interpreter]
  rfl

theorem settled_exit (o : Outcome ε) : (o.exit {}).settled = ofResult (Machine.settled o) := by
  obtain ⟨m, _ | (f | f)⟩ := o
  · rfl
  · exact congrArg (·, none) (reportFault_interpreter m f.diagnostic)
  · rfl

theorem feedLine_interpreter (settings : Settings) (line : Line) (m : Machine ε) :
    feedLine settings line (m.interpreter {}) = some (ofResult (m.feedLine settings line)) := by
  rw [feedLine, step_interpreter _ settings.maxCallDepth.toNat {} (Nat.zero_add _), Option.map_some,
    settled_exit]
  rfl

theorem feedLines_interpreter (settings : Settings) (lines : List Line) (m : Machine ε) :
    feedLines settings lines (m.interpreter {}) =
      some (ofResult (m.feedLines settings lines)) := by
  induction lines generalizing m with
  | nil => rfl
  | cons line rest ih =>
    rw [feedLines, Machine.feedLines, feedLine_interpreter, Option.bind_eq_bind, Option.bind_some]
    rcases Machine.feedLine settings line m with ⟨next, _ | f⟩
    · exact ih next
    · rfl

theorem openBlocks_interpreter (m : Machine ε) :
    (m.interpreter {}).openBlocks = Machine.openBlocks m.state := by
  cases mode : m.state.mode <;>
    simp [openBlocks, Machine.openBlocks, Machine.interpreter, mode, Mode.loop?, Mode.definition?,
      Block.counted, Block.under]

theorem discardBlocks_interpreter (m : Machine ε) :
    (m.interpreter {}).discardBlocks = (m.modifyState State.discardBlocks).interpreter {} := rfl

theorem finish_interpreter (m : Machine ε) :
    (m.interpreter {}).finish = m.finish.interpreter {} := by
  have reported (faults : List Fault) : ∀ m : Machine ε,
      faults.foldl (fun e f => e.reportFault f.diagnostic) (m.interpreter {}) =
        (faults.foldl (fun m f => m.reportFault {} f.diagnostic) m).interpreter {} := by
    induction faults with
    | nil => exact fun _ => rfl
    | cons f rest ih =>
      intro m
      rw [List.foldl_cons, List.foldl_cons, reportFault_interpreter]
      exact ih _
  rw [finish, openBlocks_interpreter, reported, discardBlocks_interpreter]
  rfl

theorem runStopping_interpreter (settings : Settings) (lines : List Line) (m : Machine ε) :
    runStopping settings lines (m.interpreter {}) =
      some (ofResult (m.runStopping settings lines)) := by
  induction lines generalizing m with
  | nil => rfl
  | cons line rest ih =>
    rw [runStopping, Machine.runStopping, feedLine_interpreter, Option.bind_eq_bind,
      Option.bind_some]
    rcases Machine.feedLine settings line m with ⟨next, _ | f⟩
    · change (if m.state.report.diagnostics.length < next.state.report.diagnostics.length then
        some ((next.interpreter {}).log (.stopping line.number), true, none)
        else runStopping settings rest (next.interpreter {})) = _
      rw [log_interpreter, ih]
      dsimp only
      split <;> rfl
    · rfl

theorem runLines_interpreter (settings : Settings) (lines : List Line) (m : Machine ε) :
    runLines settings lines (m.interpreter {}) = some (ofResult (m.runLines settings lines)) := by
  rw [runLines, Machine.runLines, runStopping_interpreter, feedLines_interpreter]
  split
  · rcases Machine.runStopping settings lines m with ⟨last, stopped, _ | f⟩
    · cases stopped with
      | true =>
        simp [ofResult, discardBlocks_interpreter]
      | false => simp [ofResult, finish_interpreter]
    · cases stopped <;> rfl
  · rcases Machine.feedLines settings lines m with ⟨last, _ | f⟩
    · simp [ofResult, finish_interpreter]
    · rfl

theorem run_interpreter (settings : Settings) (source : Text) (filename : Option Text)
    (m : Machine ε) :
    run settings source filename (m.interpreter {}) =
      some (ofResult (m.run settings source filename)) := by
  rw [run, reset_eq, runLines_interpreter]
  rfl

theorem feed_interpreter (settings : Settings) (text : Text) (number : Option Int) (m : Machine ε) :
    feed settings text number (m.interpreter {}) =
      some (ofResult (m.feed settings text number)) :=
  feedLines_interpreter settings _ m

/-! ### Where a host can get to -/

/-- The interpreters that a host can get to.  A failure leaves the interpreter as it was when it
happened, and the host goes on with it. -/
inductive Reachable (settings : Settings) : Interpreter ε → Prop
  | created (surface : Surface ε) : Reachable settings (create settings surface)
  | line {e next : Interpreter ε} {line : Line} {failure : Option Failure}
      (earlier : Reachable settings e) (tidy : line.Tidy)
      (fed : feedLine settings line e = some (next, failure)) : Reachable settings next
  | fed {e next : Interpreter ε} {text : Text} {number : Option Int} {failure : Option Failure}
      (earlier : Reachable settings e)
      (fed : feed settings text number e = some (next, failure)) : Reachable settings next
  | ran {e last : Interpreter ε} {source : Text} {filename : Option Text}
      {result : Except Failure Result} (earlier : Reachable settings e)
      (ran : run settings source filename e = some (last, result)) : Reachable settings last
  | finished {e : Interpreter ε} (earlier : Reachable settings e) : Reachable settings e.finish
  | reset {e : Interpreter ε} (earlier : Reachable settings e) :
      Reachable settings (e.reset settings)
  | set {e : Interpreter ε} (earlier : Reachable settings e) (property : Property) (v : Value) :
      Reachable settings (e.setProperty property v).interpreter

/-- A host gets to the interpreters of those machines that it can get to. -/
theorem Reachable.exists_machine (reachable : Reachable settings e) :
    ∃ m, Machine.Reachable settings m ∧ e = m.interpreter {} := by
  induction reachable with
  | created surface => exact ⟨_, .created surface, create_eq settings surface⟩
  | line _ tidy fed ih =>
    obtain ⟨m, reached, rfl⟩ := ih
    rw [feedLine_interpreter] at fed
    cases fed
    exact ⟨_, reached.line tidy, rfl⟩
  | @fed _ _ text number _ _ fed ih =>
    obtain ⟨m, reached, rfl⟩ := ih
    rw [feed_interpreter] at fed
    cases fed
    exact ⟨_, reached.fed text number, rfl⟩
  | @ran _ _ source filename _ _ ran ih =>
    obtain ⟨m, reached, rfl⟩ := ih
    rw [run_interpreter] at ran
    cases ran
    exact ⟨_, reached.ran source filename, rfl⟩
  | finished _ ih =>
    obtain ⟨m, reached, rfl⟩ := ih
    exact ⟨_, reached.finished, finish_interpreter m⟩
  | reset _ ih =>
    obtain ⟨m, reached, rfl⟩ := ih
    exact ⟨_, reached.reset, reset_eq settings m {}⟩
  | set _ property v ih =>
    obtain ⟨m, reached, rfl⟩ := ih
    exact ⟨_, reached.set property v,
      congrArg Exit.interpreter (setProperty_interpreter m property v)⟩

/-- What holds of an interpreter between two operations. -/
structure Valid (e : Interpreter ε) : Prop where
  /-- Not both buffers are in use. -/
  buffers : e.loop = none ∨ e.definition = none
  callDepth : e.callDepth = 0
  replaying : e.replaying = 0
  names : ∀ name ∈ e.store.names, isName name = true
  methods : ∀ entry ∈ e.methods.entries, entry.1 = entry.2.name ∧ entry.2.Valid
  loop : ∀ block, e.loop = some block → 0 ≤ block.header ∧ block.Valid .loop
  definition : ∀ block, e.definition = some block → block.Headed ∧ block.Valid .method
  color : e.pen.color ∈ PenColor.all.map PenColor.word

/-- The interpreter of a machine uses the buffer of its mode only. -/
theorem valid_interpreter (valid : m.state.Valid) : (m.interpreter {}).Valid where
  buffers := by
    rw [loop_interpreter, definition_interpreter]
    cases m.state.mode with
    | idle | method => exact Or.inl rfl
    | loop => exact Or.inr rfl
  callDepth := rfl
  replaying := rfl
  names := valid.names
  methods := valid.methods
  loop block open_ := by
    rw [loop_interpreter] at open_
    cases mode : m.state.mode with
    | idle | method =>
      rw [mode] at open_
      cases open_
    | loop counted =>
      have held := valid.block
      rw [mode] at open_ held
      cases open_
      exact ⟨held.1, held.2.body, held.2.nested⟩
  definition block open_ := by
    rw [definition_interpreter] at open_
    cases mode : m.state.mode with
    | idle | loop =>
      rw [mode] at open_
      cases open_
    | method defined =>
      have held := valid.block
      rw [mode] at open_ held
      cases open_
      exact held
  color := valid.color

/-- Wherever a host can get to, not both buffers are in use, no call and no replay is counted as
under way, names, methods and buffers are well-formed, and every line, every piece of input and
every script comes to an end. -/
theorem reachable_invariant (reachable : Reachable settings e) :
    e.Valid ∧
      (∀ line, ∃ r, feedLine settings line e = some r) ∧
      (∀ text number, ∃ r, feed settings text number e = some r) ∧
      ∀ source filename, ∃ r, run settings source filename e = some r := by
  obtain ⟨m, reached, rfl⟩ := reachable.exists_machine
  exact ⟨valid_interpreter reached.valid, fun line => ⟨_, feedLine_interpreter settings line m⟩,
    fun text number => ⟨_, feed_interpreter settings text number m⟩,
    fun source filename => ⟨_, run_interpreter settings source filename m⟩⟩

/-- A line fails in a call inside of a replay, and both counters are lowered.  Then a call whose
argument is a keyword leaves a method open. -/
theorem reachable_invariant_after_failure :
    let wide := '1' :: List.replicate 309 '0'
    let overflow := "method t(a)\ntriangle a 1 0 0\nendmethod\nloop 2\nt(".toList ++ wide ++
      ")\nendloop".toList
    let keyword := "method m(a)\na b\nendmethod\nm(method)\nloop 2".toList
    ∃ first last : Interpreter Recorded, ∃ f,
      feed {} overflow none (create {} Recording.surface) = some (first, some f) ∧
        feed {} keyword none first = some (last, none) ∧ Reachable {} last ∧
          first.Valid ∧ last.Valid ∧ last.definition.isSome = true := by
  intro wide overflow keyword
  let blank := Machine.create {} Recording.surface
  let failed := blank.feed {} overflow none
  let open_ := failed.1.feed {} keyword none
  have overflows :
      feed {} overflow none (create {} Recording.surface) = some (ofResult failed) := by
    rw [create_eq, feed_interpreter]
  have goesOn : feed {} keyword none (failed.1.interpreter {}) = some (ofResult open_) :=
    feed_interpreter {} keyword none failed.1
  have reached : Reachable {} (failed.1.interpreter {}) :=
    .fed (.created Recording.surface) overflows
  have last : Reachable {} (open_.1.interpreter {}) := reached.fed goesOn
  have ran : failed.2.isSome = true ∧ open_.2.isNone = true ∧
      (open_.1.interpreter {}).definition.isSome = true := by decide +kernel
  -- From here on nothing is computed.
  clear_value failed open_
  obtain ⟨broken, whole, defining⟩ := ran
  obtain ⟨f, failure⟩ := Option.isSome_iff_exists.mp broken
  refine ⟨failed.1.interpreter {}, open_.1.interpreter {}, f, ?_, ?_, last,
    (reachable_invariant reached).1, (reachable_invariant last).1, defining⟩
  · rw [overflows, ofResult, failure]
  · rw [goesOn, ofResult, Option.isNone_iff_eq_none.mp whole]

end Plotter.Interpreter
