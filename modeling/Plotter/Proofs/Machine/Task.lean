import Mathlib.Data.Set.Finite.Lattice
import Plotter.Proofs.Machine.Feeding

/-!
# Lines that run lines

The functions of the machine call each other: a line can call a method, whose lines are taken one
after another, and the closing line of a loop has its lines executed again.  A `Task` is one such
line with the machine on which it is run, and its `Agenda` is the lines that it runs in turn.

`Task.unfold` is the recursion with one level written out, and `outcome_eq_unfold` says that the
machine satisfies it, so what happens in the course of a line can be proved by induction over the
tasks that a task starts.
-/

namespace Plotter

/-- How a line comes to be run: the machine takes it, or a replay executes it. -/
inductive Way where
  | taken | replayed
  deriving DecidableEq, Repr

/-- A line that is to be run on a machine. -/
structure Task (ε : Type) where
  way : Way := .taken
  nesting : Nesting := {}
  line : Line
  machine : Machine ε

/-- The further lines that a task runs: those of a method, or those of a loop. -/
inductive Agenda where
  | call (lines : List Line)
  | replay (block : Block Nat)

namespace Agenda

variable {ε : Type}

/-- All lines in the order in which they are run, those of a loop as often as its count says. -/
def lines : Agenda → List Line
  | call lines => lines
  | replay block => (List.replicate block.header block.body).flatten

def way : Agenda → Way
  | call _ => .taken
  | replay _ => .replayed

def nesting (outer : Nesting) : Agenda → Nesting
  | call _ => { outer with calls := outer.calls + 1 }
  | replay _ => { outer with replays := outer.replays + 1 }

/-- The machine on which the first of the lines is run. -/
def opening (outer : Nesting) (m : Machine ε) : Agenda → Machine ε
  | call _ => m
  | replay block =>
    (m.modifyState fun s => { s with mode := .idle }).log outer
      (.replaying block.body.length block.header)

/-- How the task ends once the lines have been run. -/
def conclude (depth : Nat) (o : Outcome ε) : Agenda → Outcome ε
  | call _ =>
    Machine.restoring (fun s => { s with mode := s.mode.withoutLoop }.truncate depth)
      (o.andThen Machine.requireClosedLoop)
  | replay _ => Machine.restoring (fun s => s.truncate depth) o

end Agenda

namespace Machine

variable {ε : Type}

/-- The lines of a run that are reached, each with the machine on which it is run. -/
def reached (run : Line → Machine ε → Outcome ε) : List Line → Machine ε → List (Line × Machine ε)
  | [], _ => []
  | line :: rest, m =>
    (line, m) ::
      match run line m with
      | ⟨next, none⟩ => reached run rest next
      | _ => []

theorem mem_of_mem_reached {run : Line → Machine ε → Outcome ε} {lines : List Line}
    {m m' : Machine ε} {line : Line} (member : (line, m') ∈ reached run lines m) :
    line ∈ lines := by
  induction lines generalizing m with
  | nil => simp [reached] at member
  | cons first rest ih =>
    rcases List.mem_cons.mp member with here | later
    · cases here
      exact List.mem_cons_self ..
    · split at later
      · exact List.mem_cons_of_mem _ (ih later)
      · cases later

/-- Two ways to run lines give the same if they agree wherever the run gets to. -/
theorem runAll_congr {run₁ run₂ : Line → Machine ε → Outcome ε} {lines : List Line} {m : Machine ε}
    (agree : ∀ line m', (line, m') ∈ reached run₁ lines m → run₂ line m' = run₁ line m') :
    runAll run₂ lines m = runAll run₁ lines m := by
  induction lines generalizing m with
  | nil => rfl
  | cons line rest ih =>
    simp only [runAll, agree line m (List.mem_cons_self ..)]
    cases first : run₁ line m with
    | mk next stop =>
      cases stop with
      | some stop => rfl
      | none =>
        refine ih fun later m' member => agree later m' (List.mem_cons_of_mem _ ?_)
        simpa only [first] using member

/-- What every line keeps that is reached holds where lines are reached, and at the end. -/
theorem runAll_reached {Q : Outcome ε → Prop} {run : Line → Machine ε → Outcome ε}
    {lines : List Line} {m : Machine ε} (initial : Q m.done)
    (steps : ∀ line m', (line, m') ∈ reached run lines m → Q m'.done → Q (run line m')) :
    (∀ line m', (line, m') ∈ reached run lines m → Q m'.done) ∧ Q (runAll run lines m) := by
  induction lines generalizing m with
  | nil => exact ⟨by simp [reached], initial⟩
  | cons line rest ih =>
    have first := steps line m (List.mem_cons_self ..) initial
    cases ran : run line m with
    | mk next stop =>
      rw [ran] at first
      cases stop with
      | some stop => simpa [reached, runAll, ran, Outcome.andThen] using ⟨initial, first⟩
      | none =>
        obtain ⟨before, after⟩ := ih first fun later m' member =>
          steps later m' (List.mem_cons_of_mem _ (by simpa only [ran] using member))
        refine ⟨fun later m' member => ?_, by simpa only [runAll, ran, Outcome.andThen] using after⟩
        rcases List.mem_cons.mp member with here | later
        · cases here
          exact initial
        · exact before _ _ (by simpa only [ran] using later)

end Machine

namespace Task

open Machine

variable {ε : Type} (settings : Settings)

/-- The lines of the method that a line calls, when the call is made. -/
def called? (t : Task ε) : Option (List Line) :=
  match Statement.classify t.line.text with
  | .ok (.call invocation) =>
    match t.machine.state.methods.get? invocation.name with
    | some method =>
      if t.machine.state.gateOpen = true ∧ invocation.arguments.length = method.arity ∧
          t.nesting.calls < settings.maxCallDepth.toNat then
        some (method.linesAt invocation.arguments t.line)
      else none
    | none => none
  | _ => none

/-- Whether a line closes a loop that is replayed then. -/
def closes (t : Task ε) (block : Block Nat) : Bool :=
  match Statement.classify t.line.text with
  | .ok (.block .loop true _) => !block.discarded && block.nested == 0
  | _ => false

/-- The line is executed, because it is replayed or no block is open that would collect it. -/
def Executed (t : Task ε) : Prop := t.way = .replayed ∨ t.machine.state.mode = .idle

/-- The further lines that the task runs, if there are any. -/
def agenda? (t : Task ε) : Option Agenda :=
  match t.way, t.machine.state.mode with
  | .taken, .loop block => if t.closes block then some (.replay block) else none
  | .taken, .method _ => none
  | _, _ => (t.called? settings).map .call

/-- Runs a task when calls are made in a given way. -/
def runBy (deeper : Option (Runner ε)) (t : Task ε) : Outcome ε :=
  match t.way with
  | .taken => stepWith deeper settings.maxCallDepth.text t.nesting t.line t.machine
  | .replayed =>
    classified t.line t.machine fun statement =>
      execute deeper settings.maxCallDepth.text t.nesting t.line statement t.machine

/-- Runs a task. -/
def outcome (t : Task ε) : Outcome ε :=
  t.runBy settings
    (inner settings.maxCallDepth.text (settings.maxCallDepth.toNat - t.nesting.calls))

/-- The machine once the line has been noted, which a replayed line is not. -/
def noted (t : Task ε) : Machine ε :=
  match t.way with
  | .taken => t.machine.log t.nesting (.line t.machine.state.mode.activity t.line.text)
  | .replayed => t.machine

/-- A further line of the task, as a task of its own. -/
def part (t : Task ε) (agenda : Agenda) (line : Line) (m : Machine ε) : Task ε :=
  ⟨agenda.way, agenda.nesting t.nesting, line, m⟩

/-- One unfolding of the recursion: a task without further lines is run on its own, and any other
runs its lines as tasks of their own. -/
def unfold (run : Task ε → Outcome ε) (t : Task ε) : Outcome ε :=
  match t.agenda? settings with
  | none => t.runBy settings none
  | some agenda =>
    agenda.conclude t.machine.state.depth
      (runAll (fun line m => run (t.part agenda line m)) agenda.lines
        (agenda.opening t.nesting t.noted))

/-- The run of the further lines. -/
def ran (t : Task ε) (agenda : Agenda) : Outcome ε :=
  runAll (fun line m => (t.part agenda line m).outcome settings) agenda.lines
    (agenda.opening t.nesting t.noted)

/-- The tasks that a task starts. -/
def started (t : Task ε) : List (Task ε) :=
  match t.agenda? settings with
  | none => []
  | some agenda =>
    (reached (fun line m => (t.part agenda line m).outcome settings) agenda.lines
      (agenda.opening t.nesting t.noted)).map fun (line, m) => t.part agenda line m

variable {settings}

@[simp] theorem noted_state (t : Task ε) : t.noted.state = t.machine.state := by
  unfold noted
  split <;> rfl

theorem opening_conditions (t : Task ε) (agenda : Agenda) :
    (agenda.opening t.nesting t.noted).state.conditions = t.machine.state.conditions := by
  cases agenda <;> simp [Agenda.opening, modifyState, log]

/-! ### One unfolding -/

/-- What a call needs that is made. -/
theorem called?_eq_some {t : Task ε} {lines : List Line}
    (called : t.called? settings = some lines) :
    ∃ invocation method, Statement.classify t.line.text = .ok (.call invocation) ∧
      t.machine.state.methods.get? invocation.name = some method ∧
      t.machine.state.gateOpen = true ∧ invocation.arguments.length = method.arity ∧
      t.nesting.calls < settings.maxCallDepth.toNat ∧
      lines = method.linesAt invocation.arguments t.line := by
  unfold called? at called
  split at called
  next invocation read =>
    split at called
    next method found =>
      split at called
      next made =>
        cases called
        exact ⟨invocation, method, read, found, made.1, made.2.1, made.2.2, rfl⟩
      · cases called
    · cases called
  · cases called

/-- A call that is made needs a level, and there is one. -/
theorem call_of_called {t : Task ε} {invocation : Call} {m : Machine ε} {lines : List Line}
    (read : Statement.classify t.line.text = .ok (.call invocation))
    (same : m.state = t.machine.state) (called : t.called? settings = some lines) :
    t.machine.state.gateOpen = true ∧
    call (inner settings.maxCallDepth.text (settings.maxCallDepth.toNat - t.nesting.calls))
        settings.maxCallDepth.text t.nesting t.line invocation m =
      enter (step settings.maxCallDepth.text (settings.maxCallDepth.toNat - (t.nesting.calls + 1)))
        t.nesting lines m := by
  obtain ⟨_, method, read', found, gate, arity, room, rfl⟩ := called?_eq_some called
  cases read.symm.trans read'
  obtain ⟨left, level⟩ : ∃ left, settings.maxCallDepth.toNat - t.nesting.calls = left + 1 :=
    ⟨settings.maxCallDepth.toNat - (t.nesting.calls + 1), by omega⟩
  have next : settings.maxCallDepth.toNat - (t.nesting.calls + 1) = left := by omega
  refine ⟨gate, ?_⟩
  simp only [call, same, found, arity, level, next, Machine.inner]
  simp

/-- A call that is not made ends as it does when no call can be made. -/
theorem call_of_uncalled {t : Task ε} {invocation : Call} {m : Machine ε}
    (read : Statement.classify t.line.text = .ok (.call invocation))
    (same : m.state = t.machine.state) (gate : t.machine.state.gateOpen = true)
    (uncalled : t.called? settings = none) :
    call (inner settings.maxCallDepth.text (settings.maxCallDepth.toNat - t.nesting.calls))
        settings.maxCallDepth.text t.nesting t.line invocation m =
      call none settings.maxCallDepth.text t.nesting t.line invocation m := by
  simp only [called?, read] at uncalled
  unfold call
  rw [same]
  split
  · rfl
  next method found =>
    simp only [found, gate, true_and] at uncalled
    split
    · rfl
    next arity =>
      -- With a level left and the right number of arguments the call would be made.
      have full : settings.maxCallDepth.toNat - t.nesting.calls = 0 := by
        by_contra room
        simp only [ne_eq, not_not] at arity
        rw [if_pos ⟨arity, by omega⟩] at uncalled
        cases uncalled
      rw [full]
      rfl

theorem execute_eq (settings : Settings) {t : Task ε} {statement : Statement} {m : Machine ε}
    (read : Statement.classify t.line.text = .ok statement) (same : m.state = t.machine.state) :
    execute (inner settings.maxCallDepth.text (settings.maxCallDepth.toNat - t.nesting.calls))
        settings.maxCallDepth.text t.nesting t.line statement m =
      match t.called? settings with
      | some lines =>
        enter (step settings.maxCallDepth.text
          (settings.maxCallDepth.toNat - (t.nesting.calls + 1))) t.nesting lines m
      | none => execute none settings.maxCallDepth.text t.nesting t.line statement m := by
  cases statement with
  | call invocation =>
    split
    next lines called =>
      obtain ⟨gate, made⟩ := call_of_called read same called
      simp only [execute, same, gate, Bool.not_true, Bool.false_eq_true, if_false, made]
    next uncalled =>
      simp only [execute]
      split
      · rfl
      next gate =>
        exact call_of_uncalled read same (by simpa [same] using gate) uncalled
  | block kind closing arguments =>
    simp only [called?, read]
    cases kind <;> cases closing <;> rfl
  | _ =>
    simp only [called?, read]
    rfl

/-- The closing line of a live loop is the only one that closes the block for good. -/
theorem collect_eq {α : Type} {kind : BlockKind} {nestedCause : Cause} {block : Block α}
    {rewrap : Block α → Mode} {close₁ : Machine ε → Outcome ε} {nesting : Nesting}
    {line : Line} {statement : Statement} {m : Machine ε} (close₂ : Machine ε → Outcome ε)
    (unended : ∀ arguments, statement = .block kind true arguments →
      block.discarded = true ∨ block.nested ≠ 0) :
    collect kind nestedCause block rewrap close₁ nesting line statement m =
      collect kind nestedCause block rewrap close₂ nesting line statement m := by
  cases statement with
  | block found closing arguments =>
    simp only [collect]
    split
    · rfl
    next same =>
      split
      · rfl
      next closes =>
        simp only [ne_eq, not_not, Bool.not_eq_true', Bool.not_eq_false] at same closes
        subst same closes
        rcases unended arguments rfl with discarded | nested
        · simp [discarded]
        · simp [Nat.pos_of_ne_zero nested]
  | _ => rfl

/-- The lines of a call are taken one level deeper. -/
theorem enter_eq_conclude (t : Task ε) (lines : List Line) (m : Machine ε) :
    enter (step settings.maxCallDepth.text (settings.maxCallDepth.toNat - (t.nesting.calls + 1)))
        t.nesting lines m =
      (Agenda.call lines).conclude m.state.depth
        (runAll (fun line m => (t.part (.call lines) line m).outcome settings) lines m) := by
  simp only [enter, Agenda.conclude, outcome, part, runBy, Agenda.way, Agenda.nesting,
    step_eq_stepWith]

/-- The rounds of a loop are one run of its lines. -/
theorem closeLoop_eq_conclude (t : Task ε) (block : Block Nat) (m : Machine ε) :
    closeLoop (inner settings.maxCallDepth.text (settings.maxCallDepth.toNat - t.nesting.calls))
        settings.maxCallDepth.text t.nesting block m =
      (Agenda.replay block).conclude m.state.depth
        (runAll (fun line m => (t.part (.replay block) line m).outcome settings)
          (Agenda.replay block).lines ((Agenda.replay block).opening t.nesting m)) := by
  simp only [Agenda.lines, ← repeated_runAll]
  rfl

theorem start_eq (settings : Settings) {t : Task ε} {statement : Statement} {m : Machine ε}
    (read : Statement.classify t.line.text = .ok statement) (same : m.state = t.machine.state) :
    start (inner settings.maxCallDepth.text (settings.maxCallDepth.toNat - t.nesting.calls))
        settings.maxCallDepth.text t.nesting t.line statement m =
      match t.called? settings with
      | some lines =>
        enter (step settings.maxCallDepth.text
          (settings.maxCallDepth.toNat - (t.nesting.calls + 1))) t.nesting lines m
      | none => start none settings.maxCallDepth.text t.nesting t.line statement m := by
  have executed := execute_eq settings read same
  unfold start
  split
  · simp only [called?, read]
  · simp only [called?, read]
  · simp only [called?, read]
  · exact executed

/-- Where the further lines of a task come from: a call on a line that is executed, or the closing
line of a loop. -/
theorem agenda?_cases {t : Task ε} {agenda : Agenda} (planned : t.agenda? settings = some agenda) :
    (∃ lines, agenda = .call lines ∧ t.called? settings = some lines ∧ t.Executed) ∨
    ∃ block, agenda = .replay block ∧ t.way = .taken ∧ t.machine.state.mode = .loop block ∧
      t.closes block = true := by
  unfold agenda? at planned
  split at planned
  next block taken mode =>
    split at planned
    next closes =>
      cases planned
      exact Or.inr ⟨block, rfl, taken, mode, closes⟩
    · cases planned
  · cases planned
  next notLoop notMethod =>
    obtain ⟨lines, called, rfl⟩ := Option.map_eq_some_iff.mp planned
    refine Or.inl ⟨lines, rfl, called, ?_⟩
    cases way : t.way with
    | replayed => exact Or.inl way
    | taken =>
      cases mode : t.machine.state.mode with
      | idle => exact Or.inr mode
      | loop block => exact absurd mode (notLoop block way)
      | method block => exact absurd mode (notMethod block way)

theorem outcome_of_call {t : Task ε} {lines : List Line} (called : t.called? settings = some lines)
    (executed : t.Executed) :
    t.outcome settings =
      enter (step settings.maxCallDepth.text (settings.maxCallDepth.toNat - (t.nesting.calls + 1)))
        t.nesting lines t.noted := by
  cases read : Statement.classify t.line.text with
  | error f => simp [called?, read] at called
  | ok statement =>
    have execution := execute_eq settings read t.noted_state
    have starting := start_eq settings read t.noted_state
    simp only [called] at execution starting
    cases way : t.way with
    | replayed =>
      simp only [outcome, runBy, way, classified, read]
      simpa only [noted, way] using execution
    | taken =>
      have idle := executed.resolve_left (by simp [way])
      simp only [outcome, runBy, way, stepWith, classified, read, idle]
      simpa only [noted, way, idle] using starting

theorem read_of_closes {t : Task ε} {block : Block Nat} (closing : t.closes block = true) :
    (∃ arguments, Statement.classify t.line.text = .ok (.block .loop true arguments)) ∧
      block.discarded = false ∧ block.nested = 0 := by
  unfold closes at closing
  split at closing
  next arguments read => exact ⟨⟨arguments, read⟩, by simpa using closing⟩
  · cases closing

theorem outcome_of_replay {t : Task ε} {block : Block Nat} (taken : t.way = .taken)
    (looping : t.machine.state.mode = .loop block) (closing : t.closes block = true) :
    t.outcome settings =
      closeLoop (inner settings.maxCallDepth.text (settings.maxCallDepth.toNat - t.nesting.calls))
        settings.maxCallDepth.text t.nesting block t.noted := by
  obtain ⟨⟨arguments, read⟩, live, outermost⟩ := read_of_closes closing
  simp [outcome, runBy, noted, taken, stepWith, classified, read, looping, collect, live, outermost]

/-- A task with further lines runs them as tasks of their own. -/
theorem outcome_of_agenda {t : Task ε} {agenda : Agenda}
    (planned : t.agenda? settings = some agenda) :
    t.outcome settings = agenda.conclude t.machine.state.depth (t.ran settings agenda) := by
  rw [← t.noted_state]
  rcases agenda?_cases planned with ⟨lines, rfl, called, executed⟩ | ⟨block, rfl, way, mode, closes⟩
  · rw [outcome_of_call called executed]
    exact enter_eq_conclude t lines t.noted
  · rw [outcome_of_replay way mode closes]
    exact closeLoop_eq_conclude t block t.noted

/-- A closing line that runs no others closes a loop that is discarded, or one inside it. -/
theorem unended_of_alone {t : Task ε} {block : Block Nat} {statement : Statement}
    (alone : t.agenda? settings = none) (taken : t.way = .taken)
    (looping : t.machine.state.mode = .loop block)
    (read : Statement.classify t.line.text = .ok statement) (arguments : List Text)
    (closing : statement = .block .loop true arguments) :
    block.discarded = true ∨ block.nested ≠ 0 := by
  subst closing
  simpa [agenda?, taken, looping, closes, read, or_iff_not_imp_left] using alone

/-- A task without further lines does not depend on how calls are made. -/
theorem outcome_of_none {t : Task ε} (alone : t.agenda? settings = none) :
    t.outcome settings = t.runBy settings none := by
  cases read : Statement.classify t.line.text with
  | error f => simp only [outcome, runBy, stepWith, classified, read]
  | ok statement =>
    have execution := execute_eq settings read t.noted_state
    have starting := start_eq settings read t.noted_state
    cases way : t.way with
    | replayed =>
      simp only [agenda?, way, Option.map_eq_none_iff] at alone
      simp only [alone, noted, way] at execution
      simp only [outcome, runBy, way, classified, read, execution]
    | taken =>
      simp only [outcome, runBy, way, stepWith, classified, read]
      cases mode : t.machine.state.mode with
      | method block => rfl
      | loop block =>
        -- Only the closing line of a live loop would have made calls.
        exact collect_eq _ (unended_of_alone alone way mode read)
      | idle =>
        simp only [agenda?, way, mode, Option.map_eq_none_iff] at alone
        simpa only [alone, noted, way, mode] using starting

/-- The recursion of the machine: a task does what one unfolding of it says. -/
theorem outcome_eq_unfold (t : Task ε) :
    t.outcome settings = t.unfold settings (outcome settings) := by
  unfold unfold
  split
  next alone => exact outcome_of_none alone
  next agenda planned => exact outcome_of_agenda planned

/-! ### The tasks that a task starts -/

theorem mem_started_iff {t part : Task ε} :
    part ∈ t.started settings ↔ ∃ agenda, t.agenda? settings = some agenda ∧
      ∃ line m, (line, m) ∈ reached (fun line m => (t.part agenda line m).outcome settings)
        agenda.lines (agenda.opening t.nesting t.noted) ∧ t.part agenda line m = part := by
  unfold started
  split
  next alone => simp [alone]
  next agenda planned => simp [planned]

/-- The tasks that a task starts differ only in their lines and in what the lines before have
left. -/
theorem part_of_started {t part : Task ε} {agenda : Agenda}
    (planned : t.agenda? settings = some agenda) (started : part ∈ t.started settings) :
    part.line ∈ agenda.lines ∧ part = t.part agenda part.line part.machine := by
  obtain ⟨other, planned', line, m, reached, rfl⟩ := mem_started_iff.mp started
  cases planned.symm.trans planned'
  exact ⟨mem_of_mem_reached reached, rfl⟩

/-- What every further line keeps holds before each of them and after the last. -/
theorem ran_invariant {Q : Outcome ε → Prop} {t : Task ε} {agenda : Agenda}
    (planned : t.agenda? settings = some agenda)
    (initial : Q (agenda.opening t.nesting t.noted).done)
    (steps : ∀ part ∈ t.started settings, Q part.machine.done → Q (part.outcome settings)) :
    (∀ part ∈ t.started settings, Q part.machine.done) ∧ Q (t.ran settings agenda) := by
  obtain ⟨before, after⟩ := runAll_reached initial fun line m reached holds =>
    steps _ (mem_started_iff.mpr ⟨agenda, planned, line, m, reached, rfl⟩) holds
  refine ⟨fun part member => ?_, after⟩
  obtain ⟨other, planned', line, m, reached, rfl⟩ := mem_started_iff.mp member
  cases planned.symm.trans planned'
  exact before line m reached

/-- The number of levels that a task is away from one that starts no other.  A call uses up a
level, and a replay is the second half of one, since a replayed line does not close a loop. -/
def rank (settings : Settings) (t : Task ε) : Nat :=
  2 * (settings.maxCallDepth.toNat - t.nesting.calls) + match t.way with
    | .taken => 1
    | .replayed => 0

theorem rank_part_lt {t : Task ε} {agenda : Agenda} (planned : t.agenda? settings = some agenda)
    (line : Line) (m : Machine ε) : (t.part agenda line m).rank settings < t.rank settings := by
  rcases agenda?_cases planned with ⟨lines, rfl, called, _⟩ | ⟨block, rfl, taken, _, _⟩
  · -- One level less outweighs that the lines of a call are taken again.
    obtain ⟨_, _, _, _, _, _, room, _⟩ := called?_eq_some called
    simp only [rank, part, Agenda.way, Agenda.nesting]
    omega
  · simp [rank, part, Agenda.way, Agenda.nesting, taken]

/-- No task is among the tasks that it starts, however indirectly. -/
theorem wellFounded_started (settings : Settings) :
    WellFounded fun part t : Task ε => part ∈ t.started settings := by
  refine Subrelation.wf (fun {part t} started => ?_) (measure (rank settings)).wf
  obtain ⟨agenda, planned, line, m, _, rfl⟩ := mem_started_iff.mp started
  exact rank_part_lt planned line m

/-- What is run in the course of a task, the task itself included. -/
def Within (settings : Settings) : Task ε → Task ε → Prop :=
  Relation.ReflTransGen fun t part => part ∈ t.started settings

/-- A property that passes from a task to those that it starts holds in the whole course of it. -/
theorem Within.invariant {P : Task ε → Prop} {t part : Task ε}
    (kept : ∀ {t part : Task ε}, P t → part ∈ t.started settings → P part)
    (within : t.Within settings part) (initial : P t) : P part := by
  induction within with
  | refl => exact initial
  | tail _ started ih => exact kept ih started

theorem finite_within (t : Task ε) : {part | t.Within settings part}.Finite := by
  induction t using (wellFounded_started settings).induction with
  | _ t ih =>
    -- The course of a task is the task itself and the courses of those that it starts.
    have course : {part | t.Within settings part} ⊆
        {t} ∪ ⋃ next ∈ {next | next ∈ t.started settings}, {part | next.Within settings part} := by
      intro part within
      rcases Relation.ReflTransGen.cases_head within with rfl | ⟨next, started, rest⟩
      · exact Or.inl rfl
      · exact Or.inr (Set.mem_biUnion started rest)
    refine Set.Finite.subset ((Set.finite_singleton t).union ?_) course
    exact (List.finite_toSet (t.started settings)).biUnion ih

/-- The recursion looks only at the tasks that are started. -/
theorem unfold_eq_outcome {t : Task ε} {run : Task ε → Outcome ε}
    (agree : ∀ part ∈ t.started settings, run part = part.outcome settings) :
    t.unfold settings run = t.outcome settings := by
  rw [outcome_eq_unfold]
  unfold unfold
  split
  · rfl
  next agenda planned =>
    congr 1
    refine runAll_congr fun line m reached => agree _ ?_
    exact mem_started_iff.mpr ⟨agenda, planned, line, m, reached, rfl⟩

/-- There is only one function that does what the recursion says. -/
theorem eq_outcome_of_unfold {run : Task ε → Outcome ε}
    (solves : ∀ t, run t = t.unfold settings run) (t : Task ε) : run t = t.outcome settings := by
  induction t using (wellFounded_started settings).induction with
  | _ t ih => rw [solves, unfold_eq_outcome ih]

/-! ### Invariants under which the further lines fit -/

section Guarding

variable {fits : Line → Prop} {P : Machine ε → Prop} {t part : Task ε}

theorem guarded_outcome (guarded : Guarded fits P) (fit : fits t.line) (holds : P t.machine) :
    P (t.outcome settings).machine := by
  have runs : CallsMove fits P (inner settings.maxCallDepth.text
      (settings.maxCallDepth.toNat - t.nesting.calls)) := callsMove_inner guarded _ _
  refine Moves.invariant guarded.kept ?_ holds
  unfold outcome runBy
  split
  · exact stepWith_moves guarded runs fit t.nesting holds
  · exact replayLine_moves guarded runs fit t.nesting holds

theorem guarded_opening (guarded : Guarded fits P) (holds : P t.machine) (agenda : Agenda) :
    P (agenda.opening t.nesting t.noted) := by
  have noted : P t.noted := by
    unfold Task.noted
    split
    · exact guarded.kept holds (.log ..)
    · exact holds
  cases agenda with
  | call lines => exact noted
  | replay block => exact guarded.kept (guarded.kept noted (.turn (.close _))) (.log ..)

/-- The further lines of a task fit. -/
theorem guarded_line (guarded : Guarded fits P) (fit : fits t.line) (holds : P t.machine)
    (started : part ∈ t.started settings) : fits part.line := by
  obtain ⟨agenda, planned, _⟩ := mem_started_iff.mp started
  have member := (part_of_started planned started).1
  rcases agenda?_cases planned with ⟨lines, rfl, called, _⟩ | ⟨block, rfl, _, looping, _⟩
  · obtain ⟨invocation, method, read, found, _, _, _, rfl⟩ := called?_eq_some called
    exact guarded.expands holds fit read found _ member
  · obtain ⟨body, repeats, inBody⟩ := List.mem_flatten.mp member
    rw [List.eq_of_mem_replicate repeats] at inBody
    exact guarded.collected holds looping _ inBody

end Guarding

end Task

end Plotter
