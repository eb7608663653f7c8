import Plotter.Proofs.Machine.Termination
import Plotter.Proofs.Machine.Validity
import Plotter.Proofs.Script.Passing

/-!
# Blocks are where the keywords are

Which block is open after a line can be read off the keywords of the lines so far, although the
lines in between may have called methods and replayed loops, and may have ended in a fault at any
point.  The reason is that no block outlives the line that ran the lines in which it was opened.  A
replayed line opens no block at all.  The lines of a call open no method, unless the call puts the
word for it into one of them, and a loop that they leave open is dropped.
-/

namespace Plotter

/-- The lines that have been collected so far. -/
def Mode.body : Mode → List Line
  | idle => []
  | loop block => block.body
  | method block => block.body

/-- No call in the lines that the machine holds passes the keyword to a parameter. -/
structure State.Withholds (keyword : Keyword) (s : State) : Prop where
  methods : ∀ entry ∈ s.methods.entries, ∀ line ∈ entry.2.body, line.Withholds keyword
  block : ∀ line ∈ s.mode.body, line.Withholds keyword

/-- A tidy line that does not pass on the word by which a method is opened. -/
abbrev Line.Steady (line : Line) : Prop := line.Tidy ∧ line.Withholds (.opening .method)

/-- A machine in which no call passes on the word by which a method is opened. -/
abbrev Machine.Steady {ε : Type} (m : Machine ε) : Prop :=
  m.state.Valid ∧ m.state.Withholds (.opening .method)

section Turns

variable {keyword : Keyword}

theorem Mode.Turn.withholds {mode mode' : Mode}
    (turn : Mode.Turn (Line.Withholds keyword) mode mode')
    (withholds : ∀ line ∈ mode.body, line.Withholds keyword) :
    ∀ line ∈ mode'.body, line.Withholds keyword := by
  cases turn with
  | openLoop | openMethod | close => simp [body]
  | loop turn => exact fun line member => (turn.mem_body member).elim (withholds line) id
  | method turn => exact fun line member => (turn.mem_body member).elim (withholds line) id

end Turns

namespace Machine

variable {ε : Type} {m m' : Machine ε} {keyword : Keyword}

theorem Move.withholds (withholds : m.state.Withholds keyword)
    (move : Move (Line.Withholds keyword) m m') : m'.state.Withholds keyword := by
  cases move with
  | log | applyPen | draw | clear => exact withholds
  | pen | push | pop | truncate | assign => exact { withholds with }
  | color color =>
    rw [takeColor_state]
    exact { withholds with }
  | turn turned => exact { withholds with block := turned.withholds withholds.block }
  | define collected named =>
    refine ⟨fun entry member => ?_, by simp [modifyState, State.define, Mode.body]⟩
    rcases Dictionary.mem_entries_set member with rfl | earlier
    · -- What is stored is the block that was open.
      have block := withholds.block
      rw [collected] at block
      exact block
    · exact withholds.methods entry earlier

/-- What a machine holds and what a line calls withhold a keyword from each other. -/
theorem guarded_withholds (keyword : Keyword) :
    Guarded (fun line => line.Tidy ∧ line.Withholds keyword)
      fun m : Machine ε => m.state.Valid ∧ m.state.Withholds keyword where
  kept holds move :=
    ⟨(move.mono fun _ fit => fit.1).valid holds.1, (move.mono fun _ fit => fit.2).withholds holds.2⟩
  expands holds fit read found := by
    have tidy := guarded_valid.expands holds.1 fit.1 read found
    have method := (valid_of_get? holds.1 found).2
    have stored := holds.2.methods _ (Dictionary.mem_of_get? found)
    have passable := Call.passable_of_parse? (Statement.parse_of_classify read)
    have withheld := (Line.withholds_iff_of_call read).mp fit.2
    refine fun inner member => ⟨tidy inner member, ?_⟩
    exact Method.withholds_of_mem_linesAt method.header.parameters
      (fun line inBody => ⟨(method.body line inBody).1, stored line inBody⟩) passable
      withheld _ inner member
  collected holds looping := by
    have tidy := guarded_valid.collected holds.1 looping
    have block := holds.2.block
    rw [looping] at block
    exact fun line member => ⟨tidy line member, block line member⟩

end Machine

namespace Task

open Machine

variable {ε : Type} {settings : Settings} {t part : Task ε} {agenda : Agenda}

/-- No method is open, and the line opens none. -/
structure OpensNoMethod (t : Task ε) : Prop where
  line : t.line.Steady
  machine : t.machine.Steady
  taken : t.way = .taken → (∀ block, t.machine.state.mode ≠ .method block) ∧
    t.line.keyword? ≠ some (.opening .method)
  replayed : t.way = .replayed → t.machine.state.mode = .idle

/-- No method has been opened, and a failure has come outside of every block. -/
structure LeavesNoMethod (o : Outcome ε) : Prop where
  machine : o.machine.Steady
  mode : ∀ block, o.machine.state.mode ≠ .method block
  failure : ∀ f, o.stop = some (.failure f) → o.machine.state.mode = .idle

/-- A line that the machine takes outside of every method opens none, unless it is a header. -/
theorem mode_of_turned {o : Outcome ε} (turned : t.Turned o) (tidy : t.line.Tidy)
    (mode : ∀ block, t.machine.state.mode ≠ .method block)
    (keyword : t.line.keyword? ≠ some (.opening .method)) :
    (∀ block, o.machine.state.mode ≠ .method block) ∧
      ∀ f, o.stop = some (.failure f) → o.machine.state.mode = .idle := by
  cases turned with
  | read unfailed enclosure =>
    refine ⟨fun block defining => ?_, fun f failed => absurd failed (unfailed f)⟩
    rw [defining] at enclosure
    rcases Enclosure.read_eq_method enclosure.symm with opens | inside
    · exact keyword opens
    · obtain ⟨outer, before⟩ := Mode.exists_method_iff.mpr inside
      exact mode outer before
  | refused _ unfailed same =>
    exact ⟨by simpa only [same] using mode, fun f failed => absurd failed (unfailed f)⟩
  | failed _ same unread =>
    refine ⟨by simpa only [same] using mode, fun _ _ => ?_⟩
    rw [same]
    cases before : t.machine.state.mode with
    | idle => rfl
    | method block => exact absurd before (mode block)
    | loop block =>
      -- A line of a loop fails only if it cannot be classified, and a tidy line can.
      obtain ⟨f, refused⟩ := unread block before
      obtain ⟨statement, read⟩ := Statement.classify_of_trimmed tidy.trimmed
      rw [read] at refused
      cases refused

namespace OpensNoMethod

/-- The lines of a call open no method if the call does not pass on the word for it. -/
theorem of_call {lines : List Line} (opensNo : t.OpensNoMethod)
    (planned : t.agenda? settings = some (.call lines)) (started : part ∈ t.started settings)
    (before : LeavesNoMethod part.machine.done) : part.OpensNoMethod := by
  obtain ⟨member, isPart⟩ := part_of_started planned started
  refine ⟨guarded_line (guarded_withholds _) opensNo.line opensNo.machine started,
    before.machine, fun _ => ⟨before.mode, ?_⟩, by rw [isPart]; nofun⟩
  rcases agenda?_cases planned with ⟨_, ⟨⟩, called, _⟩ | ⟨_, ⟨⟩, _⟩
  obtain ⟨invocation, method, read, found, _, _, _, rfl⟩ := called?_eq_some called
  have withheld := (Line.withholds_iff_of_call read).mp opensNo.line.2
  refine Method.keyword?_of_mem_linesAt (fun line inBody => ?_)
    (Call.isVisible_of_parse? (Statement.parse_of_classify read)) withheld _ part.line member
  obtain ⟨tidy, other⟩ := (valid_of_get? opensNo.machine.1 found).2.body line inBody
  refine ⟨tidy, fun opens => ?_⟩
  simp [Line.isOf, opens] at other

/-- The lines of a replay open nothing. -/
theorem of_replay {block : Block Nat} (opensNo : t.OpensNoMethod)
    (planned : t.agenda? settings = some (.replay block)) (started : part ∈ t.started settings)
    (machine : part.machine.Steady) (idle : part.machine.state.mode = .idle) :
    part.OpensNoMethod := by
  have isPart := (part_of_started planned started).2
  exact ⟨guarded_line (guarded_withholds _) opensNo.line opensNo.machine started, machine,
    by rw [isPart]; nofun, fun _ => idle⟩

/-- A loop that the lines of a call leave open is dropped, and nothing else is open. -/
theorem idle_of_call {lines : List Line} (opensNo : t.OpensNoMethod)
    (planned : t.agenda? settings = some (.call lines))
    (parts : ∀ part ∈ t.started settings, part.OpensNoMethod →
      LeavesNoMethod (part.outcome settings)) :
    (t.outcome settings).machine.state.mode = .idle := by
  have before : t.machine.state.mode = .idle := by
    rcases agenda?_cases planned with ⟨_, _, _, executed⟩ | ⟨_, ⟨⟩, _⟩
    exact executed.elim opensNo.replayed id
  have opening : LeavesNoMethod (Agenda.opening t.nesting t.noted (.call lines)).done :=
    ⟨guarded_opening (guarded_withholds _) opensNo.machine _,
      by simp [Agenda.opening, done, before], nofun⟩
  obtain ⟨_, ran⟩ := ran_invariant planned opening fun part started before =>
    parts part started (opensNo.of_call planned started before)
  rw [outcome_of_agenda planned, Agenda.mode_conclude_call]
  split
  next f failed => exact ran.failure f failed
  · cases mode : (t.ran settings (.call lines)).machine.state.mode with
    | idle => rfl
    | loop block => rfl
    | method block => exact absurd mode (ran.mode block)

/-- Nothing is open while a loop is replayed, and nothing is opened. -/
theorem idle_of_replay {block : Block Nat} (opensNo : t.OpensNoMethod)
    (planned : t.agenda? settings = some (.replay block))
    (parts : ∀ part ∈ t.started settings, part.OpensNoMethod → part.way = .replayed →
      (part.outcome settings).machine.Steady ∧
        (part.outcome settings).machine.state.mode = .idle) :
    (t.outcome settings).machine.state.mode = .idle := by
  have opening := guarded_opening (guarded_withholds _) opensNo.machine (.replay block)
  obtain ⟨_, ran⟩ := ran_invariant (Q := fun o => o.machine.Steady ∧ o.machine.state.mode = .idle)
    planned ⟨opening, rfl⟩ fun part started ⟨machine, idle⟩ => by
      refine parts part started (opensNo.of_replay planned started machine idle) ?_
      rw [(part_of_started planned started).2]
      rfl
  rw [outcome_of_agenda planned, Agenda.mode_conclude_replay]
  exact ran.2

/-- A task that opens no method leaves none open.  If it runs further lines, or is itself a
replayed line, it leaves no block open at all. -/
theorem outcome (opensNo : t.OpensNoMethod) :
    LeavesNoMethod (t.outcome settings) ∧
      (t.way = .replayed ∨ t.agenda? settings ≠ none →
        (t.outcome settings).machine.state.mode = .idle) := by
  induction t using (wellFounded_started settings).induction with
  | _ t ih =>
    have machine : (t.outcome settings).machine.Steady :=
      guarded_outcome (guarded_withholds _) opensNo.line opensNo.machine
    have closed (idle : (t.outcome settings).machine.state.mode = .idle) :
        LeavesNoMethod (t.outcome settings) := ⟨machine, by simp [idle], fun _ _ => idle⟩
    cases planned : t.agenda? settings with
    | none =>
      cases way : t.way with
      | replayed =>
        have idle := (mode_of_alone way planned).trans (opensNo.replayed way)
        exact ⟨closed idle, fun _ => idle⟩
      | taken =>
        obtain ⟨outside, keyword⟩ := opensNo.taken way
        obtain ⟨mode, failure⟩ :=
          mode_of_turned (turned_of_alone way planned) opensNo.line.1 outside keyword
        exact ⟨⟨machine, mode, failure⟩, by simp⟩
    | some agenda =>
      have idle : (t.outcome settings).machine.state.mode = .idle := by
        cases agenda with
        | call lines =>
          exact opensNo.idle_of_call planned fun part started inner => (ih part started inner).1
        | replay block =>
          refine opensNo.idle_of_replay planned fun part started inner replayed => ?_
          obtain ⟨left, idle⟩ := ih part started inner
          exact ⟨left.machine, idle (Or.inl replayed)⟩
      exact ⟨closed idle, fun _ => idle⟩

end OpensNoMethod

/-- A line that runs further lines leaves no block open. -/
theorem idle_of_agenda (taken : t.way = .taken) (line : t.line.Steady)
    (machine : t.machine.Steady) (planned : t.agenda? settings = some agenda) :
    (t.outcome settings).machine.state.mode = .idle := by
  have opensNo : t.OpensNoMethod := by
    refine ⟨line, machine, fun _ => ?_, by rw [taken]; nofun⟩
    rcases agenda?_cases planned with ⟨_, rfl, called, executed⟩ | ⟨_, rfl, _, looping, closing⟩
    · obtain ⟨_, _, read, _⟩ := called?_eq_some called
      have idle := executed.resolve_left (by simp [taken])
      have other : t.line.isOf .method = false := (Statement.isOf_classify read .method).symm
      exact ⟨by simp [idle], fun opens => by simp [Line.isOf, opens] at other⟩
    · obtain ⟨⟨_, read⟩, _⟩ := read_of_closes closing
      exact ⟨by simp [looping], by simp [Statement.keyword?_of_block read, Statement.keyword?]⟩
  exact opensNo.outcome.2 (Or.inr (by simp [planned]))

/-- What a line does to the block that is open, outside of every replay and without a failure. -/
theorem enclosure_outcome (taken : t.way = .taken) (outermost : t.nesting.replays = 0)
    (line : t.line.Steady) (machine : t.machine.Steady)
    (unfailed : ∀ f, (t.outcome settings).stop ≠ some (.failure f)) :
    (t.outcome settings).machine.state.mode.enclosure =
      t.machine.state.mode.enclosure.read t.line.keyword? := by
  cases planned : t.agenda? settings with
  | none =>
    cases turned_of_alone taken planned with
    | read _ enclosure => exact enclosure
    | refused replaying => omega
    | failed failed => exact absurd failed (unfailed _)
  | some agenda =>
    rw [idle_of_agenda taken line machine planned]
    rcases agenda?_cases planned with ⟨_, rfl, called, executed⟩ | ⟨_, rfl, _, looping, closing⟩
    · obtain ⟨_, _, read, _⟩ := called?_eq_some called
      rw [executed.resolve_left (by simp [taken])]
      exact (Enclosure.read_of_unopened read rfl).symm
    · obtain ⟨⟨_, read⟩, _, innermost⟩ := read_of_closes closing
      simp [looping, Mode.enclosure, innermost, Statement.keyword?_of_block read,
        Statement.keyword?, Enclosure.read]

end Task

namespace Machine

variable {ε : Type} {settings : Settings} {line : Line} {m last : Machine ε}

@[simp] theorem settled_mode (o : Outcome ε) :
    (settled o).1.state.mode = o.machine.state.mode := by
  unfold settled
  split <;> rfl

theorem steady_feedLine (machine : m.Steady) (fit : line.Steady) :
    (feedLine settings line m).1.Steady := by
  have taken : (take settings line m).machine.Steady :=
    (guarded_withholds _).step _ _ fit {} machine
  refine ⟨valid_feedLine machine.1 settings fit.1, ?_⟩
  unfold feedLine settled
  split
  · exact taken.2
  · exact { taken.2 with }
  · exact taken.2

/-- A call that passes on the word `method` nowhere leaves no block open, however it ends. -/
theorem idle_after_call {invocation : Call} (reachable : Reachable settings m)
    (idle : m.state.mode = .idle) (tidy : line.Tidy)
    (read : Statement.classify line.text = .ok (.call invocation))
    (passed : ∀ argument ∈ invocation.arguments,
      Keyword.ofWord? argument ≠ some (.opening .method))
    (stored : m.state.Withholds (.opening .method)) :
    (feedLine settings line m).1.state.mode = .idle := by
  have withholds := (Line.withholds_iff_of_call read).mpr passed
  rw [feedLine_eq_settled, settled_mode]
  cases planned : Task.agenda? settings { line := line, machine := m } with
  | some agenda => exact Task.idle_of_agenda rfl ⟨tidy, withholds⟩ ⟨reachable.valid, stored⟩ planned
  | none =>
    cases Task.turned_of_alone rfl planned with
    | read _ enclosure =>
      rw [idle] at enclosure
      exact Mode.enclosure_eq_outside_iff.mp (enclosure.trans (Enclosure.read_of_unopened read rfl))
    | refused _ _ same => exact same.trans idle
    | failed _ same => exact same.trans idle

/-- A call leaves a loop open inside of another call, which ends in a fault. -/
theorem idle_after_unclosed_call :
    let m := (feed {} "method p(b)\nloop b\nendmethod\nmethod w(a)\np(a)\nendmethod".toList none
      (create {} Recording.surface)).1
    let line : Line := { text := "w(2)".toList }
    m.state.mode.activity = .idle ∧ m.state.Withholds (.opening .method) ∧
      (feedLine {} line m).1.state.report.diagnostics.length = 1 ∧
      (feedLine {} line m).1.state.mode = .idle := by
  intro m line
  have reachable : Reachable {} m := .fed (.created Recording.surface) _ none
  have idle : m.state.mode.activity = .idle := by decide +kernel
  have stored : m.state.Withholds (.opening .method) := ⟨by decide +kernel, by decide +kernel⟩
  have read : Statement.classify line.text = .ok (.call ⟨"w".toList, ["2".toList]⟩) := rfl
  exact ⟨idle, stored, by decide +kernel,
    idle_after_call reachable (Mode.eq_idle idle) ⟨by decide, by decide⟩ read (by decide) stored⟩

/-- A call whose argument is the word `method` opens a method that outlives it. -/
theorem method_open_after_call :
    let m := (feed {} "method m(a)\na b\nendmethod".toList none (create {} Recording.surface)).1
    let line : Line := { text := "m(method)".toList }
    Reachable {} m ∧ m.state.mode.activity = .idle ∧ line.Tidy ∧
      line.passed = ["method".toList] ∧
      (feedLine {} line m).1.state.mode.activity = .definingMethod := by
  intro m line
  have reachable : Reachable {} m := .fed (.created Recording.surface) _ none
  exact ⟨reachable, by decide +kernel, ⟨by decide, by decide⟩, by decide +kernel,
    by decide +kernel⟩

/-- One line turns the open block as its keyword says. -/
theorem enclosure_feedLine (machine : m.Steady) (fit : line.Steady)
    (fed : feedLine settings line m = (last, none)) :
    last.state.mode.enclosure = m.state.mode.enclosure.read line.keyword? := by
  rw [feedLine_eq_settled] at fed
  have unfailed : ∀ f, (Task.outcome settings { line := line, machine := m }).stop ≠
      some (.failure f) := by
    intro f failed
    simp [settled, failed] at fed
  have mode := settled_mode (Task.outcome settings { line := line, machine := m })
  rw [fed] at mode
  rw [mode]
  exact Task.enclosure_outcome rfl rfl fit machine unfailed

theorem enclosure_feedLines {lines : List Line} (machine : m.Steady)
    (fit : ∀ line ∈ lines, line.Steady) (fed : feedLines settings lines m = (last, none)) :
    last.state.mode.enclosure =
      lines.foldl (fun place line => place.read line.keyword?) m.state.mode.enclosure := by
  induction lines generalizing m with
  | nil =>
    cases fed
    rfl
  | cons line rest ih =>
    obtain ⟨next, first, later⟩ := feedLines_cons fed
    have here := fit line (List.mem_cons_self ..)
    have holds : next.Steady := by
      rw [show next = (feedLine settings line m).1 by rw [first]]
      exact steady_feedLine machine here
    rw [List.foldl_cons, ← enclosure_feedLine machine here first]
    exact ih holds (fun line member => fit line (List.mem_cons_of_mem _ member)) later

/-- After each of some lines that are fed to a new machine, the open block and the number of blocks
inside it are those that the keywords of the lines so far say. -/
theorem mode_follows_keywords (settings : Settings) (surface : Surface ε) {lines : List Line}
    (tidy : ∀ line ∈ lines, line.Tidy)
    (plain : ∀ line ∈ lines, ∀ argument ∈ line.passed, isReserved argument = false)
    (unfailed : (feedLines settings lines (create settings surface)).2 = none) (count : Nat) :
    (feedLines settings (lines.take count) (create settings surface)).1.state.mode.enclosure =
      (lines.take count).foldl (fun place line => place.read line.keyword?) .outside := by
  have fit : ∀ line ∈ lines.take count, line.Steady := by
    intro line member
    have given := List.mem_of_mem_take member
    refine ⟨tidy line given, fun argument passed spelled => ?_⟩
    have free := plain line given argument passed
    simp [isReserved, spelled] at free
  have fresh : (create settings surface).state.Withholds (.opening .method) ∧
      (create settings surface).state.mode.enclosure = .outside := by
    rw [create, reset, takeColor_state]
    exact ⟨⟨by simp [Dictionary.empty], by simp [Mode.body]⟩, rfl⟩
  have fed : feedLines settings (lines.take count ++ lines.drop count) (create settings surface) =
      ((feedLines settings lines (create settings surface)).1, none) := by
    rw [List.take_append_drop]
    exact Prod.ext rfl unfailed
  obtain ⟨next, first, _⟩ := feedLines_append fed
  rw [first, ← fresh.2]
  exact enclosure_feedLines ⟨valid_reset settings _, fresh.1⟩ fit first

/-- A call whose loop ends in a fault, and a loop that cannot be counted with another inside. -/
def tangledLines : List Line :=
  Line.ofSource "method m(a)\nloop a\nbogus\nendloop\nendmethod\nm(2)\nloop y\nloop 2\nm(1)".toList
    none

theorem mode_follows_keywords_tangled :
    (feedLines {} tangledLines (create {} Recording.surface)).2.isNone = true ∧
      (feedLines {} (tangledLines.take 6) (create {} Recording.surface)).1.state.mode.enclosure =
        .outside ∧
      (feedLines {} (tangledLines.take 9) (create {} Recording.surface)).1.state.mode.enclosure =
        .inside .loop 1 := by
  have unfailed : (feedLines {} tangledLines (create {} Recording.surface)).2.isNone = true := by
    decide +kernel
  have tidy : ∀ line ∈ tangledLines, line.Tidy := fun _ => Line.tidy_of_mem_ofSource
  have follows := mode_follows_keywords {} Recording.surface tidy (by decide +kernel)
    (Option.isNone_iff_eq_none.mp unfailed)
  exact ⟨unfailed, (follows 6).trans (by decide +kernel), (follows 9).trans (by decide +kernel)⟩

end Machine

end Plotter
