import Plotter.Proofs.Machine.Feeding
import Plotter.Surface.Recording

/-!
# Calls are the lines of their methods

A call does what the lines of its method do when they are fed in its place, up to the first
diagnostic.  The lines of the call run one level deeper and with less room for further calls, and
that makes no difference as long as the room suffices.  What differs is the end: a loop that the
lines leave open is a fault of the call, and after a fault the call closes what its lines opened.
-/

namespace Plotter.Machine

variable {ε : Type} {settings : Settings} {m called : Machine ε} {line : Line}

/-- A call that finds its method needs room for one more level. -/
theorem take_call {invocation : Call} {method : Method} {lines : List Line} (settings : Settings)
    (idle : m.state.mode = .idle) (gate : m.state.gateOpen = true)
    (read : Statement.classify line.text = .ok (.call invocation))
    (found : m.state.methods.get? invocation.name = some method)
    (expanded : method.expand invocation.arguments (some line) = .ok lines) :
    (∃ f, (take settings line m).stop = some (.fault f) ∧ f.cause.code = "E307".toList) ∨
    ∃ room, settings.maxCallDepth.toNat = room + 1 ∧
      take settings line m = enter (step settings.maxCallDepth.text room) {} lines
        (m.log {} (.line .idle line.text)) := by
  have arity : invocation.arguments.length = method.arity ∧
      lines = method.linesAt invocation.arguments line := by
    unfold Method.expand at expanded
    split at expanded
    next same =>
      cases expanded
      exact ⟨same, rfl⟩
    · cases expanded
  have opened : (m.log {} (.line .idle line.text)).state.gateOpen = true := gate
  have known : (m.log {} (.line .idle line.text)).state.methods.get? invocation.name =
      some method := found
  simp only [take_eq, stepWith, classified, read, idle, start, execute, opened, call, known, arity,
    Mode.activity, Bool.not_true, Bool.false_eq_true, if_false, ne_eq, not_true_eq_false]
  cases settings.maxCallDepth.toNat with
  | zero => exact Or.inl ⟨⟨.callDepth invocation.name _, line⟩, rfl, rfl⟩
  | succ room => exact Or.inr ⟨room, rfl, rfl⟩

/-- The lines of a call, run one level deeper and with less room, end like the lines that are
fed, unless they run out of room. -/
theorem runAll_deeper {room : Nat} (room_eq : settings.maxCallDepth.toNat = room + 1)
    {m₁ m₂ : Machine ε} (alike : m₁.Alike m₂) (lines : List Line) :
    Outcome.Follows (fun cause => cause.code = "E307".toList)
      (runAll (step settings.maxCallDepth.text room ⟨1, 0⟩) lines m₁)
      (runAll (take settings) lines m₂) := by
  -- No replay is under way on either side, so nothing has to be known of the lines.
  refine runAll_follows (P := fun _ => True) (fun _ _ _ _ => trivial) ?_ trivial alike
  intro line _ m₁ m₂ _ alike
  rw [take, room_eq]
  exact step_follows guarded_any (Or.inr ⟨Nat.le_succ room, fun _ => rfl⟩) trivial
    (Or.inl (by simp)) trivial alike

/-- A fault of a line is a fault of the call that runs it. -/
theorem enter_stop {runner : Runner ε} {nesting : Nesting} {lines : List Line} {f : Fault}
    (faulted : (runAll (runner { nesting with calls := nesting.calls + 1 }) lines m).stop =
      some (.fault f)) :
    (enter runner nesting lines m).stop = some (.fault f) := by
  simp only [enter]
  generalize runAll (runner { nesting with calls := nesting.calls + 1 }) lines m = ran at faulted
  obtain ⟨reached, _⟩ := ran
  cases faulted
  rfl

/-- What the lines of a call came to before the call was left: the same as when they are fed. -/
theorem take_call_alike {invocation : Call} {method : Method} {lines : List Line}
    (idle : m.state.mode = .idle) (gate : m.state.gateOpen = true)
    (read : Statement.classify line.text = .ok (.call invocation))
    (found : m.state.methods.get? invocation.name = some method)
    (expanded : method.expand invocation.arguments (some line) = .ok lines)
    (fed : feedLine settings line m = (called, none))
    (shallow : ∀ d ∈ called.state.report.diagnostics.drop m.state.report.diagnostics.length,
      d.code ≠ "E307".toList) :
    ∃ ran : Outcome ε, ran.Alike (runAll (take settings) lines m) ∧
      take settings line m =
        restoring (fun s => { s with mode := s.mode.withoutLoop }.truncate m.state.depth)
          (ran.andThen requireClosedLoop) := by
  have unexcused (f : Fault) (faulted : (take settings line m).stop = some (.fault f)) :
      f.cause.code ≠ "E307".toList := by
    have reported := diagnostics_of_fault faulted fed
    exact shallow f.diagnostic (by simp [reported])
  obtain ⟨f, faulted, deep⟩ | ⟨room, room_eq, taken⟩ :=
    take_call settings idle gate read found expanded
  · exact absurd deep (unexcused f faulted)
  have noted : (m.log {} (.line .idle line.text)).Alike m := ⟨rfl, rfl⟩
  rcases runAll_deeper room_eq noted lines with ⟨f, faulted, deep⟩ | alike
  · -- The lines ran out of room, and their fault is the fault of the call.
    refine absurd deep (unexcused f ?_)
    rw [taken]
    exact enter_stop faulted
  · exact ⟨_, alike, taken⟩

/-- Lines that end in a fault, or that leave no loop open, end the call as they are. -/
theorem andThen_requireClosedLoop {o : Outcome ε}
    (closed : o.stop = none → ∀ block, o.machine.state.mode ≠ .loop block) :
    o.andThen requireClosedLoop = o := by
  obtain ⟨reached, _ | stop⟩ := o
  · simp only [Outcome.andThen, requireClosedLoop]
    split
    next block looping => exact absurd looping (closed rfl block)
    · rfl
  · rfl

/-- Lines that leave a loop open end the call in a fault at the line that opened it. -/
theorem andThen_requireClosedLoop_of_loop {o : Outcome ε} {block : Block Nat}
    (finished : o.stop = none) (looping : o.machine.state.mode = .loop block) :
    o.andThen requireClosedLoop =
      (o.machine.modifyState fun s => { s with mode := .idle }).fault block.openedAt
        (.unterminated .loop) := by
  obtain ⟨reached, _⟩ := o
  cases finished
  have mode : reached.state.mode = .loop block := looping
  simp only [Outcome.andThen, requireClosedLoop, mode]

theorem withoutLoop_ne_loop (mode : Mode) (block : Block Nat) : mode.withoutLoop ≠ .loop block := by
  cases mode <;> simp [Mode.withoutLoop]

/-- A call does what the lines of its method do when they are fed in its place up to the first
diagnostic, provided that the calls do not nest too deeply.  If the lines leave neither a
diagnostic nor an open loop, nothing distinguishes the two; otherwise the call reports that
diagnostic, or the open loop, and closes what its lines opened. -/
theorem call_inlining {invocation : Call} {method : Method} {lines : List Line}
    (idle : m.state.mode = .idle) (gate : m.state.gateOpen = true)
    (read : Statement.classify line.text = .ok (.call invocation))
    (found : m.state.methods.get? invocation.name = some method)
    (expanded : method.expand invocation.arguments (some line) = .ok lines)
    (fed : feedLine settings line m = (called, none))
    (shallow : ∀ d ∈ called.state.report.diagnostics.drop m.state.report.diagnostics.length,
      d.code ≠ "E307".toList) :
    ∃ inlined stopped,
      runStopping settings lines m = (inlined, stopped, none) ∧
      called.state.store = inlined.state.store ∧
      called.state.methods = inlined.state.methods ∧
      called.state.pen = inlined.state.pen ∧
      called.surface = inlined.surface ∧
      (stopped = false → (∀ block, inlined.state.mode ≠ .loop block) →
        called.state = inlined.state ∧ called.state.report = m.state.report) ∧
      (stopped = true → called.state.report = inlined.state.report) ∧
      (∀ block, stopped = false → inlined.state.mode = .loop block →
        let unterminated := Fault.diagnostic ⟨.unterminated .loop, block.openedAt⟩
        unterminated.code = "E306".toList ∧
          called.state.report = m.state.report.add unterminated) ∧
      (stopped = true ∨ (∃ block, inlined.state.mode = .loop block) →
        (∀ block, called.state.mode ≠ .loop block) ∧
          called.state.conditions = (inlined.state.truncate m.state.depth).conditions) := by
  obtain ⟨ran, alike, entered⟩ := take_call_alike idle gate read found expanded fed shallow
  rw [feedLine, entered] at fed
  by_cases left : ran.stop = none ∧ ∃ block, ran.machine.state.mode = .loop block
  · -- The lines end well and leave a loop open, which is where the call faults.
    obtain ⟨finished, block, looping⟩ := left
    obtain ⟨inlined, ranLines, same, unreported⟩ := runStopping_of_alike alike finished
    rw [andThen_requireClosedLoop_of_loop finished looping] at fed
    cases fed
    refine ⟨inlined, false, ranLines, ?_⟩
    rw [← same.state] at unreported ⊢
    refine ⟨rfl, rfl, rfl, same.surface, fun _ closed => absurd looping (closed block), by simp,
      ?_, ?_⟩
    · intro other _ also
      cases looping.symm.trans also
      refine ⟨rfl, ?_⟩
      rw [← unreported]
      rfl
    · exact fun _ => ⟨withoutLoop_ne_loop .idle, rfl⟩
  · have closed : ran.stop = none → ∀ block, ran.machine.state.mode ≠ .loop block :=
      fun finished block looping => left ⟨finished, block, looping⟩
    rw [andThen_requireClosedLoop closed] at fed
    rcases settled_restoring fed with ⟨finished, rfl⟩ | ⟨f, faulted, rfl⟩
    · -- The lines end well and so does the call.
      obtain ⟨inlined, ranLines, same, unreported⟩ := runStopping_of_alike alike finished
      refine ⟨inlined, false, ranLines, ?_⟩
      rw [← same.state] at unreported ⊢
      refine ⟨rfl, rfl, rfl, same.surface, fun _ _ => ⟨rfl, unreported⟩, by simp, ?_, ?_⟩
      · exact fun block _ looping => absurd looping (closed finished block)
      · intro opened
        obtain ⟨block, looping⟩ := opened.resolve_left (by simp)
        exact absurd looping (closed finished block)
    · -- A line ends in a fault, which is recorded after the call has closed what was opened.
      obtain ⟨inlined, ranLines, same⟩ := runStopping_of_alike_fault alike faulted
      refine ⟨inlined, true, ranLines, ?_⟩
      rw [← same.state]
      refine ⟨rfl, rfl, rfl, same.surface, by simp, fun _ => rfl, by simp, ?_⟩
      exact fun _ => ⟨withoutLoop_ne_loop _, rfl⟩

/-- A machine that knows a method which leaves a loop open. -/
private def unclosed : Machine Recorded :=
  (feed {} "method spread(r)\nmoveto r 0\nif x > 0\nloop 2\nendmethod\nx = 1".toList none
    (create {} Recording.surface)).1

private def spreadCall : Line := ⟨"spread(5)".toList, 7, none⟩

theorem call_inlining_unclosed :
    ∃ called inlined stopped,
      feedLine {} spreadCall unclosed = (called, none) ∧
      runStopping {} (["moveto 5 0", "if x > 0", "loop 2"].map fun text =>
        ⟨text.toList, 7, none⟩) unclosed = (inlined, stopped, none) ∧
      called.state.pen = inlined.state.pen ∧ called.surface = inlined.surface := by
  have read : Statement.classify spreadCall.text =
      .ok (.call ⟨"spread".toList, ["5".toList]⟩) := rfl
  have found : unclosed.state.methods.get? "spread".toList = some ⟨"spread".toList, ["r".toList],
      [⟨"moveto r 0".toList, 2, none⟩, ⟨"if x > 0".toList, 3, none⟩,
        ⟨"loop 2".toList, 4, none⟩]⟩ := by
    decide +kernel
  have fed : feedLine {} spreadCall unclosed = ((feedLine {} spreadCall unclosed).1, none) :=
    eq_of_unfailed (by decide +kernel)
  obtain ⟨inlined, stopped, ran, _, _, pen, surface, _⟩ :=
    call_inlining (Mode.eq_idle (by decide +kernel)) (by decide +kernel) read found rfl fed
      (by decide +kernel)
  exact ⟨_, inlined, stopped, fed, ran, pen, surface⟩

end Plotter.Machine
