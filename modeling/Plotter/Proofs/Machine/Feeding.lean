import Plotter.Machine.Run
import Plotter.Proofs.Machine.Likeness

/-!
# Lines fed one after another

A host feeds lines and a replay or a call runs them, and the two differ in what becomes of a
fault: the host records it, and a run ends there.  Here the lines that are fed up to the first
diagnostic are compared with the lines run up to the first early end.  The report is only ever
written between lines, so a line that ends well leaves no diagnostic behind, and a line that ends
in a fault leaves exactly one.
-/

namespace Plotter

theorem Mode.eq_idle {mode : Mode} (idle : mode.activity = .idle) : mode = .idle := by
  cases mode with
  | idle => rfl
  | loop => cases idle
  | method => cases idle

namespace Machine

variable {ε : Type} {settings : Settings} {m next last : Machine ε} {line : Line}

/-- Nothing has to be known of the lines and of the machine. -/
theorem guarded_any : Guarded (fun _ => True) fun _ : Machine ε => True :=
  ⟨fun _ _ => trivial, fun _ _ _ _ _ _ => trivial, fun _ _ _ _ => trivial⟩

theorem take_eq (settings : Settings) (line : Line) (m : Machine ε) :
    take settings line m =
      stepWith (inner settings.maxCallDepth.text settings.maxCallDepth.toNat)
        settings.maxCallDepth.text {} line m := by
  rw [take, step_eq_stepWith]

/-- A line writes nothing into the report. -/
theorem take_report (settings : Settings) (line : Line) (m : Machine ε) :
    (take settings line m).machine.state.report = m.state.report :=
  (step_moves guarded_any _ _ trivial {} trivial).report_eq

/-! ### Runs up to the first early end -/

theorem andThen_assoc (o : Outcome ε) (second third : Machine ε → Outcome ε) :
    (o.andThen second).andThen third = o.andThen fun m => (second m).andThen third := by
  obtain ⟨m, stop⟩ := o
  cases stop <;> rfl

theorem runAll_append (run : Line → Machine ε → Outcome ε) (first second : List Line)
    (m : Machine ε) :
    runAll run (first ++ second) m =
      (runAll run first m).andThen fun next => runAll run second next := by
  induction first generalizing m with
  | nil => rfl
  | cons line rest ih => simp only [List.cons_append, runAll, andThen_assoc, ih]

/-- To repeat lines is to run their repetition. -/
theorem repeated_runAll (run : Line → Machine ε → Outcome ε) (lines : List Line) (rounds : Nat)
    (m : Machine ε) :
    repeated (runAll run lines) rounds m =
      runAll run (List.replicate rounds lines).flatten m := by
  induction rounds generalizing m with
  | zero => rfl
  | succ rounds ih =>
    simp only [repeated, List.replicate_succ, List.flatten_cons, runAll_append, ih]

/-! ### Lines up to the first diagnostic -/

theorem feedLine_of_done (taken : take settings line m = ⟨next, none⟩) :
    feedLine settings line m = (next, none) := by
  simp [feedLine, settled, taken]

theorem feedLine_of_fault {f : Fault} (taken : take settings line m = ⟨next, some (.fault f)⟩) :
    feedLine settings line m = (next.reportFault {} f.diagnostic, none) := by
  simp [feedLine, settled, taken]

/-- The diagnostic that a fault leaves. -/
theorem diagnostics_of_fault {f : Fault} (faulted : (take settings line m).stop = some (.fault f))
    (fed : feedLine settings line m = (last, none)) :
    last.state.report.diagnostics = m.state.report.diagnostics ++ [f.diagnostic] := by
  have unreported := take_report settings line m
  simp only [feedLine, settled, faulted] at fed
  cases fed
  simp [reportFault, log, modifyState, State.addDiagnostic, Report.add, unreported]

/-- The line that ends well, as the first of some lines. -/
private theorem runStopping_cons_of_done {rest : List Line}
    (taken : take settings line m = ⟨next, none⟩) :
    runStopping settings (line :: rest) m = runStopping settings rest next := by
  have unreported : next.state.report = m.state.report := by
    simpa [taken] using take_report settings line m
  simp [runStopping, feedLine_of_done taken, unreported]

private theorem runStopping_cons_of_fault {rest : List Line} {f : Fault}
    (taken : take settings line m = ⟨next, some (.fault f)⟩) :
    runStopping settings (line :: rest) m =
      ((next.reportFault {} f.diagnostic).log {} (.stopping line.number), true, none) := by
  have unreported : next.state.report = m.state.report := by
    simpa [taken] using take_report settings line m
  simp [runStopping, feedLine_of_fault taken, reportFault, log, modifyState, State.addDiagnostic,
    Report.add, unreported]

/-- Lines that are all run leave no diagnostic. -/
theorem runStopping_of_done {lines : List Line}
    (ran : runAll (take settings) lines m = ⟨last, none⟩) :
    runStopping settings lines m = (last, false, none) := by
  induction lines generalizing m with
  | nil =>
    cases ran
    rfl
  | cons line rest ih =>
    rw [runAll] at ran
    rcases taken : take settings line m with ⟨next, _ | stop⟩
    · rw [taken] at ran
      rw [runStopping_cons_of_done taken]
      exact ih ran
    · rw [taken] at ran
      cases ran

/-- Lines of which one ends in a fault leave the diagnostic of the fault. -/
theorem runStopping_of_fault {lines : List Line} {f : Fault}
    (ran : runAll (take settings) lines m = ⟨last, some (.fault f)⟩) :
    ∃ number, runStopping settings lines m =
      ((last.reportFault {} f.diagnostic).log {} (.stopping number), true, none) := by
  induction lines generalizing m with
  | nil => cases ran
  | cons line rest ih =>
    rw [runAll] at ran
    rcases taken : take settings line m with ⟨next, _ | stop⟩
    · rw [taken] at ran
      rw [runStopping_cons_of_done taken]
      exact ih ran
    · rw [taken] at ran
      cases ran
      exact ⟨line.number, runStopping_cons_of_fault taken⟩

/-- The report after lines that are all run. -/
theorem runAll_report {lines : List Line} (ran : runAll (take settings) lines m = ⟨last, none⟩) :
    last.state.report = m.state.report := by
  have moves : Moves (fun _ => True) m (runAll (take settings) lines m).machine :=
    runAll_moves (P := fun _ => True) (fun _ _ => trivial)
      (fun _ _ m _ => step_moves guarded_any _ _ trivial {} trivial) trivial
  simpa [ran] using moves.report_eq

/-- An outcome like the one of lines that are all run, seen from a host that feeds them. -/
theorem runStopping_of_alike {o : Outcome ε} {lines : List Line}
    (alike : o.Alike (runAll (take settings) lines m)) (done : o.stop = none) :
    ∃ fed, runStopping settings lines m = (fed, false, none) ∧ o.machine.Alike fed ∧
      fed.state.report = m.state.report := by
  rcases run : runAll (take settings) lines m with ⟨fed, stop⟩
  rw [run] at alike
  obtain rfl : stop = none := alike.stop.symm.trans done
  exact ⟨fed, runStopping_of_done run, alike.machine, runAll_report run⟩

/-- An outcome like the one of lines that end in a fault, seen from a host that feeds them. -/
theorem runStopping_of_alike_fault {o : Outcome ε} {lines : List Line} {f : Fault}
    (alike : o.Alike (runAll (take settings) lines m)) (faulted : o.stop = some (.fault f)) :
    ∃ fed, runStopping settings lines m = (fed, true, none) ∧
      (o.machine.reportFault {} f.diagnostic).Alike fed := by
  rcases run : runAll (take settings) lines m with ⟨reached, stop⟩
  rw [run] at alike
  obtain rfl : stop = some (.fault f) := alike.stop.symm.trans faulted
  obtain ⟨number, fed⟩ := runStopping_of_fault run
  have reported := (alike.machine.modifyState fun s => s.addDiagnostic f.diagnostic)
  exact ⟨_, fed, reported.state, reported.surface⟩

/-- What is restored after a fault, once the fault is recorded. -/
theorem settled_restoring {o : Outcome ε} {restore : State → State}
    (ended : settled (restoring restore o) = (last, none)) :
    (o.stop = none ∧ last = o.machine) ∨
      ∃ f, o.stop = some (.fault f) ∧
        last = (o.machine.modifyState restore).reportFault {} f.diagnostic := by
  obtain ⟨ran, _ | f | f⟩ := o
  · cases ended
    exact Or.inl ⟨rfl, rfl⟩
  · cases ended
    exact Or.inr ⟨f, rfl, rfl⟩
  · cases ended

/-! ### What lines and runs keep -/

section Keeping

variable {P : Machine ε → Prop} {lines : List Line}

theorem feedLines_keeps (fed : ∀ line ∈ lines, ∀ m, P m → P (feedLine settings line m).1)
    (initial : P m) : P (feedLines settings lines m).1 := by
  induction lines generalizing m with
  | nil => exact initial
  | cons line rest ih =>
    have first := fed line (List.mem_cons_self ..) m initial
    unfold feedLines
    split
    next next here =>
      rw [here] at first
      exact ih (fun later member => fed later (List.mem_cons_of_mem _ member)) first
    · exact first

theorem runStopping_keeps (fed : ∀ line ∈ lines, ∀ m, P m → P (feedLine settings line m).1)
    (logged : ∀ m e, P m → P (m.log {} e)) (initial : P m) :
    P (runStopping settings lines m).1 := by
  induction lines generalizing m with
  | nil => exact initial
  | cons line rest ih =>
    have first := fed line (List.mem_cons_self ..) m initial
    simp only [runStopping]
    split
    next here =>
      rw [here] at first
      exact first
    next here =>
      rw [here] at first
      split
      · exact logged _ _ first
      · exact ih (fun later member => fed later (List.mem_cons_of_mem _ member)) first

/-- A run ends its input, or drops what is open when it stops, or fails. -/
theorem runLines_keeps (fed : ∀ line ∈ lines, ∀ m, P m → P (feedLine settings line m).1)
    (logged : ∀ m e, P m → P (m.log {} e)) (finished : ∀ m, P m → P m.finish)
    (dropped : ∀ m, P m → P (m.modifyState State.discardBlocks)) (initial : P m) :
    P (runLines settings lines m).1 := by
  unfold runLines
  split
  · have last := runStopping_keeps fed logged initial
    generalize runStopping settings lines m = ran at last
    obtain ⟨last, stopped, failure⟩ := ran
    cases failure with
    | some f => exact last
    | none =>
      cases stopped with
      | true => exact dropped _ last
      | false => exact finished _ last
  · have last := feedLines_keeps fed initial
    generalize feedLines settings lines m = ran at last
    obtain ⟨last, failure⟩ := ran
    cases failure with
    | some f => exact last
    | none => exact finished _ last

end Keeping

/-! ### The end of the input -/

theorem finish_state (m : Machine ε) :
    m.finish.state = { m.state with
      mode := .idle
      conditions := []
      report := { m.state.report with
        diagnostics := m.state.report.diagnostics ++
          (openBlocks m.state).map Fault.diagnostic } } := by
  have reported : ∀ (faults : List Fault) (m : Machine ε),
      (faults.foldl (fun m f => m.reportFault {} f.diagnostic) m).state = { m.state with
        report := { m.state.report with
          diagnostics := m.state.report.diagnostics ++ faults.map Fault.diagnostic } } := by
    intro faults
    induction faults with
    | nil => simp
    | cons fault rest ih =>
      intro m
      rw [List.foldl_cons, ih]
      simp [reportFault, log, modifyState, State.addDiagnostic, Report.add]
  rw [finish]
  simp only [modifyState, reported]
  rfl

theorem finish_surface (m : Machine ε) : m.finish.surface = m.surface := by
  have reported : ∀ (faults : List Fault) (m : Machine ε),
      (faults.foldl (fun m f => m.reportFault {} f.diagnostic) m).surface = m.surface := by
    intro faults
    induction faults with
    | nil => exact fun m => rfl
    | cons fault rest ih => exact fun m => ih _
  exact reported _ m

/-! ### Lines that end without a failure -/

theorem eq_of_unfailed {fed : Machine ε × Option Failure} (unfailed : fed.2.isNone = true) :
    fed = (fed.1, none) :=
  Prod.ext rfl (Option.isNone_iff_eq_none.mp unfailed)

theorem feedLines_cons {lines : List Line}
    (fed : feedLines settings (line :: lines) m = (last, none)) :
    ∃ next, feedLine settings line m = (next, none) ∧
      feedLines settings lines next = (last, none) := by
  unfold feedLines at fed
  split at fed
  next next first => exact ⟨next, first, fed⟩
  next other => exact absurd fed (other last)

theorem feedLines_append_eq (settings : Settings) (first second : List Line) (m : Machine ε) :
    feedLines settings (first ++ second) m =
      match feedLines settings first m with
      | (next, none) => feedLines settings second next
      | failed => failed := by
  induction first generalizing m with
  | nil => rfl
  | cons line rest ih =>
    simp only [List.cons_append, feedLines]
    split
    · exact ih _
    next failed =>
      rcases fed : feedLine settings line m with ⟨next, _ | f⟩
      · exact absurd fed (failed next)
      · rfl

theorem feedLines_append {first second : List Line}
    (fed : feedLines settings (first ++ second) m = (last, none)) :
    ∃ next, feedLines settings first m = (next, none) ∧
      feedLines settings second next = (last, none) := by
  rw [feedLines_append_eq] at fed
  rcases before : feedLines settings first m with ⟨next, _ | f⟩
  · rw [before] at fed
    exact ⟨next, rfl, fed⟩
  · rw [before] at fed
    cases fed

/-- A run that does not stop at faults feeds the lines of the script to a fresh machine and ends the
input. -/
theorem run_ok_iff (continuing : settings.stopOnError = false) {source : Text}
    {filename : Option Text} {m ended : Machine ε} {result : Result} :
    run settings source filename m = (ended, .ok result) ↔
      ∃ last, feedLines settings (Line.ofSource source filename) (reset settings m) = (last, none) ∧
        ended = last.finish ∧ result = ended.result false := by
  rw [run, runLines, if_neg (by simp [continuing])]
  rcases feedLines settings (Line.ofSource source filename) (reset settings m) with ⟨last, _ | f⟩
  · constructor
    · intro ran
      cases ran
      exact ⟨last, rfl, rfl, rfl⟩
    · rintro ⟨_, ⟨⟩, rfl, rfl⟩
      rfl
  · constructor
    · nofun
    · rintro ⟨_, ⟨⟩, _⟩

end Machine

end Plotter
