import Plotter.Proofs.Machine.Failing
import Plotter.Proofs.Machine.Feeding

/-!
# Stopping at the first report

A run that stops at the first line with a diagnostic and a run that goes on take the same lines up
to that one.  A line writes at most one diagnostic, and nothing is ever taken out of a report, so
as long as the report is the same no line has written any, and the two runs have not parted.

What comes after is different.  The run that stops drops what is open without a word, and the other
one goes on and reports at its end what is open then.
-/

namespace Plotter

/-- A medium on which a cleared drawing still holds what was there before. -/
def Medium.Accumulates {ε : Type} (medium : Medium ε) : Prop :=
  ∀ palette entries, entries.toList <+: (medium.clear palette entries).toList

theorem Recording.accumulates : Recording.medium.Accumulates := by
  intro palette entries
  simp [medium]

namespace Machine

variable {ε : Type} {settings : Settings} {m m' next last : Machine ε} {line : Line}

/-! ### Reports -/

/-- The diagnostics in the report of a machine. -/
abbrev diagnostics (m : Machine ε) : List Diagnostic := m.state.report.diagnostics

/-- A line writes at most one diagnostic, at the end of the report. -/
theorem feedLine_diagnostics (settings : Settings) (line : Line) (m : Machine ε) :
    (feedLine settings line m).1.diagnostics = m.diagnostics ∨
      ∃ d, (feedLine settings line m).1.diagnostics = m.diagnostics ++ [d] := by
  have unreported := take_report settings line m
  unfold feedLine settled
  split
  · exact Or.inl (congrArg Report.diagnostics unreported)
  next f _ =>
    refine Or.inr ⟨f.diagnostic, ?_⟩
    simp [reportFault, log, modifyState, State.addDiagnostic, Report.add, unreported]
  · exact Or.inl (congrArg Report.diagnostics unreported)

@[simp] theorem reset_diagnostics (settings : Settings) (m : Machine ε) :
    (reset settings m).diagnostics = [] := by
  rw [diagnostics, reset, takeColor_state]

theorem diagnostics_of_fed (fed : feedLine settings line m = (next, none)) :
    next.diagnostics = m.diagnostics ∨ ∃ d, next.diagnostics = m.diagnostics ++ [d] := by
  have written := feedLine_diagnostics settings line m
  rwa [fed] at written

/-- Diagnostics are never taken back. -/
theorem feedLines_diagnostics_grow {lines : List Line}
    (fed : feedLines settings lines m = (last, none)) :
    m.diagnostics.length ≤ last.diagnostics.length := by
  induction lines generalizing m with
  | nil =>
    cases fed
    exact Nat.le_refl _
  | cons line rest ih =>
    obtain ⟨next, first, later⟩ := feedLines_cons fed
    have grown := ih later
    rcases diagnostics_of_fed first with same | ⟨d, added⟩
    · rw [← same]
      exact grown
    · rw [added, List.length_append] at grown
      omega

/-- Lines that leave no diagnostic are the same lines for a run that would stop. -/
theorem runStopping_of_unreported {before rest : List Line}
    (fed : feedLines settings before m = (next, none))
    (unreported : next.diagnostics = m.diagnostics) :
    runStopping settings (before ++ rest) m = runStopping settings rest next := by
  induction before generalizing m with
  | nil =>
    cases fed
    rfl
  | cons line before ih =>
    obtain ⟨middle, first, later⟩ := feedLines_cons fed
    rcases diagnostics_of_fed first with same | ⟨d, added⟩
    · rw [List.cons_append, runStopping, first]
      simp only [same, Nat.lt_irrefl, if_false]
      exact ih later (unreported.trans same.symm)
    · -- A diagnostic of this line would still be in the report.
      have grown := feedLines_diagnostics_grow later
      rw [added, unreported, List.length_append, List.length_singleton] at grown
      omega

theorem runStopping_of_reported {rest : List Line} {d : Diagnostic}
    (fed : feedLine settings line m = (next, none))
    (reported : next.diagnostics = m.diagnostics ++ [d]) :
    runStopping settings (line :: rest) m = (next.log {} (.stopping line.number), true, none) := by
  rw [runStopping, fed]
  simp [reported]

/-! ### Drawings -/

theorem Move.entries_grow {fits : Line → Prop} (accumulates : m.surface.medium.Accumulates)
    (move : Move fits m m') : m.surface.entries.toList <+: m'.surface.entries.toList := by
  cases move with
  | draw f => simp [Surface.draw]
  | clear => exact accumulates _ _
  | color color =>
    rw [takeColor_surface]
    dsimp only
    split <;> exact List.prefix_refl _
  | _ => exact List.prefix_refl _

/-- The drawing of the second machine is that of the first with more behind it. -/
structure DrawnOn (m m' : Machine ε) : Prop where
  medium : m'.surface.medium = m.surface.medium
  entries : m.surface.entries.toList <+: m'.surface.entries.toList

theorem DrawnOn.refl (m : Machine ε) : m.DrawnOn m := ⟨rfl, List.prefix_refl _⟩

theorem DrawnOn.trans {m₁ m₂ m₃ : Machine ε} (first : m₁.DrawnOn m₂) (second : m₂.DrawnOn m₃) :
    m₁.DrawnOn m₃ :=
  ⟨second.medium.trans first.medium, first.entries.trans second.entries⟩

theorem feedLine_drawnOn (accumulates : m.surface.medium.Accumulates) (settings : Settings)
    (line : Line) : m.DrawnOn (feedLine settings line m).1 := by
  have moves : Moves (fun _ => True) m (take settings line m).machine :=
    step_moves guarded_any _ _ trivial {} trivial
  have taken : m.DrawnOn (take settings line m).machine := by
    refine moves.invariant (fun {m₁ m₂} drawn move => drawn.trans ?_) (.refl m)
    exact ⟨move.medium_eq, move.entries_grow (drawn.medium ▸ accumulates)⟩
  unfold feedLine settled
  split <;> exact ⟨taken.medium, taken.entries⟩

/-- Lines only add to a drawing that accumulates. -/
theorem feedLines_drawnOn {lines : List Line} (accumulates : m.surface.medium.Accumulates)
    (fed : feedLines settings lines m = (last, none)) : m.DrawnOn last := by
  induction lines generalizing m with
  | nil =>
    cases fed
    exact .refl _
  | cons line rest ih =>
    obtain ⟨next, first, later⟩ := feedLines_cons fed
    have here : m.DrawnOn next := by
      have drawn := feedLine_drawnOn accumulates settings line
      rwa [first] at drawn
    exact here.trans (ih (here.medium ▸ accumulates) later)

/-! ### Two runs of one script -/

@[simp] theorem feedLines_stopOnError (stops : Bool) (lines : List Line) (m : Machine ε) :
    feedLines { settings with stopOnError := stops } lines m = feedLines settings lines m := by
  induction lines generalizing m with
  | nil => rfl
  | cons line rest ih =>
    have first : feedLine { settings with stopOnError := stops } line m =
      feedLine settings line m := rfl
    simp only [feedLines, first, ih]

@[simp] theorem runStopping_stopOnError (stops : Bool) (lines : List Line) (m : Machine ε) :
    runStopping { settings with stopOnError := stops } lines m = runStopping settings lines m := by
  induction lines generalizing m with
  | nil => rfl
  | cons line rest ih =>
    have first : feedLine { settings with stopOnError := stops } line m =
      feedLine settings line m := rfl
    simp only [runStopping, first, ih]

/-- A run that would stop and has not is ended like any other. -/
theorem run_of_unstopped {source : Text} {filename : Option Text}
    (ran : runStopping settings (Line.ofSource source filename) (reset settings m) =
      (last, false, none)) :
    run { settings with stopOnError := true } source filename m =
      (last.finish, .ok (last.finish.result false)) := by
  have fresh : reset { settings with stopOnError := true } m = reset settings m := rfl
  simp only [run, runLines, if_true, runStopping_stopOnError, fresh, ran]

theorem run_of_stopped {source : Text} {filename : Option Text}
    (ran : runStopping settings (Line.ofSource source filename) (reset settings m) =
      (last, true, none)) :
    run { settings with stopOnError := true } source filename m =
      (last.modifyState State.discardBlocks,
        .ok ((last.modifyState State.discardBlocks).result true)) := by
  have fresh : reset { settings with stopOnError := true } m = reset settings m := rfl
  simp only [run, runLines, if_true, runStopping_stopOnError, fresh, ran]

/-- The machine after so many of the lines, fed one after another. -/
def afterLines (settings : Settings) (lines : List Line) (m : Machine ε) (count : Nat) :
    Machine ε :=
  (feedLines settings (lines.take count) m).1

/-- None of the first lines, so many of them, leaves a diagnostic. -/
def Quiet (settings : Settings) (lines : List Line) (m : Machine ε) (count : Nat) : Prop :=
  ∀ k < count, (afterLines settings lines m (k + 1)).diagnostics =
    (afterLines settings lines m k).diagnostics

instance (settings : Settings) (lines : List Line) (m : Machine ε) (count : Nat) :
    Decidable (Quiet settings lines m count) :=
  inferInstanceAs (Decidable (∀ k < count, _))

/-- What a run has come to that ended right after a line: the line has done what it does, nothing
more has been reported, and nothing is open. -/
structure StoppedAfter (reached ended : Machine ε) : Prop where
  store : ended.state.store = reached.state.store
  methods : ended.state.methods = reached.state.methods
  pen : ended.state.pen = reached.state.pen
  surface : ended.surface = reached.surface
  report : ended.state.report = reached.state.report
  mode : ended.state.mode = .idle
  conditions : ended.state.conditions = []

section Cut

variable {lines : List Line}

theorem Quiet.diagnostics_eq {count : Nat} (quiet : Quiet settings lines m count) :
    (afterLines settings lines m count).diagnostics = m.diagnostics := by
  induction count with
  | zero => rfl
  | succ count ih =>
    rw [quiet count (Nat.lt_succ_self count)]
    exact ih fun k earlier => quiet k (Nat.lt_succ_of_lt earlier)

/-- Lines that are all fed, cut at some point. -/
theorem feedLines_cut (fed : feedLines settings lines m = (last, none)) (count : Nat) :
    feedLines settings (lines.take count) m = (afterLines settings lines m count, none) ∧
      feedLines settings (lines.drop count) (afterLines settings lines m count) =
        (last, none) := by
  rw [← List.take_append_drop count lines] at fed
  obtain ⟨next, first, later⟩ := feedLines_append fed
  rw [afterLines, first]
  exact ⟨rfl, later⟩

/-- One more of the lines. -/
theorem feedLine_afterLines (fed : feedLines settings lines m = (last, none)) {count : Nat}
    (more : count < lines.length) :
    feedLine settings lines[count] (afterLines settings lines m count) =
      (afterLines settings lines m (count + 1), none) := by
  have longer := (feedLines_cut fed (count + 1)).1
  rw [List.take_succ_eq_append_getElem more] at longer
  obtain ⟨before, first, only⟩ := feedLines_append longer
  obtain ⟨after, here, nothing⟩ := feedLines_cons only
  cases nothing
  rw [show afterLines settings lines m count = before by rw [afterLines, first]]
  exact here

/-- A run that would stop comes to the end of lines that are all quiet. -/
theorem runStopping_of_quiet (fed : feedLines settings lines m = (last, none))
    (quiet : Quiet settings lines m lines.length) :
    runStopping settings lines m = (last, false, none) := by
  have reached : afterLines settings lines m lines.length = last := by
    rw [afterLines, List.take_length, fed]
  have unreported : last.diagnostics = m.diagnostics := by
    rw [← reached]
    exact quiet.diagnostics_eq
  have whole : runStopping settings (lines ++ []) m = runStopping settings [] last :=
    runStopping_of_unreported fed unreported
  rwa [List.append_nil] at whole

/-- A run that would stop takes the quiet lines like any other run, and the first line that leaves
a diagnostic is its last. -/
theorem runStopping_of_first (fed : feedLines settings lines m = (last, none)) {k : Nat}
    (more : k < lines.length) (quiet : Quiet settings lines m k) {d : Diagnostic}
    (reported : (afterLines settings lines m (k + 1)).diagnostics =
      (afterLines settings lines m k).diagnostics ++ [d]) :
    runStopping settings lines m =
      ((afterLines settings lines m (k + 1)).log {} (.stopping lines[k].number), true, none) := by
  have shared : runStopping settings (lines.take k ++ lines.drop k) m =
      runStopping settings (lines.drop k) (afterLines settings lines m k) :=
    runStopping_of_unreported (feedLines_cut fed k).1 quiet.diagnostics_eq
  rw [List.take_append_drop, List.drop_eq_getElem_cons more] at shared
  exact shared.trans (runStopping_of_reported (feedLine_afterLines fed more) reported)

end Cut

/-- Whether a run stops at the first diagnostic makes no difference if no line leaves one.  If one
does, the run that stops ends right after it, with its diagnostic and no other; the drawing is what
it is at that point of the run that goes on, which only adds to it. -/
theorem stopping_at_first_report (settings : Settings) (source : Text) (filename : Option Text)
    {full : Machine ε} {result : Result}
    (ran : run { settings with stopOnError := false } source filename m = (full, .ok result)) :
    let stopping := run { settings with stopOnError := true } source filename m
    let lines := Line.ofSource source filename
    let fresh := reset settings m
    let after := afterLines settings lines fresh
    (∀ (line : Line) (earlier : Machine ε),
      (feedLine settings line earlier).1.diagnostics = earlier.diagnostics ∨
        ∃ d, (feedLine settings line earlier).1.diagnostics = earlier.diagnostics ++ [d]) ∧
    (Quiet settings lines fresh lines.length →
      stopping = (full, .ok result) ∧ result.stopped = false) ∧
    ∀ k < lines.length, Quiet settings lines fresh k →
      (after (k + 1)).diagnostics ≠ (after k).diagnostics →
      ∃ ended stopped d, stopping = (ended, .ok stopped) ∧ stopped.stopped = true ∧
        (after (k + 1)).diagnostics = (after k).diagnostics ++ [d] ∧ stopped.diagnostics = [d] ∧
        StoppedAfter (after (k + 1)) ended ∧
        (m.surface.medium.Accumulates →
          ended.surface.entries.toList <+: full.surface.entries.toList) := by
  intro stopping lines fresh after
  obtain ⟨last, fed, rfl, rfl⟩ := (run_ok_iff rfl).mp ran
  have fed : feedLines settings lines fresh = (last, none) := by
    rwa [feedLines_stopOnError] at fed
  refine ⟨feedLine_diagnostics settings, fun quiet => ?_, fun k more quiet reports => ?_⟩
  · exact ⟨run_of_unstopped (runStopping_of_quiet fed quiet), rfl⟩
  · obtain ⟨d, added⟩ := (diagnostics_of_fed (feedLine_afterLines fed more)).resolve_left reports
    -- There was no diagnostic before, so that of the line is the only one.
    have only : (after (k + 1)).diagnostics = [d] := by
      rw [show (after (k + 1)).diagnostics = _ from added, quiet.diagnostics_eq, reset_diagnostics]
      rfl
    refine ⟨_, _, d, run_of_stopped (runStopping_of_first fed more quiet added), rfl, added, only,
      ⟨rfl, rfl, rfl, rfl, rfl, rfl, rfl⟩, fun accumulates => ?_⟩
    have before : fresh.surface.medium.Accumulates := by simpa [fresh, reset] using accumulates
    obtain ⟨early, late⟩ := feedLines_cut fed (k + 1)
    have reached := feedLines_drawnOn before early
    rw [finish_surface]
    exact (feedLines_drawnOn (reached.medium ▸ before) late).entries

/-- A line that is nothing stands inside a conditional, and more is drawn and opened behind it. -/
theorem stopping_at_first_report_inside :
    let source : Text := "x = 1\nif x > 0\ncircle 2\nbogus\nclear\nloop 2".toList
    let m := create {} Recording.surface
    ∃ full result ended stopped d,
      run {} source none m = (full, .ok result) ∧
      run { stopOnError := true } source none m = (ended, .ok stopped) ∧
      result.diagnostics.length = 3 ∧ stopped.diagnostics = [d] ∧
      ended.surface.entries.toList <+: full.surface.entries.toList := by
  intro source m
  let going := feedLines {} (Line.ofSource source none) (reset {} m)
  have fed : going = (going.1, none) := eq_of_unfailed (by decide +kernel)
  have ran : run { ({} : Settings) with stopOnError := false } source none m = _ :=
    (run_ok_iff rfl).mpr ⟨_, fed, rfl, rfl⟩
  obtain ⟨ended, stopped, d, stops, _, _, only, _, drawn⟩ :=
    (stopping_at_first_report {} source none ran).2.2 3 (by decide +kernel) (by decide +kernel)
      (by decide +kernel)
  exact ⟨_, _, ended, stopped, d, ran, stops, by decide +kernel, only, drawn Recording.accumulates⟩

end Machine

end Plotter
