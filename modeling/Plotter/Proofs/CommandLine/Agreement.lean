import Plotter.Proofs.CommandLine.Input
import Plotter.Proofs.Machine.Independence
import Plotter.Proofs.Machine.Stopping

/-!
# One script, however it is run

A script may be run on any surface, from any file or as it is typed, to the end or to the first
line with a diagnostic.  Whether it is good is always the same.  A surface takes no part in what is
reported.  A place in a file is only ever written into a report, so that it does not matter which
file a line stands in, nor whether it stands in a file at all.  And a run that stops has something
to report, as has the run that goes on from there.

All that is ever reported is an error, so a run goes well exactly if nothing is reported.

## Main results

* `Machine.run_verdict`: a run that may stop, against the plain run of the same text.
* `Machine.typed_verdict`: a script that is typed, against the plain run of the same text.
-/

namespace Plotter

namespace Machine

variable {ε ε' : Type} {settings : Settings} {m last : Machine ε}

/-! ### Errors and nothing else -/

/-- All that has been reported is an error. -/
def Erring (m : Machine ε) : Prop := ∀ d ∈ m.diagnostics, d.isError = true

theorem erring_reportFault (erring : m.Erring) (nesting : Nesting) (f : Fault) :
    (m.reportFault nesting f.diagnostic).Erring := by
  intro d member
  have written : d ∈ m.diagnostics ++ [f.diagnostic] := member
  rcases List.mem_append.mp written with earlier | new
  · exact erring d earlier
  · rw [List.mem_singleton.mp new]
    rfl

theorem erring_feedLine (erring : m.Erring) (line : Line) :
    (feedLine settings line m).1.Erring := by
  have taken : (take settings line m).machine.Erring := by
    unfold Erring diagnostics
    rw [take_report]
    exact erring
  unfold feedLine settled
  split
  · exact taken
  · exact erring_reportFault taken {} _
  · exact taken

theorem erring_finish (erring : m.Erring) : m.finish.Erring := by
  intro d member
  unfold diagnostics at member
  rw [finish_state] at member
  rcases List.mem_append.mp member with earlier | new
  · exact erring d earlier
  · obtain ⟨f, _, rfl⟩ := List.mem_map.mp new
    rfl

theorem Erring.success_iff (erring : m.Erring) (stopped : Bool) :
    (m.result stopped).success = true ↔ (m.result stopped).diagnostics = [] := by
  have all : m.state.report.errors = m.state.report.diagnostics :=
    List.filter_eq_self.mpr erring
  simp [result, Report.hasErrors, Report.errorCount, all]

/-- What a run came to is read off the machine that it leaves. -/
theorem runLines_result {lines : List Line} {result : Result}
    (ran : (runLines settings lines m).2 = .ok result) :
    ∃ stopped, result = (runLines settings lines m).1.result stopped := by
  unfold runLines at ran ⊢
  split at ran
  next stops =>
    rw [if_pos stops]
    generalize runStopping settings lines m = stopping at ran ⊢
    obtain ⟨last, stopped, _ | f⟩ := stopping
    · cases stopped with
      | true =>
        cases ran
        exact ⟨true, rfl⟩
      | false =>
        cases ran
        exact ⟨false, rfl⟩
    · cases ran
  next continues =>
    rw [if_neg continues]
    generalize feedLines settings lines m = fed at ran ⊢
    obtain ⟨last, _ | f⟩ := fed
    · cases ran
      exact ⟨false, rfl⟩
    · cases ran

theorem run_success_iff {source : Text} {filename : Option Text} {result : Result}
    (ran : (run settings source filename m).2 = .ok result) :
    result.success = true ↔ result.diagnostics = [] := by
  have erring : (run settings source filename m).1.Erring := by
    refine runLines_keeps (P := Erring) ?_ (fun _ _ erring => erring) (fun _ => erring_finish)
      (fun _ erring => erring) (by simp [Erring])
    exact fun line _ _ erring => erring_feedLine erring line
  obtain ⟨stopped, rfl⟩ := runLines_result ran
  exact erring.success_iff stopped

/-- What has been reported is still there at the end. -/
theorem finish_diagnostics_ne_nil (reported : m.diagnostics ≠ []) (stopped : Bool) :
    (m.finish.result stopped).diagnostics ≠ [] := by
  simp only [result, finish_state]
  exact List.append_ne_nil_of_left_ne_nil reported _

/-! ### One script, however it is run -/

/-- A run that would stop has stopped if a line has left a diagnostic, and otherwise it has come to
the end like a run that would not. -/
theorem runStopping_of_fed {lines : List Line} (fed : feedLines settings lines m = (last, none)) :
    (last.diagnostics = m.diagnostics ∧ runStopping settings lines m = (last, false, none)) ∨
      (last.diagnostics ≠ m.diagnostics ∧
        ∃ ended, runStopping settings lines m = (ended, true, none) ∧ ended.diagnostics ≠ []) := by
  induction lines generalizing m with
  | nil =>
    cases fed
    exact Or.inl ⟨rfl, rfl⟩
  | cons line rest ih =>
    obtain ⟨next, first, later⟩ := feedLines_cons fed
    rcases diagnostics_of_fed first with same | ⟨d, added⟩
    · have goesOn : runStopping settings (line :: rest) m = runStopping settings rest next := by
        have single : feedLines settings [line] m = (next, none) := by simp [feedLines, first]
        exact runStopping_of_unreported single same
      rw [goesOn, ← same]
      exact ih later
    · -- Here the run stops, and the one that goes on never takes the diagnostic back.
      refine Or.inr ⟨fun same => ?_, _, runStopping_of_reported first added, ?_⟩
      · have grown := feedLines_diagnostics_grow later
        rw [added, same, List.length_append, List.length_singleton] at grown
        omega
      · simp [log, diagnostics, added]

section Plain

variable {script : Text} {filename : Option Text} {result : Result} {m' : Machine ε'}

/-- The lines of a script say the same in every file. -/
theorem text_ofSource (script : Text) (filename other : Option Text) :
    (Line.ofSource script filename).map Line.text = (Line.ofSource script other).map Line.text := by
  simp only [Line.ofSource, Line.text_numbered]

/-- Unified line ends make no difference to a run. -/
theorem run_unifyNewlines (settings : Settings) (script : Text) (filename : Option Text)
    (m : Machine ε) :
    run settings (Text.unifyNewlines script) filename m = run settings script filename m := by
  simp only [run, Line.ofSource, Text.lines_unifyNewlines]

theorem fed_of_plain
    (plain : (run { settings with stopOnError := false } script filename m).2 = .ok result) :
    ∃ last, feedLines settings (Line.ofSource script filename) (reset settings m) = (last, none) ∧
      result = last.finish.result false := by
  obtain ⟨last, fed, ended, rfl⟩ := (run_ok_iff rfl).mp (Prod.ext rfl plain)
  rw [feedLines_stopOnError] at fed
  rw [ended]
  exact ⟨last, fed, rfl⟩

/-- However a script is run, on whatever surface and from whatever file: it goes well exactly if
nothing is reported by the run that does not stop, and it stops exactly if it would and a line has
left a diagnostic. -/
theorem run_verdict
    (plain : (run { settings with stopOnError := false } script filename m).2 = .ok result)
    {stops : Bool} {other : Option Text} {found : Result}
    (ran : (run { settings with stopOnError := stops } script other m').2 = .ok found) :
    (found.success = true ↔ result.diagnostics = []) ∧
      (found.stopped = true ↔ stops = true ∧
        (feedLines settings (Line.ofSource script filename) (reset settings m)).1.diagnostics ≠
          []) := by
  obtain ⟨last, fed, rfl⟩ := fed_of_plain plain
  -- The same run from the other file, still on the first surface.
  have elsewhere := feedLines_of_texts (reset settings m) settings
    (text_ofSource script other filename)
  rw [fed] at elsewhere ⊢
  rcases moved : feedLines settings (Line.ofSource script other) (reset settings m) with
    ⟨last', failure⟩
  rw [moved] at elsewhere
  obtain ⟨same, rfl⟩ := elsewhere
  obtain ⟨reported, finished⟩ := diagnostics_of_unplaced same
  have success := run_success_iff ran
  cases stops with
  | false =>
    have going : run { settings with stopOnError := false } script other m = _ :=
      (run_ok_iff rfl).mpr ⟨last', by rw [feedLines_stopOnError]; exact moved, rfl, rfl⟩
    -- What a run comes to is the same on every surface.
    obtain rfl := run_result_eq ran (by rw [going])
    exact ⟨success.trans finished, by simp [Machine.result]⟩
  | true =>
    rcases runStopping_of_fed moved with ⟨quiet, stopping⟩ | ⟨noisy, ended, stopping, ending⟩
    · obtain rfl := run_result_eq ran (by rw [run_of_unstopped stopping])
      rw [reset_diagnostics] at quiet
      refine ⟨success.trans finished, ?_⟩
      have silent : last.diagnostics = [] := reported.mp quiet
      simp [Machine.result, silent]
    · obtain rfl := run_result_eq ran (by rw [run_of_stopped stopping])
      rw [reset_diagnostics] at noisy
      have loud : last.diagnostics ≠ [] := fun silent => noisy (reported.mpr silent)
      have complaints := finish_diagnostics_ne_nil loud false
      refine ⟨iff_of_false (fun good => ending (success.mp good)) complaints, ?_⟩
      simp [Machine.result, loud]

/-- A script that is typed goes well exactly if nothing is reported by a run of the whole. -/
theorem typed_verdict
    (plain : (run { settings with stopOnError := false } script filename m).2 = .ok result)
    {typed : Machine ε'}
    (heard : feedPieces settings 1 (CommandLine.Command.typedLines script) (reset settings m') =
      (typed, none)) :
    (typed.finish.result false).success = true ↔ result.diagnostics = [] := by
  have erring : typed.finish.Erring := by
    refine erring_finish ?_
    rw [feedPieces_eq_feedLines] at heard
    rw [show typed = (feedLines settings _ (reset settings m')).1 by rw [heard]]
    refine feedLines_keeps (P := Erring) ?_ (by simp [Erring])
    exact fun line _ _ erring => erring_feedLine erring line
  -- The whole script on the surface of the typed one.
  have whole := feedPieces_typedLines settings 1 script filename (reset settings m')
  rw [heard] at whole
  rcases read : feedLines settings (Line.ofSource script filename) (reset settings m') with
    ⟨last, failure⟩
  rw [read] at whole
  obtain ⟨same, rfl⟩ := whole
  have going : run { settings with stopOnError := false } script filename m' = _ :=
    (run_ok_iff rfl).mpr ⟨last, by rw [feedLines_stopOnError]; exact read, rfl, rfl⟩
  obtain rfl := run_result_eq plain (by rw [going])
  exact (erring.success_iff false).trans (diagnostics_of_unplaced same).2

end Plain

end Machine

end Plotter
