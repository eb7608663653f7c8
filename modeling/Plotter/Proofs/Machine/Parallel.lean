import Plotter.Proofs.Machine.Feeding

/-!
# Runs side by side

Machines in step stay in step when lines are fed to them, when their input ends and through a
whole run: a host looks at the state and never at the surface.  A fault is recorded and the next
line is taken, so here it is failures alone that can be excused.
-/

namespace Plotter

/-- Failures that are excused, and no faults. -/
def Excuses.stops (excuses : Excuses Failure) : Excuses Stop where
  first stop := ∃ f, stop = .failure f ∧ excuses.first f
  second stop := ∃ f, stop = .failure f ∧ excuses.second f

/-- The failure that a run came to. -/
def Result.failure? : Except Failure Result → Option Failure
  | .ok _ => none
  | .error f => some f

theorem Result.exists_of_unfailed (ended : Except Failure Result)
    (unfailed : (Result.failure? ended).isNone = true) : ∃ result, ended = .ok result := by
  cases ended with
  | ok result => exact ⟨result, rfl⟩
  | error f => cases unfailed

namespace Machine

variable {ε ε₁ ε₂ : Type} {excuses : Excuses Failure} {R : Pairing ε₁ ε₂} {settings : Settings}
  {m : Machine ε} {m₁ : Machine ε₁} {m₂ : Machine ε₂}

/-! ### Lines -/

theorem InStep.reportFault (inStep : m₁.InStep R m₂) (nesting : Nesting) (d : Diagnostic) :
    (m₁.reportFault nesting d).InStep R (m₂.reportFault nesting d) :=
  (inStep.log _ _).modifyState fun _ => by rfl

theorem settled_inStep {o₁ : Outcome ε₁} {o₂ : Outcome ε₂}
    (inStep : o₁.InStep excuses.stops R o₂) :
    excuses.Cover ((settled o₁).1.InStep R (settled o₂).1) (settled o₁).2 (settled o₂).2 := by
  obtain ⟨m₁, stop₁⟩ := o₁
  obtain ⟨m₂, stop₂⟩ := o₂
  cases inStep with
  | first excused =>
    obtain ⟨f, rfl, excused⟩ := excused
    exact .first excused _
  | second excused =>
    obtain ⟨f, rfl, excused⟩ := excused
    exact .second excused _
  | both inStep =>
    rcases stop₁ with _ | f | f
    · exact .both inStep _
    · -- A fault is recorded on both sides.
      exact .both (inStep.reportFault {} f.diagnostic) _
    · exact .both inStep _

theorem feedLine_inStep (companions : Companions excuses.stops R) (inStep : m₁.InStep R m₂)
    (settings : Settings) (line : Line) :
    excuses.Cover ((feedLine settings line m₁).1.InStep R (feedLine settings line m₂).1)
      (feedLine settings line m₁).2 (feedLine settings line m₂).2 := by
  refine settled_inStep ?_
  exact step_inStep companions guarded_any (Or.inl ⟨rfl, rfl⟩) trivial (Or.inl Iff.rfl) trivial
    inStep

theorem feedLines_inStep (companions : Companions excuses.stops R) (inStep : m₁.InStep R m₂)
    (settings : Settings) (lines : List Line) :
    excuses.Cover ((feedLines settings lines m₁).1.InStep R (feedLines settings lines m₂).1)
      (feedLines settings lines m₁).2 (feedLines settings lines m₂).2 := by
  induction lines generalizing m₁ m₂ with
  | nil => exact .both inStep _
  | cons line rest ih =>
    have here := feedLine_inStep companions inStep settings line
    unfold feedLines
    generalize feedLine settings line m₁ = fed₁ at here ⊢
    generalize feedLine settings line m₂ = fed₂ at here ⊢
    obtain ⟨next₁, failure₁⟩ := fed₁
    obtain ⟨next₂, failure₂⟩ := fed₂
    cases here with
    | first excused => exact .first excused _
    | second excused => exact .second excused _
    | both inStep =>
      cases failure₁ with
      | none => exact ih inStep
      | some f => exact .both inStep _

/-- Both stop at the same line, or neither does: whether a line wrote a diagnostic can be seen
from the state. -/
theorem runStopping_inStep (companions : Companions excuses.stops R) (inStep : m₁.InStep R m₂)
    (settings : Settings) (lines : List Line) :
    excuses.Cover
      ((runStopping settings lines m₁).1.InStep R (runStopping settings lines m₂).1 ∧
        (runStopping settings lines m₁).2.1 = (runStopping settings lines m₂).2.1)
      (runStopping settings lines m₁).2.2 (runStopping settings lines m₂).2.2 := by
  induction lines generalizing m₁ m₂ with
  | nil => exact .both ⟨inStep, rfl⟩ _
  | cons line rest ih =>
    have here := feedLine_inStep companions inStep settings line
    simp only [runStopping, ← inStep.state]
    generalize feedLine settings line m₁ = fed₁ at here ⊢
    generalize feedLine settings line m₂ = fed₂ at here ⊢
    obtain ⟨next₁, failure₁⟩ := fed₁
    obtain ⟨next₂, failure₂⟩ := fed₂
    cases here with
    | first excused => exact .first excused _
    | second excused => exact .second excused _
    | both inStep =>
      cases failure₁ with
      | none =>
        have same : next₁.state = next₂.state := inStep.state
        simp only [same]
        split
        · exact .both ⟨inStep.log _ _, rfl⟩ _
        · exact ih inStep
      | some f => exact .both ⟨inStep, rfl⟩ _

/-! ### Whole runs -/

theorem finish_inStep (inStep : m₁.InStep R m₂) : m₁.finish.InStep R m₂.finish := by
  constructor
  · rw [finish_state, finish_state, inStep.state]
  · rw [finish_state, finish_surface, finish_surface]
    exact inStep.surface

/-- What a run comes to can be seen from the state. -/
theorem InStep.concluded (inStep : m₁.InStep R m₂) (stopped : Bool) :
    excuses.Cover
      (m₁.InStep R m₂ ∧
        (.ok (m₁.result stopped) : Except Failure Result) = .ok (m₂.result stopped))
      none none := by
  refine .both ⟨inStep, ?_⟩ _
  simp only [Machine.result, inStep.state]

theorem runLines_inStep (companions : Companions excuses.stops R) (inStep : m₁.InStep R m₂)
    (settings : Settings) (lines : List Line) :
    excuses.Cover
      ((runLines settings lines m₁).1.InStep R (runLines settings lines m₂).1 ∧
        (runLines settings lines m₁).2 = (runLines settings lines m₂).2)
      (Result.failure? (runLines settings lines m₁).2)
      (Result.failure? (runLines settings lines m₂).2) := by
  unfold runLines
  split
  · have stopping := runStopping_inStep companions inStep settings lines
    generalize runStopping settings lines m₁ = ran₁ at stopping ⊢
    generalize runStopping settings lines m₂ = ran₂ at stopping ⊢
    obtain ⟨last₁, stopped₁, failure₁⟩ := ran₁
    obtain ⟨last₂, stopped₂, failure₂⟩ := ran₂
    cases stopping with
    | first excused => exact .first excused _
    | second excused => exact .second excused _
    | both together =>
      obtain ⟨inStep, rfl⟩ := together
      cases failure₁ with
      | some f => exact .both ⟨inStep, rfl⟩ _
      | none =>
        cases stopped₁ with
        | true =>
          have closed := inStep.modifyState (f := State.discardBlocks) fun _ => rfl
          exact closed.concluded true
        | false => exact (finish_inStep inStep).concluded false
  · have fed := feedLines_inStep companions inStep settings lines
    generalize feedLines settings lines m₁ = fed₁ at fed ⊢
    generalize feedLines settings lines m₂ = fed₂ at fed ⊢
    obtain ⟨last₁, failure₁⟩ := fed₁
    obtain ⟨last₂, failure₂⟩ := fed₂
    cases fed with
    | first excused => exact .first excused _
    | second excused => exact .second excused _
    | both inStep =>
      cases failure₁ with
      | some f => exact .both ⟨inStep, rfl⟩ _
      | none => exact (finish_inStep inStep).concluded false

@[simp] theorem reset_state (settings : Settings) (m : Machine ε) :
    (reset settings m).state = { pen := settings.pen } := by
  rw [reset, takeColor_state]

theorem reset_surface (settings : Settings) (m : Machine ε) :
    (reset settings m).surface = m.surface.colored settings.penColor := by
  rw [reset, takeColor_surface]
  rfl

/-- Two runs of one script.  Of the surfaces it only matters how they are related once they have
the colour of the first pen; of the states before the run nothing is left. -/
theorem run_inStep (companions : Companions excuses.stops R) (settings : Settings) (source : Text)
    (filename : Option Text) (m₁ : Machine ε₁) (m₂ : Machine ε₂)
    (related : R settings.penColor.word (m₁.surface.colored settings.penColor)
      (m₂.surface.colored settings.penColor)) :
    excuses.Cover
      ((run settings source filename m₁).1.InStep R (run settings source filename m₂).1 ∧
        (run settings source filename m₁).2 = (run settings source filename m₂).2)
      (Result.failure? (run settings source filename m₁).2)
      (Result.failure? (run settings source filename m₂).2) := by
  have fresh : (reset settings m₁).InStep R (reset settings m₂) := by
    refine ⟨by rw [reset_state, reset_state], ?_⟩
    rw [reset_state, reset_surface, reset_surface]
    exact related
  exact runLines_inStep companions fresh settings _

end Machine

end Plotter
