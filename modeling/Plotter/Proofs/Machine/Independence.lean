import Plotter.Proofs.Machine.Redrawing

/-!
# Runs on whatever surface, after whatever history

A run starts from a fresh state, and nothing that it reads from its surface finds its way back
into the state.  So any two machines in the same state stay in the same state, on surfaces that
have nothing to do with each other, and what a run comes to is read off the state.

On recorders there is one thing in which the drawings can differ: whether shapes are filled.  That
depends on the brush before the run only in so far as it is transparent or not.
-/

namespace Plotter

variable {ε₁ ε₂ : Type}

/-- Surfaces that have nothing to do with each other. -/
def Pairing.any : Pairing ε₁ ε₂ := fun _ _ _ => True

/-- Either side may fail, and then nothing more is said. -/
def Excuses.ofEither : Excuses Failure where
  first _ := True
  second _ := True

theorem drawnInStep_any (figures₁ figures₂ : List Figure) (s₁ : Surface ε₁) (s₂ : Surface ε₂) :
    DrawnInStep Excuses.ofEither.stops (fun _ _ => True) figures₁ figures₂ s₁ s₂ := by
  unfold DrawnInStep
  cases (s₁.rendering figures₁).failure with
  | some reason =>
    have excused : Excuses.ofEither.stops.first (.failure reason) := ⟨reason, rfl, trivial⟩
    exact .first excused _
  | none =>
    cases (s₂.rendering figures₂).failure with
    | some reason =>
      have excused : Excuses.ofEither.stops.second (.failure reason) := ⟨reason, rfl, trivial⟩
      exact .second excused _
    | none => exact .both trivial _

theorem companions_any : Companions Excuses.ofEither.stops (.any : Pairing ε₁ ε₂) where
  penned _ := trivial
  colored _ _ := trivial
  line _ _ _ := drawnInStep_any ..
  shape _ _ _ := drawnInStep_any ..
  cleared _ := trivial

theorem Recording.alone_eq {s : Surface Recorded} (recording : s.medium = Recording.medium)
    (r : Recorded) : r.alone s = [r] := by
  obtain ⟨operation, line, fill⟩ := r
  cases operation with
  | figure f => simp [Recorded.alone, Recorded.onto, Surface.draw, Surface.dyed, Surface.emptied,
      recording, medium, Rendering.entry]
  | clear => simp [Recorded.alone, Recorded.onto, Surface.clear, Surface.dyed, Surface.emptied,
      recording, medium]

namespace Machine

variable {settings : Settings} {source : Text} {filename : Option Text}

theorem run_result_eq {m₁ : Machine ε₁} {m₂ : Machine ε₂} {result₁ result₂ : Result}
    (finished₁ : (run settings source filename m₁).2 = .ok result₁)
    (finished₂ : (run settings source filename m₂).2 = .ok result₂) : result₁ = result₂ := by
  have runs := run_inStep companions_any settings source filename m₁ m₂ trivial
  have same := (runs.related (by simp [finished₁, Result.failure?])
    (by simp [finished₂, Result.failure?])).2
  rw [finished₁, finished₂] at same
  exact Except.ok.inj same

/-- What a run adds to the drawing of a recorder is what an empty recorder with such a brush
records. -/
theorem run_recorded {blank m : Machine Recorded} {result : Result}
    (fresh : blank.surface.Fresh Recording.medium m.surface.palette.fill.isFalse)
    (recording : m.surface.medium = Recording.medium)
    (finished : (run settings source filename m).2 = .ok result) :
    (run settings source filename m).1.surface.entries.toList =
      m.surface.entries.toList ++
        (run settings source filename blank).1.surface.entries.toList := by
  have redrawn := (run_redraws fresh.medium fresh.empty fresh.brush.symm finished).2
  rw [redrawn, Surface.entries_redrawn_of_appends (recording ▸ Recording.appends)]
  simp only [Recording.alone_eq recording, List.flatMap_singleton']

/-- Two runs of a script that do not fail come to the same result, whatever the machines have
done before and whatever they draw on.  Two recorders are given the same operations if both
brushes are transparent before, or neither is. -/
theorem run_ignores_surface_and_history (settings : Settings) (source : Text)
    (filename : Option Text) :
    (∀ {ε₁ ε₂ : Type} (m₁ : Machine ε₁) (m₂ : Machine ε₂) (result₁ result₂ : Result),
      (run settings source filename m₁).2 = .ok result₁ →
      (run settings source filename m₂).2 = .ok result₂ → result₁ = result₂) ∧
    (∀ (m₁ m₂ : Machine Recorded) (result₁ result₂ : Result),
      m₁.surface.medium = Recording.medium → m₂.surface.medium = Recording.medium →
      m₁.surface.palette.fill.isFalse = m₂.surface.palette.fill.isFalse →
      (run settings source filename m₁).2 = .ok result₁ →
      (run settings source filename m₂).2 = .ok result₂ →
      ∃ operations : List Recorded,
        (run settings source filename m₁).1.surface.entries.toList =
          m₁.surface.entries.toList ++ operations ∧
        (run settings source filename m₂).1.surface.entries.toList =
          m₂.surface.entries.toList ++ operations) := by
  constructor
  · intro ε₁ ε₂ m₁ m₂ result₁ result₂ finished₁ finished₂
    exact run_result_eq finished₁ finished₂
  · intro m₁ m₂ result₁ result₂ recording₁ recording₂ brush finished₁ finished₂
    -- Both are compared with a recorder that has the first brush and nothing on it.
    let blank : Machine Recorded := { surface := m₁.surface.emptied }
    have first : blank.surface.Fresh Recording.medium m₁.surface.palette.fill.isFalse :=
      ⟨recording₁, rfl, rfl⟩
    have second : blank.surface.Fresh Recording.medium m₂.surface.palette.fill.isFalse :=
      ⟨recording₁, rfl, brush⟩
    exact ⟨_, run_recorded first recording₁ finished₁, run_recorded second recording₂ finished₂⟩

/-- A machine that has been left in the middle of a loop. -/
private def interrupted : Machine Recorded where
  state :=
    { store := Dictionary.empty.set "x".toList 7
      pen := { x := 4, y := 4, color := "blue".toList }
      mode := .loop { header := 2, openedAt := ⟨"loop 2".toList, 3, none⟩ } }
  surface :=
    { medium := Recording.medium
      palette := { line := .text "blue".toList, fill := .int 3 }
      entries := #[⟨.clear, .text "blue".toList, .int 3⟩] }

theorem run_ignores_surface_and_history_of_interrupted :
    let source : Text := "drawto 1 2\nrectangle 2 x".toList
    ∃ result operations, (run {} source none interrupted).2 = .ok result ∧
      (run {} source none { surface := Outline.surface }).2 = .ok result ∧
      (run {} source none interrupted).1.surface.entries.toList =
        interrupted.surface.entries.toList ++ operations ∧
      (run {} source none { surface := Recording.surface }).1.surface.entries.toList =
        operations := by
  intro source
  have independent := run_ignores_surface_and_history {} source none
  obtain ⟨result, resumed⟩ := Result.exists_of_unfailed
    (run {} source none interrupted).2 (by decide +kernel)
  obtain ⟨outlined, onOutline⟩ := Result.exists_of_unfailed
    (run {} source none { surface := Outline.surface }).2 (by decide +kernel)
  obtain ⟨recorded, onRecorder⟩ := Result.exists_of_unfailed
    (run {} source none { surface := Recording.surface }).2 (by decide +kernel)
  obtain rfl := independent.1 _ _ _ _ resumed onOutline
  have medium : interrupted.surface.medium = Recording.medium := rfl
  obtain ⟨operations, first, second⟩ :=
    independent.2 _ _ _ _ medium rfl (by decide +kernel) resumed onRecorder
  exact ⟨result, operations, resumed, onOutline, first, second⟩

end Machine

end Plotter
