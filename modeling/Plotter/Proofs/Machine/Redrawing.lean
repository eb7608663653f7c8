import Plotter.Proofs.Machine.Parallel
import Plotter.Proofs.Surface.Drawing
import Plotter.Surface.Drafting
import Plotter.Surface.Outline
import Plotter.Surface.Window

/-!
# The recorded drawing on every surface

A recorder never fails, and it keeps what a script asks for with the colours in effect.  Any other
surface that starts with a brush, or without one, like the recorder is asked for the same figures
under the same colours.  Its drawing is therefore what the record becomes when it is carried out
on it, operation by operation.
-/

namespace Plotter

variable {ε : Type}

/-! ### Media -/

theorem Recording.appends : Recording.medium.Appends := by
  intro palette entries
  simp [medium]

theorem Outline.appends : Outline.medium.Appends := by
  intro palette entries
  simp [medium]

theorem Window.erases (frame : Frame) : (Window.medium frame).Erases := fun _ _ => rfl

theorem Drafting.erases : Drafting.medium.Erases := fun _ _ => rfl

/-! ### A recorder and another surface -/

/-- The surface shows what the recorder has recorded, carried out on the surface as it was at
first, and has the colours of the recorder. -/
structure Redraws (first : Surface ε) (recorder : Surface Recorded) (s : Surface ε) : Prop where
  recording : recorder.medium = Recording.medium
  redrawn : s = (first.redrawn recorder.entries.toList).dyed recorder.palette.line
    recorder.palette.fill

/-- The second side may fail, and then nothing more is said. -/
def Excuses.ofSecond : Excuses Failure where
  first _ := False
  second _ := True

theorem Recorded.dyed_onto (r : Recorded) (s : Surface ε) :
    (r.onto s).dyed r.line r.fill = r.onto s := by
  unfold onto
  split <;> rfl

namespace Redraws

variable {first s : Surface ε} {recorder : Surface Recorded}

theorem put_line (redraws : Redraws first recorder s) (v : Value) :
    Redraws first (recorder.put .lineColor v) (s.put .lineColor v) := by
  obtain ⟨recording, rfl⟩ := redraws
  exact ⟨recording, rfl⟩

theorem put_fill (redraws : Redraws first recorder s) (v : Value) :
    Redraws first (recorder.put .fillColor v) (s.put .fillColor v) := by
  obtain ⟨recording, rfl⟩ := redraws
  exact ⟨recording, rfl⟩

theorem fill_eq (redraws : Redraws first recorder s) : recorder.palette.fill = s.palette.fill := by
  rw [redraws.redrawn]
  rfl

theorem colored (redraws : Redraws first recorder s) (color : PenColor) :
    Redraws first (recorder.colored color) (s.colored color) := by
  have lined := redraws.put_line (.text color.word)
  simp only [Surface.colored, lined.fill_eq]
  split
  · exact lined
  · exact lined.put_fill _

/-- Whatever is asked for is recorded, and carried out on the other surface. -/
theorem recorded (redraws : Redraws first recorder s) (operation : Operation) :
    let r := recorder.palette.record operation
    Redraws first { recorder with entries := recorder.entries ++ [r] }
      (r.onto (first.redrawn recorder.entries.toList)) := by
  intro r
  refine ⟨redraws.recording, ?_⟩
  have longer : (recorder.entries ++ [r]).toList = recorder.entries.toList ++ [r] := by simp
  rw [longer, Surface.redrawn_concat]
  exact (r.dyed_onto _).symm

theorem drawn_singleton (redraws : Redraws first recorder s) (f : Figure) :
    Redraws first (recorder.drawn [f]) (s.drawn [f]) := by
  have drawing := redraws.recorded (.figure f)
  rw [Recording.drawn_eq redraws.recording, Surface.drawn_singleton, redraws.redrawn]
  exact drawing

theorem cleared (redraws : Redraws first recorder s) :
    Redraws first recorder.clear.1 s.clear.1 := by
  have clearing := redraws.recorded .clear
  rw [Recording.clear_eq redraws.recording, redraws.redrawn]
  exact clearing

theorem drawn (redraws : Redraws first recorder s) {figures : List Figure}
    (unfailed : (s.rendering figures).failure = none) :
    Redraws first (recorder.drawn figures) (s.drawn figures) := by
  induction figures generalizing recorder s with
  | nil =>
    simpa [Surface.drawn, Surface.rendering, Rendering.concat] using redraws
  | cons f rest ih =>
    obtain ⟨here, later⟩ := Surface.rendering_cons_unfailed.mp unfailed
    have alsoRecorded : (recorder.rendering [f]).failure = none := by
      rw [Recording.rendering_eq redraws.recording]
    rw [Surface.drawn_cons here, Surface.drawn_cons alsoRecorded]
    exact ih (redraws.drawn_singleton f) later

theorem drawnInStep (redraws : Redraws first recorder s) (figures : List Figure) :
    DrawnInStep Excuses.ofSecond.stops (Redraws first) figures figures recorder s := by
  unfold DrawnInStep
  rw [Recording.rendering_eq redraws.recording]
  cases failure : (s.rendering figures).failure with
  | none => exact .both (redraws.drawn failure) _
  | some reason =>
    have excused : Excuses.ofSecond.stops.second (.failure reason) := ⟨reason, rfl, trivial⟩
    exact .second excused _

end Redraws

theorem companions_redraws (first : Surface ε) :
    Companions Excuses.ofSecond.stops fun _ => Redraws first where
  penned redraws := redraws.put_line _
  colored redraws color := redraws.colored color
  line redraws start stop := redraws.drawnInStep [.line start stop]
  shape redraws filling shape := by
    rw [redraws.fill_eq]
    exact redraws.drawnInStep _
  cleared redraws := redraws.cleared

/-! ### Runs -/

/-- A surface with nothing on it, and with a transparent brush or with another. -/
structure Surface.Fresh (medium : Medium ε) (transparent : Bool) (s : Surface ε) : Prop where
  medium : s.medium = medium
  empty : s.entries = #[]
  brush : s.palette.fill.isFalse = transparent

namespace Machine

variable {settings : Settings} {source : Text} {filename : Option Text}

/-- Once they have the colour of a pen, an empty recorder and a surface have the same colours,
provided that both brushes are transparent or neither is. -/
theorem redraws_colored {recorder : Surface Recorded} {s : Surface ε}
    (recording : recorder.medium = Recording.medium) (empty : recorder.entries = #[])
    (brush : s.palette.fill.isFalse = recorder.palette.fill.isFalse) (color : PenColor) :
    Redraws s (recorder.colored color) (s.colored color) := by
  rw [Surface.colored_eq, Surface.colored_eq, brush]
  refine ⟨recording, ?_⟩
  -- Nothing has been recorded yet, so nothing is carried out.
  have nothing : (recorder.dyed (.text color.word)
      (if recorder.palette.fill.isFalse then .bool false else .text color.word)).entries.toList =
        [] := by
    simp [Surface.dyed, empty]
  rw [nothing]
  rfl

theorem run_redraws {recorder : Machine Recorded} {m : Machine ε} {result : Result}
    (recording : recorder.surface.medium = Recording.medium)
    (empty : recorder.surface.entries = #[])
    (brush : m.surface.palette.fill.isFalse = recorder.surface.palette.fill.isFalse)
    (finished : (run settings source filename m).2 = .ok result) :
    (run settings source filename recorder).2 = .ok result ∧
      (run settings source filename m).1.surface.entries =
        (m.surface.redrawn
          (run settings source filename recorder).1.surface.entries.toList).entries := by
  have runs := run_inStep (companions_redraws m.surface) settings source filename recorder m
    (redraws_colored recording empty brush settings.penColor)
  obtain ⟨inStep, same⟩ := runs.related (fun _ _ => id) (by simp [finished, Result.failure?])
  refine ⟨same.trans finished, ?_⟩
  rw [inStep.surface.redrawn]
  rfl

/-- A surface that starts with a transparent brush like the recorder, or like the recorder without
one, shows the recorded operations: what each of them draws alone under its own colours, one after
another, and on a surface that is emptied when it is cleared those after the last clearing. -/
theorem surfaces_show_recording (settings : Settings) (source : Text) (filename : Option Text)
    (transparent : Bool) {recorder : Machine Recorded}
    (fresh : recorder.surface.Fresh Recording.medium transparent) :
    let recorded := run settings source filename recorder
    let operations := recorded.1.surface.entries.toList
    (∀ (m : Machine Stroke) (result : Result), m.surface.Fresh Outline.medium transparent →
      (run settings source filename m).2 = .ok result →
      recorded.2 = .ok result ∧
      (run settings source filename m).1.surface.entries.toList =
        operations.flatMap fun r => r.alone m.surface) ∧
    (∀ (frame : Frame) (m : Machine Item) (result : Result),
      m.surface.Fresh (Window.medium frame) transparent →
      (run settings source filename m).2 = .ok result →
      recorded.2 = .ok result ∧
      (run settings source filename m).1.surface.entries.toList =
        (sinceCleared operations).flatMap fun r => r.alone m.surface) ∧
    (∀ (m : Machine Entity) (result : Result), m.surface.Fresh Drafting.medium transparent →
      (run settings source filename m).2 = .ok result →
      recorded.2 = .ok result ∧
      (run settings source filename m).1.surface.entries.toList =
        (sinceCleared operations).flatMap fun r => r.alone m.surface) := by
  intro recorded operations
  have shown {ε : Type} {medium : Medium ε} {m : Machine ε} {result : Result}
      (other : m.surface.Fresh medium transparent)
      (finished : (run settings source filename m).2 = .ok result) :
      recorded.2 = .ok result ∧ (run settings source filename m).1.surface.entries =
        (m.surface.redrawn operations).entries :=
    run_redraws fresh.medium fresh.empty (other.brush.trans fresh.brush.symm) finished
  refine ⟨?_, ?_, ?_⟩
  · intro m result other finished
    obtain ⟨same, entries⟩ := shown other finished
    refine ⟨same, ?_⟩
    rw [entries, Surface.entries_redrawn_of_appends (other.medium ▸ Outline.appends), other.empty]
    rfl
  · intro frame m result other finished
    obtain ⟨same, entries⟩ := shown other finished
    refine ⟨same, ?_⟩
    rw [entries]
    exact Surface.entries_redrawn_of_erases (other.medium ▸ Window.erases frame) other.empty _
  · intro m result other finished
    obtain ⟨same, entries⟩ := shown other finished
    refine ⟨same, ?_⟩
    rw [entries]
    exact Surface.entries_redrawn_of_erases (other.medium ▸ Drafting.erases) other.empty _

/-- A shape with a filling, and a loop that clears the drawing through a method. -/
theorem surfaces_show_recording_of_loop :
    let source : Text :=
      "rectangle 4 3\nmethod dot()\nclear\ndrawto 5 5\nendmethod\nloop 2\ndot()\nendloop".toList
    let recorder : Machine Recorded := { surface := Recording.surface }
    let operations := (run {} source none recorder).1.surface.entries.toList
    (operations.length, (sinceCleared operations).length) = (6, 1) ∧
    (run {} source none { surface := Outline.surface }).1.surface.entries.toList =
      operations.flatMap (fun r => r.alone Outline.surface) ∧
    (run {} source none { surface := Window.surface { caption := [] } }).1.surface.entries.toList =
      (sinceCleared operations).flatMap (fun r => r.alone (Window.surface { caption := [] })) ∧
    (run {} source none { surface := Drafting.surface }).1.surface.entries.toList =
      (sinceCleared operations).flatMap (fun r => r.alone Drafting.surface) := by
  intro source recorder operations
  have fresh : recorder.surface.Fresh Recording.medium false := ⟨rfl, rfl, rfl⟩
  obtain ⟨onOutline, onWindow, onDrafting⟩ := surfaces_show_recording {} source none false fresh
  obtain ⟨_, outlined⟩ := Result.exists_of_unfailed
    (run {} source none { surface := Outline.surface }).2 (by decide +kernel)
  obtain ⟨_, displayed⟩ := Result.exists_of_unfailed
    (run {} source none { surface := Window.surface { caption := [] } }).2 (by decide +kernel)
  obtain ⟨_, drafted⟩ := Result.exists_of_unfailed
    (run {} source none { surface := Drafting.surface }).2 (by decide +kernel)
  refine ⟨by decide +kernel, ?_, ?_, ?_⟩
  · exact (onOutline _ _ ⟨rfl, rfl, rfl⟩ outlined).2
  · exact (onWindow { caption := [] } _ _ ⟨rfl, rfl, rfl⟩ displayed).2
  · exact (onDrafting _ _ ⟨rfl, rfl, rfl⟩ drafted).2

end Machine

end Plotter
