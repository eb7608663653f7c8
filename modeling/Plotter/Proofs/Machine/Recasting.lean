import Plotter.Proofs.Machine.Move

/-!
# What drawing commands leave alone

A drawing command looks at the pen and at the surface, it changes these, and it adds to the journal.
So whatever else is done to a machine can be done before the command or after it.  `Recasts` lists
what this comes down to for a single change of the pen, of the surface and of the journal, and every
command follows from it.

One such change puts entries in front of the journal, and this one is all that is needed to compare a
command on machines that differ in what they have recorded before.
-/

namespace Plotter

/-- What a drawing command records. -/
def Event.isOfDrawing : Event → Bool
  | .command .. | .unknownPenColor _ | .unknownFillMode _ | .noted _ => true
  | _ => false

variable {ε : Type}

/-- A change of machines and of early ends, which may be made before a drawing command as well as
after it. -/
structure Recasts (f : Machine ε → Machine ε) (g : Stop → Stop) : Prop where
  pen : ∀ m : Machine ε, (f m).state.pen = m.state.pen
  surface : ∀ m : Machine ε, (f m).surface = m.surface
  log : ∀ (m : Machine ε) (nesting : Nesting) (e : Event), e.isOfDrawing = true →
    f (m.log nesting e) = (f m).log nesting e
  modifyPen : ∀ (m : Machine ε) (change : Pen → Pen),
    f (m.modifyPen change) = (f m).modifyPen change
  onSurface : ∀ (m : Machine ε) (s : Surface ε), f { m with surface := s } = { f m with surface := s }
  failure : ∀ reason : Failure, g (.failure reason) = .failure reason

def Outcome.recast (f : Machine ε → Machine ε) (g : Stop → Stop) (o : Outcome ε) : Outcome ε :=
  ⟨f o.machine, o.stop.map g⟩

namespace Recasts

open Machine

variable {f : Machine ε → Machine ε} {g : Stop → Stop} (recasts : Recasts f g) (m : Machine ε)
  (nesting : Nesting)

include recasts

theorem fail (reason : Failure) : (m.fail reason).recast f g = (f m).fail reason := by
  simp [Machine.fail, stopWith, Outcome.recast, recasts.failure]

omit recasts in
theorem done {m m' : Machine ε} (same : f m = m') : m.done.recast f g = m'.done := by
  rw [← same]
  rfl

omit recasts in
theorem andThen {o : Outcome ε} {next next' : Machine ε → Outcome ε}
    (second : ∀ m, (next m).recast f g = next' (f m)) :
    (o.andThen next).recast f g = (o.recast f g).andThen next' := by
  obtain ⟨m, stop⟩ := o
  cases stop with
  | none => exact second m
  | some stop => rfl

theorem logNotes (notes : List Note) :
    f (m.logNotes nesting notes) = (f m).logNotes nesting notes := by
  induction notes generalizing m with
  | nil => rfl
  | cons note rest ih =>
    simp only [Machine.logNotes, List.foldl_cons] at ih ⊢
    rw [ih, recasts.log _ _ _ rfl]

theorem draw (figure : Figure) : (m.draw nesting figure).recast f g = (f m).draw nesting figure := by
  have drawn (s : Surface ε) (notes : List Note) :
      f ((Machine.mk m.state s m.journal).logNotes nesting notes) =
        (Machine.mk (f m).state s (f m).journal).logNotes nesting notes := by
    rw [recasts.logNotes, ← recasts.onSurface]
  simp only [Machine.draw, recasts.surface]
  generalize m.surface.draw figure = rendered
  obtain ⟨s, notes, _ | reason⟩ := rendered
  · exact done (drawn s notes)
  · exact (recasts.fail _ reason).trans (congrArg (Machine.fail · reason) (drawn s notes))

theorem putProperty (property : Property) (v : Value) :
    f (m.putProperty property v) = (f m).putProperty property v := by
  rw [Machine.putProperty, Machine.putProperty, recasts.surface]
  exact recasts.onSurface m _

theorem applyPen : m.applyPen.recast f g = (f m).applyPen := by
  simp only [Machine.applyPen, setProperty_eq, recasts.pen]
  split
  · exact done (recasts.putProperty m _ _)
  · exact recasts.fail m _

theorem drawShape (shape : Shape) :
    (m.drawShape nesting shape).recast f g = (f m).drawShape nesting shape := by
  unfold Machine.drawShape
  rw [← recasts.applyPen]
  refine andThen fun ready => ?_
  -- Whether a shape is filled depends on the pen and on the surface, and on nothing else.
  have same : (f ready).fillsShapes = ready.fillsShapes := by
    simp only [fillsShapes, recasts.pen, recasts.surface]
  rw [same]
  split
  · rw [← recasts.draw]
    exact andThen fun filled => recasts.draw filled nesting _
  · exact recasts.draw ready nesting _

theorem withValue {α : Type} (value : Except Failure α) {next next' : α → Outcome ε}
    (goesOn : ∀ a, (next a).recast f g = next' a) :
    (m.withValue value next).recast f g = (f m).withValue value next' := by
  cases value with
  | ok a => exact goesOn a
  | error reason => exact recasts.fail m reason

theorem takeColor (color : PenColor) : f (m.takeColor color) = (f m).takeColor color := by
  simp only [Machine.takeColor, ← recasts.putProperty, recasts.surface]
  split <;> rfl

theorem setPen (arguments : List Text) :
    (m.setPen nesting arguments).recast f g = (f m).setPen nesting arguments := by
  unfold Machine.setPen
  split
  · exact recasts.fail m _
  · split
    · rw [← recasts.modifyPen, ← recasts.takeColor]
      rfl
    · rw [← recasts.log _ _ _ rfl]
      rfl

theorem setFill (arguments : List Text) :
    (m.setFill nesting arguments).recast f g = (f m).setFill nesting arguments := by
  unfold Machine.setFill
  split
  · exact recasts.fail m _
  · split
    · rw [← recasts.modifyPen]
      rfl
    · rw [← recasts.log _ _ _ rfl]
      rfl

theorem clearSurface : f (m.clearSurface nesting) = (f m).clearSurface nesting := by
  simp only [Machine.clearSurface, recasts.surface]
  rw [recasts.logNotes, ← recasts.onSurface]

theorem perform (primitive : Primitive) (arguments : List Text) :
    (m.perform nesting primitive arguments).recast f g =
      (f m).perform nesting primitive arguments := by
  have moves (m : Machine ε) (x y : Int) :
      (m.modifyPen fun pen => pen.moveTo x y).done.recast f g =
        ((f m).modifyPen fun pen => pen.moveTo x y).done :=
    done (recasts.modifyPen m _)
  cases primitive with
  | moveTo => exact recasts.withValue m _ fun p => moves m p.1 p.2
  | drawTo =>
    refine recasts.withValue m _ fun p => ?_
    rw [← recasts.applyPen]
    refine andThen fun ready => ?_
    rw [recasts.pen, ← recasts.draw]
    exact andThen fun drawn => moves drawn p.1 p.2
  | clear =>
    simp only [Machine.perform, ← recasts.clearSurface, ← recasts.modifyPen]
    rfl
  | reset =>
    simp only [Machine.perform, ← recasts.modifyPen]
    rfl
  | rectangle =>
    simp only [Machine.perform, recasts.pen]
    exact recasts.withValue m _ fun _ => recasts.drawShape m nesting _
  | circle =>
    simp only [Machine.perform, recasts.pen]
    exact recasts.withValue m _ fun _ => recasts.drawShape m nesting _
  | triangle => exact recasts.withValue m _ fun _ => recasts.drawShape m nesting _
  | pen => exact recasts.setPen m nesting arguments
  | fill => exact recasts.setFill m nesting arguments

theorem command (keyword : Keyword) (arguments : List Text) :
    (m.command nesting keyword arguments).recast f g =
      (f m).command nesting keyword arguments := by
  cases keyword with
  | command primitive =>
    simp only [Machine.command, ← recasts.log m nesting (.command primitive arguments) rfl]
    exact recasts.perform _ nesting primitive arguments
  | opening kind => exact recasts.fail m _
  | closing kind => exact recasts.fail m _

/-- A line with a drawing command, and one with the same words once the variables are replaced. -/
theorem runCommand {line line' : Line}
    (words : Substitution.words (f m).state.store line'.words =
      Substitution.words m.state.store line.words)
    (fault : ∀ cause, g (.fault ⟨cause, line⟩) = .fault ⟨cause, line'⟩) :
    (m.runCommand nesting line).recast f g = (f m).runCommand nesting line' := by
  simp only [Machine.runCommand, words]
  split
  · exact recasts.fail m _
  · exact recasts.fail m _
  · split
    · exact recasts.fail m _
    · split
      · simp [Machine.fault, stopWith, Outcome.recast, fault]
      · exact recasts.command m nesting _ _

end Recasts

/-! ### Entries in front of the journal -/

namespace Machine

/-- The machine with more entries in front of its journal. -/
def after (earlier : Array JournalEntry) (m : Machine ε) : Machine ε :=
  { m with journal := earlier ++ m.journal }

theorem recasts_after (earlier : Array JournalEntry) {g : Stop → Stop}
    (failure : ∀ reason, g (.failure reason) = .failure reason) :
    Recasts (after (ε := ε) earlier) g where
  pen _ := rfl
  surface _ := rfl
  log m nesting e _ := by simp [after, log]
  modifyPen _ _ := rfl
  onSurface _ _ := rfl
  failure := failure

/-- The machine before it recorded anything, with all entries in front. -/
theorem log_eq_after (m : Machine ε) (nesting : Nesting) (e : Event) :
    m.log nesting e = after (m.journal.push ⟨e, nesting⟩) { m with journal := #[] } := by
  simp [log, after]

end Machine

end Plotter
