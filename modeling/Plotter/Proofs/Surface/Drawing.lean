import Mathlib.Data.List.DropRight
import Plotter.Surface.Recording

/-!
# Drawings

What figures become on a surface depends on the palette alone, so drawing some figures and then
others is drawing all of them, unless one of the first fails.

A recorded operation carries the colours with which it was asked for.  It can be carried out on
any surface, and what it adds to the drawing there is what it draws on an empty surface.  So a
drawing is the concatenation of what its operations draw alone; where clearing a surface leaves
nothing on it, of those after the last clearing.
-/

namespace Plotter

variable {ε : Type}

namespace Rendering

theorem append_eq_of_failed {first : Rendering ε} {reason : Failure}
    (failed : first.failure = some reason) (next : Rendering ε) : first ++ next = first := by
  change append first next = first
  simp only [append, failed]

theorem append_eq_of_unfailed {first : Rendering ε} (unfailed : first.failure = none)
    (next : Rendering ε) :
    first ++ next =
      { entries := first.entries ++ next.entries
        notes := first.notes ++ next.notes
        failure := next.failure } := by
  change append first next = _
  simp only [append, unfailed]

end Rendering

namespace Surface

/-- The surface with the colour of a pen, for lines and, unless the brush is transparent, for
areas. -/
def colored (s : Surface ε) (color : PenColor) : Surface ε :=
  let lined := s.put .lineColor (.text color.word)
  if lined.palette.fill.isFalse then lined else lined.put .fillColor (.text color.word)

/-- What some figures become, up to the first failure. -/
def rendering (s : Surface ε) (figures : List Figure) : Rendering ε :=
  .concat (figures.map (s.medium.draw s.palette))

def drawn (s : Surface ε) (figures : List Figure) : Surface ε :=
  { s with entries := s.entries ++ (s.rendering figures).entries }

theorem rendering_cons (s : Surface ε) (f : Figure) (rest : List Figure) :
    s.rendering (f :: rest) = s.medium.draw s.palette f ++ s.rendering rest := rfl

@[simp] theorem rendering_singleton (s : Surface ε) (f : Figure) :
    s.rendering [f] = s.medium.draw s.palette f := by
  rw [rendering_cons]
  rcases s.medium.draw s.palette f with ⟨entries, notes, _ | reason⟩
  · rw [Rendering.append_eq_of_unfailed rfl]
    simp [rendering, Rendering.concat]
  · exact Rendering.append_eq_of_failed rfl _

theorem rendering_cons_unfailed {s : Surface ε} {f : Figure} {rest : List Figure} :
    (s.rendering (f :: rest)).failure = none ↔
      (s.rendering [f]).failure = none ∧ (s.rendering rest).failure = none := by
  rw [rendering_singleton, rendering_cons]
  cases failure : (s.medium.draw s.palette f).failure with
  | none => simp [Rendering.append_eq_of_unfailed failure]
  | some reason => simp [Rendering.append_eq_of_failed failure, failure]

theorem drawn_singleton (s : Surface ε) (f : Figure) : s.drawn [f] = (s.draw f).1 := by
  rw [drawn, rendering_singleton, draw]

/-- The first figure is drawn, and then the others. -/
theorem drawn_cons {s : Surface ε} {f : Figure} (unfailed : (s.rendering [f]).failure = none)
    (rest : List Figure) : s.drawn (f :: rest) = (s.drawn [f]).drawn rest := by
  rw [rendering_singleton] at unfailed
  -- The figures drawn so far have no part in the rendering of the others.
  change Surface.mk s.medium s.palette (s.entries ++ (s.rendering (f :: rest)).entries) =
    ⟨s.medium, s.palette, s.entries ++ (s.rendering [f]).entries ++ (s.rendering rest).entries⟩
  rw [rendering_cons, Rendering.append_eq_of_unfailed unfailed, rendering_singleton]
  simp [← Array.toList_inj]

end Surface

/-- A shape is outlined, and filled before that if it is filled at all. -/
def Shape.figures (filled : Bool) (shape : Shape) : List Figure :=
  if filled then [.fill shape, .outline shape] else [.outline shape]

/-! ### Recorders -/

/-- An operation as a surface with the given palette would record it. -/
def Palette.record (palette : Palette) (operation : Operation) : Recorded :=
  ⟨operation, palette.line, palette.fill⟩

namespace Recording

variable {s : Surface Recorded}

theorem rendering_eq (recording : s.medium = Recording.medium) (figures : List Figure) :
    s.rendering figures = { entries := figures.map fun f => s.palette.record (.figure f) } := by
  induction figures with
  | nil => rfl
  | cons f rest ih =>
    have drawn : s.medium.draw s.palette f =
        { entries := [s.palette.record (.figure f)] } := by
      rw [recording]
      rfl
    rw [Surface.rendering_cons, ih, drawn]
    exact Rendering.append_eq_of_unfailed rfl _

/-- Every figure is recorded under the colours in effect. -/
theorem drawn_eq (recording : s.medium = Recording.medium) (figures : List Figure) :
    s.drawn figures = { s with
      entries := s.entries ++ figures.map fun f => s.palette.record (.figure f) } := by
  rw [Surface.drawn, rendering_eq recording]

theorem clear_eq (recording : s.medium = Recording.medium) :
    s.clear.1 = { s with entries := s.entries ++ [s.palette.record .clear] } := by
  simp [Surface.clear, recording, medium, Palette.record]

end Recording

/-! ### Recorded operations on other surfaces -/

/-- The surface with other colours for lines and for areas. -/
def Surface.dyed (s : Surface ε) (line fill : Value) : Surface ε :=
  { s with palette := { s.palette with line := line, fill := fill } }

theorem Value.eq_of_isFalse {v : Value} (transparent : v.isFalse = true) : v = .bool false := by
  unfold isFalse at transparent
  split at transparent
  · rfl
  · cases transparent

theorem Value.isFalse_iff {v : Value} : v.isFalse = true ↔ v = .bool false := by
  constructor
  · exact eq_of_isFalse
  · rintro rfl
    rfl

/-- The colour of a pen replaces every colour but the transparent one. -/
theorem Surface.colored_eq (s : Surface ε) (color : PenColor) :
    s.colored color = s.dyed (.text color.word)
      (if s.palette.fill.isFalse then .bool false else .text color.word) := by
  have kept : (s.put .lineColor (.text color.word)).palette.fill = s.palette.fill := rfl
  simp only [colored, kept]
  split
  next transparent =>
    simp only [put, Palette.put, dyed, Value.eq_of_isFalse transparent]
  · rfl

/-- The surface with nothing on it. -/
def Surface.emptied (s : Surface ε) : Surface ε := { s with entries := #[] }

namespace Recorded

/-- The surface after the operation has been carried out under the colours of the record. -/
def onto (r : Recorded) (s : Surface ε) : Surface ε :=
  match r.operation with
  | .figure f => ((s.dyed r.line r.fill).draw f).1
  | .clear => (s.dyed r.line r.fill).clear.1

/-- What the operation alone leaves on an empty surface. -/
def alone (r : Recorded) (s : Surface ε) : List ε := (r.onto s.emptied).entries.toList

end Recorded

/-- The surface after some recorded operations. -/
def Surface.redrawn (s : Surface ε) (operations : List Recorded) : Surface ε :=
  operations.foldl (fun reached r => r.onto reached) s

/-- The operations after the last clearing. -/
def sinceCleared (operations : List Recorded) : List Recorded :=
  operations.rtakeWhile fun r => r.operation ≠ .clear

namespace Surface

@[simp] theorem redrawn_concat (s : Surface ε) (operations : List Recorded) (r : Recorded) :
    s.redrawn (operations ++ [r]) = r.onto (s.redrawn operations) := by
  simp [redrawn]

/-- All that is left of a surface when it is emptied and dyed is its medium and what the colours do
not touch of its palette, and operations change neither. -/
theorem emptied_dyed_redrawn (s : Surface ε) (operations : List Recorded) (line fill : Value) :
    (s.redrawn operations).emptied.dyed line fill = s.emptied.dyed line fill := by
  induction operations generalizing s with
  | nil => rfl
  | cons r rest ih =>
    refine (ih (r.onto s)).trans ?_
    unfold Recorded.onto
    split <;> rfl

theorem alone_redrawn (s : Surface ε) (operations : List Recorded) (r : Recorded) :
    r.alone (s.redrawn operations) = r.alone s := by
  simp only [Recorded.alone, Recorded.onto, emptied_dyed_redrawn]

theorem entries_onto_figure {r : Recorded} {f : Figure} (drawing : r.operation = .figure f)
    (s : Surface ε) : (r.onto s).entries.toList = s.entries.toList ++ r.alone s := by
  simp only [Recorded.alone, Recorded.onto, drawing, draw, dyed, emptied]
  simp

end Surface

/-- A medium on which clearing adds to the drawing whatever it adds to an empty one. -/
def Medium.Appends (medium : Medium ε) : Prop :=
  ∀ palette entries,
    (medium.clear palette entries).toList = entries.toList ++ (medium.clear palette #[]).toList

/-- A medium on which clearing leaves nothing. -/
def Medium.Erases (medium : Medium ε) : Prop :=
  ∀ palette entries, medium.clear palette entries = #[]

namespace Surface

theorem redrawn_medium (s : Surface ε) (operations : List Recorded) :
    (s.redrawn operations).medium = s.medium := by
  have same := congrArg Surface.medium (emptied_dyed_redrawn s operations .null .null)
  exact same

/-- Where clearing appends, the drawing is the concatenation of what its operations draw alone. -/
theorem entries_redrawn_of_appends {s : Surface ε} (appends : s.medium.Appends)
    (operations : List Recorded) :
    (s.redrawn operations).entries.toList =
      s.entries.toList ++ operations.flatMap fun r => r.alone s := by
  induction operations using List.reverseRecOn with
  | nil => simp [redrawn]
  | append_singleton operations r ih =>
    have step : (r.onto (s.redrawn operations)).entries.toList =
        (s.redrawn operations).entries.toList ++ r.alone (s.redrawn operations) := by
      cases operation : r.operation with
      | figure f => exact entries_onto_figure operation _
      | clear =>
        rw [← redrawn_medium s operations] at appends
        simp only [Recorded.alone, Recorded.onto, operation, clear, dyed, emptied]
        exact appends _ _
    rw [redrawn_concat, step, ih, alone_redrawn]
    simp

/-- Where clearing erases, the drawing is that of the operations after the last clearing. -/
theorem entries_redrawn_of_erases {s : Surface ε} (erases : s.medium.Erases)
    (empty : s.entries = #[]) (operations : List Recorded) :
    (s.redrawn operations).entries.toList =
      (sinceCleared operations).flatMap fun r => r.alone s := by
  induction operations using List.reverseRecOn with
  | nil => simp [redrawn, sinceCleared, empty]
  | append_singleton operations r ih =>
    rw [redrawn_concat, sinceCleared]
    cases operation : r.operation with
    | figure f =>
      rw [List.rtakeWhile_concat_pos _ _ _ (by simp [operation]), entries_onto_figure operation, ih,
        alone_redrawn]
      simp [sinceCleared]
    | clear =>
      rw [List.rtakeWhile_concat_neg _ _ _ (by simp [operation])]
      rw [← redrawn_medium s operations] at erases
      simp only [Recorded.onto, operation, clear, dyed, erases _ _]
      rfl

end Surface

end Plotter
