import Plotter.Proofs.Machine.Commands

/-!
# Brushes

The host gives a surface any colour for its areas, or `false`, which makes the brush transparent.
Lines of a script give it no other colour than that of a pen, and leave a transparent brush alone.

Before a shape is filled the machine asks whether the brush counts as present, and of the values that
a surface takes not only the transparent one does not.  The index zero, which stands for black, is
absent as well, so nothing is filled with it.

## Main result

`shapes_filled_with_present_brush`: when a shape is filled and when it is only outlined, at any place
in the course of a line, and that no line makes a brush transparent or takes this from it.

## Proof strategy

A move changes the brush only to the colour of a pen, and only if it was not transparent
(`Move.brush`), so both facts about the brush hold in the whole course of a line.  What a shape
command draws is known once it is carried out (`Task.drawn_of_done`).
-/

namespace Plotter

/-- The colours that count as present are all but two. -/
theorem Value.isPresent_iff_of_isColor {v : Value} (color : Color.isColor v = true) :
    v.isPresent = true ↔ v ≠ .bool false ∧ v ≠ .int 0 := by
  cases v with
  | bool b =>
    obtain rfl : b = false := by simpa [Color.isColor] using color
    simp [isPresent]
  | int n => simp [isPresent]
  | text name =>
    -- The empty text names no colour.
    have nonempty : name ≠ [] := by
      rintro rfl
      revert color
      decide
    simp [isPresent, nonempty]
  | list items =>
    have nonempty : items ≠ [] := by
      rintro rfl
      cases color
    simp [isPresent, nonempty]
  | null | float | map | other => cases color

theorem PenColor.isColor_word (color : PenColor) : Color.isColor (.text color.word) = true := by
  cases color <;> decide

namespace Machine

variable {ε : Type} {fits : Line → Prop} {m m' : Machine ε} {settings : Settings}

/-! ### What lines do to the brush -/

/-- The brush of the surface. -/
def brush (m : Machine ε) : Value := m.surface.palette.fill

theorem takeColor_brush (m : Machine ε) (color : PenColor) :
    (m.takeColor color).brush = if m.brush.isFalse then m.brush else .text color.word := by
  have kept : (m.surface.put .lineColor (.text color.word)).palette.fill = m.brush := rfl
  show (m.takeColor color).surface.palette.fill = _
  simp only [takeColor_surface, kept]
  split
  · exact kept
  · rfl

/-- A brush is kept, or it gives way to the colour of a pen, which a transparent one does not. -/
theorem Move.brush (move : Move fits m m') :
    m'.brush = m.brush ∨ m.brush.isFalse = false ∧ ∃ color : PenColor, m'.brush = .text color.word := by
  cases move with
  | color color =>
    rw [takeColor_brush]
    split
    · exact Or.inl rfl
    next opaque_ => exact Or.inr ⟨Bool.eq_false_iff.mpr opaque_, color, rfl⟩
  | _ => exact Or.inl rfl

/-- The brush is a colour, and it is or it is not transparent. -/
structure Brushed (transparent : Bool) (m : Machine ε) : Prop where
  color : Color.isColor m.brush = true
  isFalse : m.brush.isFalse = transparent

theorem guarded_brushed (transparent : Bool) :
    Guarded (fun _ => True) (Brushed transparent : Machine ε → Prop) where
  kept brushed move := by
    rcases move.brush with same | ⟨opaque_, color, changed⟩
    · exact ⟨same ▸ brushed.color, same ▸ brushed.isFalse⟩
    · rw [brushed.isFalse] at opaque_
      subst opaque_
      exact ⟨changed ▸ color.isColor_word, changed ▸ rfl⟩
  expands _ _ _ _ _ _ := trivial
  collected _ _ _ _ := trivial

theorem Brushed.feedLine {transparent : Bool} (brushed : m.Brushed transparent)
    (settings : Settings) (line : Line) :
    (Machine.feedLine settings line m).1.Brushed transparent := by
  have taken : (take settings line m).machine.Brushed transparent :=
    (guarded_brushed transparent).step _ _ trivial {} brushed
  unfold Machine.feedLine settled
  split
  · exact taken
  · exact ⟨taken.color, taken.isFalse⟩
  · exact taken

/-! ### Sessions -/

/-- The machines of a host that feeds lines and sets properties of the surface in between, among
them the brush.  A value that is rejected changes nothing. -/
inductive Session (settings : Settings) : Machine ε → Prop
  | created (surface : Surface ε) (color : Color.isColor surface.palette.fill = true) :
      Session settings (create settings surface)
  | set {m : Machine ε} (earlier : Session settings m) (property : Property) (v : Value) :
      Session settings (m.setProperty property v).machine
  | fed {m : Machine ε} {line : Line} (earlier : Session settings m) (tidy : line.Tidy) :
      Session settings (feedLine settings line m).1

namespace Session

theorem reachable (session : Session settings m) : Reachable settings m := by
  induction session with
  | created surface _ => exact .created surface
  | set _ property v ih => exact .set ih property v
  | fed _ tidy ih => exact .line ih tidy

theorem brushed (session : Session settings m) : m.Brushed m.brush.isFalse := by
  induction session with
  | created surface color =>
    refine ⟨?_, rfl⟩
    rw [create, reset, takeColor_brush]
    split
    · exact color
    · exact settings.penColor.isColor_word
  | @set m _ property v ih =>
    refine ⟨?_, rfl⟩
    rw [setProperty_eq]
    split
    next accepted =>
      cases property with
      | fillColor => exact accepted
      | _ => exact ih.color
    · exact ih.color
  | fed _ _ ih => exact ⟨(ih.feedLine settings _).color, rfl⟩

end Session

/-! ### Shapes and brushes -/

theorem brush_eq_false_iff {transparent : Bool} (brushed : m.Brushed transparent) :
    m.brush = .bool false ↔ transparent = true := by
  rw [← brushed.isFalse, Value.isFalse_iff]

/-- In a session, a rectangle, a circle or a triangle that is drawn in the course of a line is
outlined in the colour of the pen.  It is filled right before that if the fill mode is on and the
brush at that place is neither transparent nor the index zero.  A brush is transparent at every place
in the course of a line, and after it, exactly if it was transparent before the line. -/
theorem shapes_filled_with_present_brush (session : Session settings m) {line : Line}
    (tidy : line.Tidy) :
    (∀ {t : Task ε} {primitive : Primitive} {arguments : List Text},
      Task.Within settings { line := line, machine := m } t → t.Executed →
      t.machine.state.gateOpen = true →
      Statement.classify t.line.text = .ok (.command primitive arguments) →
      Command.drawsShape primitive = true → (t.outcome settings).stop = none →
      ∃ values shape filled,
        Command.shapeAt t.machine.state.pen.position primitive values = .ok shape ∧
        (filled = true ↔ t.machine.state.pen.fill = true ∧ t.machine.brush ≠ .bool false ∧
          t.machine.brush ≠ .int 0) ∧
        (t.outcome settings).machine.surface =
          (t.machine.surface.put .lineColor (.text t.machine.state.pen.color)).drawn
            (shape.figures filled)) ∧
    (∀ {t : Task ε}, Task.Within settings { line := line, machine := m } t →
      (t.machine.brush = .bool false ↔ m.brush = .bool false) ∧
      ((t.outcome settings).machine.brush = .bool false ↔ m.brush = .bool false)) ∧
    ((feedLine settings line m).1.brush = .bool false ↔ m.brush = .bool false) := by
  have course {t : Task ε} (within : Task.Within settings { line := line, machine := m } t) :=
    Task.guarded_within (guarded_brushed m.brush.isFalse) trivial session.brushed within
  refine ⟨?_, fun within => ?_, ?_⟩
  · intro t primitive arguments within executed gate read draws done
    have valid := (Task.fits_within guarded_valid tidy session.reachable.valid within).2
    obtain ⟨_, values, shape, _, _, made, drawn⟩ :=
      Task.drawn_of_done executed gate valid.names read draws done
    refine ⟨values, shape, t.machine.fillsShapes, made, ?_, drawn⟩
    rw [fillsShapes, Bool.and_eq_true, ← Value.isPresent_iff_of_isColor (course within).1.color]
    rfl
  · rw [brush_eq_false_iff (course within).1, brush_eq_false_iff (course within).2,
      Value.isFalse_iff]
    exact ⟨Iff.rfl, Iff.rfl⟩
  · rw [brush_eq_false_iff (session.brushed.feedLine settings line), Value.isFalse_iff]

/-- A circle with a brush that the host has set, and one with a transparent brush. -/
theorem shapes_filled_with_present_brush_of_circle :
    let brushed (v : Value) := ((create {} Recording.surface).setProperty .fillColor v).machine
    let line : Line := .ofString "circle 4".toList
    let drawn : Task Recorded := { line := line, machine := brushed (.int 2) }
    (∃ values shape,
      Command.shapeAt drawn.machine.state.pen.position .circle values = .ok shape ∧
      (drawn.outcome {}).machine.surface =
        (drawn.machine.surface.put .lineColor (.text drawn.machine.state.pen.color)).drawn
          [.fill shape, .outline shape]) ∧
    (feedLine {} line (brushed (.bool false))).1.brush = .bool false := by
  intro brushed line drawn
  have session (v : Value) : Session {} (brushed v) :=
    .set (.created Recording.surface (by decide)) .fillColor v
  have tidy : line.Tidy := by decide
  constructor
  · obtain ⟨values, shape, filled, made, fills, surface⟩ :=
      (shapes_filled_with_present_brush (session (.int 2)) tidy).1 (t := drawn)
        .refl (Or.inr rfl) rfl
        (show Statement.classify line.text = .ok (.command .circle ["4".toList]) from rfl) rfl
        (by decide +kernel)
    obtain rfl : filled = true := fills.mpr ⟨rfl, nofun, nofun⟩
    exact ⟨values, shape, made, surface⟩
  · exact (shapes_filled_with_present_brush (session (.bool false)) tidy).2.2.mpr rfl

/-- The index zero is a colour like the others, and the brush is not transparent, but the shape is
only outlined. -/
theorem outlined_with_index_zero :
    let m := ((create {} Recording.surface).setProperty .fillColor (.int 0)).machine
    let line : Line := .ofString "rectangle 2 3".toList
    let shape : Shape := .rectangle [0, 0] 2 3
    Session {} m ∧ line.Tidy ∧ m.state.pen.fill = true ∧ m.brush ≠ .bool false ∧
      (feedLine {} line m).2 = none ∧
      (feedLine {} line m).1.surface.entries.toList.map Recorded.operation =
        [.figure (.outline shape)] := by
  intro m line shape
  have session : Session {} m := .set (.created Recording.surface (by decide)) .fillColor (.int 0)
  exact ⟨session, by decide, rfl, nofun, rfl, rfl⟩

end Machine

end Plotter
