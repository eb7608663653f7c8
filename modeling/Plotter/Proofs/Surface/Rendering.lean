import Mathlib.Data.List.Rotate
import Plotter.Proofs.Outcome
import Plotter.Proofs.Surface.Drawing
import Plotter.Surface.Drafting
import Plotter.Surface.Outline
import Plotter.Surface.Window

/-!
# What figures become

For the surfaces that do more than record, `Draws` says which entries stand for a figure: the edges
of a shape as lines, points flipped as far from the bottom of the window as they were from its top,
shapes of their own where a surface has them.

## Main results

`Outline.draw_eq_iff`, `Window.draw_eq_iff` and `Drafting.draw_eq_iff`: a figure becomes some
entries, without a failure and without a note, just when they stand for it.

## Proof strategy

A renderer is a sequence of computations that may fail, so it is read as the values that all of them
give (`bind_eq_ok_iff`).  The lines of an outline are drawn one after another, and an outline is
drawn when each of its lines is (`concat_map_eq_iff`).
-/

namespace Plotter

theorem edgesTo_cons (first p : Point) (later : List Point) :
    edgesTo first (p :: later) = (p :: later).zip (later ++ [first]) := by
  induction later generalizing p with
  | nil => rfl
  | cons q rest ih => rw [edgesTo, ih, List.cons_append, List.zip_cons_cons]

/-- The edges of a closed polygon lead from each vertex to the next, from the last to the first. -/
theorem edges_eq_zip (points : List Point) : edges points = points.zip (points.rotate 1) := by
  cases points with
  | nil => rfl
  | cons first rest => rw [edges, edgesTo_cons, List.rotate_cons_succ, List.rotate_zero]

theorem inRange_eq_ok_iff {α : Type} {o : Option α} {a : α} : inRange o = .ok a ↔ o = some a := by
  cases o <;> simp [inRange]

theorem forall₂_eq_iff {α β : Type} (f : α → β) {as : List α} {bs : List β} :
    List.Forall₂ (fun a b => f a = b) as bs ↔ as.map f = bs := by
  rw [← List.forall₂_map_left_iff (R := (· = ·)), List.forall₂_eq_eq_eq]

/-- Two relations between lists, one after the other, are a relation between their items. -/
theorem forall₂_comp_iff {α β γ : Type} {R : α → β → Prop} {S : β → γ → Prop} {as : List α}
    {cs : List γ} :
    List.Forall₂ (Relation.Comp R S) as cs ↔ ∃ bs, List.Forall₂ R as bs ∧ List.Forall₂ S bs cs := by
  constructor
  · intro related
    induction related with
    | nil => exact ⟨[], .nil, .nil⟩
    | cons here _ ih =>
      obtain ⟨b, first, second⟩ := here
      obtain ⟨bs, firsts, seconds⟩ := ih
      exact ⟨b :: bs, .cons first firsts, .cons second seconds⟩
  · rintro ⟨bs, firsts, seconds⟩
    induction firsts generalizing cs with
    | nil => cases seconds; exact .nil
    | cons first _ ih =>
      obtain _ | ⟨second, seconds⟩ := seconds
      exact .cons ⟨_, first, second⟩ (ih seconds)

namespace Rendering

variable {α ε : Type} {entries : List ε}

theorem ofExcept_eq_iff {made : Except Failure ε} :
    ofExcept made = { entries := entries } ↔ ∃ e, made = .ok e ∧ entries = [e] := by
  cases made <;> simp [ofExcept, entry, failed, eq_comm]

theorem withValue_eq_iff {value : Except Failure α} {render : α → Rendering ε} :
    withValue value render = { entries := entries } ↔
      ∃ a, value = .ok a ∧ render a = { entries := entries } := by
  cases value <;> simp [withValue, failed]

theorem append_eq_iff {first next : Rendering ε} :
    first ++ next = { entries := entries } ↔
      ∃ front back, first = { entries := front } ∧ next = { entries := back } ∧
        entries = front ++ back := by
  constructor
  · intro both
    cases failure : first.failure with
    | some f =>
      rw [append_eq_of_failed failure] at both
      rw [both] at failure
      cases failure
    | none =>
      rw [append_eq_of_unfailed failure] at both
      obtain ⟨drawn, noted, failed⟩ := Rendering.mk.inj both
      obtain ⟨before, after⟩ := List.append_eq_nil_iff.mp noted
      refine ⟨first.entries, next.entries, ?_, ?_, drawn.symm⟩
      · rw [← before, ← failure]
      · rw [← after, ← failed]
  · rintro ⟨front, back, rfl, rfl, rfl⟩
    rfl

/-- If every part is drawn as one entry, the parts are drawn as an entry for each. -/
theorem concat_map_eq_iff {draw : α → Rendering ε} {stands : α → ε → Prop}
    (single : ∀ a entries, draw a = { entries := entries } ↔ ∃ e, stands a e ∧ entries = [e])
    {parts : List α} :
    concat (parts.map draw) = { entries := entries } ↔ List.Forall₂ stands parts entries := by
  induction parts generalizing entries with
  | nil =>
    constructor
    · rintro ⟨⟩
      exact .nil
    · rintro ⟨⟩
      rfl
  | cons part rest ih =>
    rw [List.map_cons, concat, append_eq_iff]
    constructor
    · rintro ⟨_, _, here, there, rfl⟩
      obtain ⟨e, stands, rfl⟩ := (single part _).mp here
      exact .cons stands (ih.mp there)
    · rintro (_ | ⟨stands, there⟩)
      exact ⟨_, _, (single part _).mpr ⟨_, stands, rfl⟩, ih.mpr there, rfl⟩

end Rendering

section Vertices

variable {ε : Type} {entries : List ε}

/-- An outline is drawn when each of its edges is drawn as one entry. -/
theorem outline_eq_iff {line : Point → Point → Rendering ε} {stands : Point → Point → ε → Prop}
    (single : ∀ start stop entries,
      line start stop = { entries := entries } ↔ ∃ e, stands start stop e ∧ entries = [e])
    {shape : Shape} :
    Rendering.withValue shape.vertices (fun points =>
        Rendering.concat ((edges points).map fun edge => line edge.1 edge.2)) =
          { entries := entries } ↔
      ∃ points, shape.vertices = .ok points ∧
        List.Forall₂ (fun edge e => stands edge.1 edge.2 e) (points.zip (points.rotate 1))
          entries := by
  rw [Rendering.withValue_eq_iff]
  refine exists_congr fun points => and_congr_right fun _ => ?_
  have edge (edge : Point × Point) := single edge.1 edge.2
  rw [Rendering.concat_map_eq_iff edge, edges_eq_zip]

/-- The vertices of a rectangle are its corners, clockwise from the one that it is given by. -/
theorem rectanglePoints_eq_ok_iff {corner : Point} {width height : Number} {points : List Point} :
    rectanglePoints corner width height = .ok points ↔
      ∃ x, Point.x corner = .ok x ∧ ∃ y, Point.y corner = .ok y ∧
        ∃ right, x.add? width = some right ∧ ∃ bottom, y.add? height = some bottom ∧
          [[x, y], [right, y], [right, bottom], [x, bottom]] = points := by
  simp only [rectanglePoints, bind_eq_ok_iff, inRange_eq_ok_iff, pure_eq_ok_iff]

end Vertices

/-! ### Lines and areas -/

namespace Outline

/-- The entries that stand for a figure: its edges in the colour of lines, its area in the colour of
the brush. -/
inductive Draws (palette : Palette) : Figure → List Stroke → Prop
  | line (start stop : Point) :
      Draws palette (.line start stop) [.line start stop palette.line]
  | outline {shape : Shape} {points : List Point} (vertices : shape.vertices = .ok points) :
      Draws palette (.outline shape)
        ((points.zip (points.rotate 1)).map fun edge => .line edge.1 edge.2 palette.line)
  | fill {shape : Shape} {points : List Point} (vertices : shape.vertices = .ok points) :
      Draws palette (.fill shape) [.area points palette.fill]

theorem draw_eq_iff {palette : Palette} {f : Figure} {entries : List Stroke} :
    medium.draw palette f = { entries := entries } ↔ Draws palette f entries := by
  cases f with
  | line start stop =>
    constructor
    · rintro ⟨⟩
      exact .line start stop
    · rintro ⟨⟩
      rfl
  | outline shape =>
    have single (start stop : Point) (entries : List Stroke) :
        Rendering.entry (.line start stop palette.line) = { entries := entries } ↔
          ∃ e, .line start stop palette.line = e ∧ entries = [e] := by
      simp [Rendering.entry, eq_comm]
    refine (outline_eq_iff single).trans ⟨?_, ?_⟩
    · rintro ⟨points, vertices, drawn⟩
      rw [← (forall₂_eq_iff _).mp drawn]
      exact .outline vertices
    · rintro (_ | vertices)
      exact ⟨_, vertices, (forall₂_eq_iff _).mpr rfl⟩
  | fill shape =>
    refine Rendering.withValue_eq_iff.trans ⟨?_, ?_⟩
    · rintro ⟨points, vertices, ⟨⟩⟩
      exact .fill vertices
    · rintro (_ | _ | vertices)
      exact ⟨_, vertices, rfl⟩

end Outline

/-! ### Windows -/

namespace Window

variable {frame : Frame} {palette : Palette} {color : Value} {p q : Point}

/-- A point is as far above the bottom of the window as it was below the top. -/
def Flips (frame : Frame) (p q : Point) : Prop :=
  ∃ x, Point.x p = .ok x ∧ ∃ y, Point.y p = .ok y ∧
    ∃ up, (heightOf frame).sub? y = some up ∧ [x, up] = q

/-- The geometry of a filled shape.  A rectangle is given by its lower left corner, and an ellipse
by its centre and its half axes. -/
inductive Fills (frame : Frame) : Shape → Geometry → Prop
  | polygon {points flipped : List Point} (flips : List.Forall₂ (Flips frame) points flipped) :
      Fills frame (.polygon points) (.polygon flipped)
  | rectangle {corner : Point} {width height x y bottom up : Number} (left : Point.x corner = .ok x)
      (top : Point.y corner = .ok y) (lower : y.add? height = some bottom)
      (above : (heightOf frame).sub? bottom = some up) :
      Fills frame (.rectangle corner width height) (.rectangle x up width height)
  | ellipse {corner : Point} {width height up : Number} {center : Float × Float}
      {halfWidth halfHeight : Float} (middle : boxCenter corner width height = .ok center)
      (above : (heightOf frame).sub? (.real center.2) = some up)
      (across : width.half? = some halfWidth) (along : height.half? = some halfHeight) :
      Fills frame (.ellipse corner width height)
        (.ellipse (.real center.1) up (.real halfWidth) (.real halfHeight))

/-- The item that stands for a line. -/
def Lines (frame : Frame) (palette : Palette) (start stop : Point) (item : Item) : Prop :=
  ∃ p, Flips frame start p ∧ ∃ q, Flips frame stop q ∧
    ∃ color, Color.components palette.line = .ok color ∧ (⟨.line p q, color⟩ : Item) = item

/-- The items that stand for a figure.  Under a transparent brush no item stands for an area. -/
inductive Draws (frame : Frame) (palette : Palette) : Figure → List Item → Prop
  | line {start stop : Point} {item : Item} (lines : Lines frame palette start stop item) :
      Draws frame palette (.line start stop) [item]
  | outline {shape : Shape} {points : List Point} {items : List Item}
      (vertices : shape.vertices = .ok points)
      (lines : List.Forall₂ (fun edge item => Lines frame palette edge.1 edge.2 item)
        (points.zip (points.rotate 1)) items) : Draws frame palette (.outline shape) items
  | fill {shape : Shape} {geometry : Geometry} {color : Triple Value}
      (brush : palette.fill ≠ .bool false) (fills : Fills frame shape geometry)
      (colored : Color.components palette.fill = .ok color) :
      Draws frame palette (.fill shape) [⟨geometry, color⟩]
  | transparent (shape : Shape) (brush : palette.fill = .bool false) :
      Draws frame palette (.fill shape) []

theorem flip_eq_ok_iff : flip frame p = .ok q ↔ Flips frame p q := by
  simp only [flip, flipY, Flips, bind_eq_ok_iff, inRange_eq_ok_iff, pure_eq_ok_iff]

theorem item_eq_ok_iff {geometry : Geometry} {item : Item} :
    Window.item geometry color = .ok item ↔
      ∃ components, Color.components color = .ok components ∧
        (⟨geometry, components⟩ : Item) = item := by
  simp only [Window.item, bind_eq_ok_iff, pure_eq_ok_iff]

theorem filled_eq_ok_iff {shape : Shape} {item : Item} :
    filled frame color shape = .ok item ↔
      ∃ geometry, Fills frame shape geometry ∧
        ∃ components, Color.components color = .ok components ∧
          (⟨geometry, components⟩ : Item) = item := by
  cases shape with
  | polygon points =>
    simp only [filled, bind_eq_ok_iff, mapM_eq_ok_iff, flip_eq_ok_iff, item_eq_ok_iff]
    constructor
    · rintro ⟨flipped, flips, colored⟩
      exact ⟨_, .polygon flips, colored⟩
    · rintro ⟨_, ⟨flips⟩, colored⟩
      exact ⟨_, flips, colored⟩
  | rectangle corner width height =>
    simp only [filled, flipY, bind_eq_ok_iff, inRange_eq_ok_iff, item_eq_ok_iff]
    constructor
    · rintro ⟨x, left, y, top, bottom, lower, up, above, colored⟩
      exact ⟨_, .rectangle left top lower above, colored⟩
    · rintro ⟨_, _ | ⟨left, top, lower, above⟩, colored⟩
      exact ⟨_, left, _, top, _, lower, _, above, colored⟩
  | ellipse corner width height =>
    simp only [filled, flipY, bind_eq_ok_iff, inRange_eq_ok_iff, item_eq_ok_iff]
    constructor
    · rintro ⟨center, middle, up, above, halfWidth, across, halfHeight, along, colored⟩
      exact ⟨_, .ellipse middle above across along, colored⟩
    · rintro ⟨_, _ | _ | ⟨middle, above, across, along⟩, colored⟩
      exact ⟨_, middle, _, above, _, across, _, along, colored⟩

theorem line_eq_iff {start stop : Point} {items : List Item} :
    line frame palette.line start stop = { entries := items } ↔
      ∃ item, Lines frame palette start stop item ∧ items = [item] := by
  rw [line, Rendering.ofExcept_eq_iff]
  simp only [bind_eq_ok_iff, flip_eq_ok_iff, item_eq_ok_iff, Lines]

theorem draw_eq_iff {f : Figure} {items : List Item} :
    (medium frame).draw palette f = { entries := items } ↔ Draws frame palette f items := by
  cases f with
  | line start stop =>
    refine line_eq_iff.trans ⟨?_, ?_⟩
    · rintro ⟨item, lines, rfl⟩
      exact .line lines
    · rintro ⟨lines⟩
      exact ⟨_, lines, rfl⟩
  | outline shape =>
    have single (start stop : Point) (items : List Item) :
        line frame palette.line start stop = { entries := items } ↔
          ∃ item, Lines frame palette start stop item ∧ items = [item] := line_eq_iff
    refine (outline_eq_iff single).trans ⟨?_, ?_⟩
    · rintro ⟨points, vertices, lines⟩
      exact .outline vertices lines
    · rintro (_ | ⟨vertices, lines⟩)
      exact ⟨_, vertices, lines⟩
  | fill shape =>
    change (if palette.fill.isFalse then ({} : Rendering Item)
      else .ofExcept (filled frame palette.fill shape)) = _ ↔ _
    by_cases brush : palette.fill = .bool false
    · rw [if_pos (Value.isFalse_iff.mpr brush)]
      constructor
      · rintro ⟨⟩
        exact .transparent shape brush
      · intro draws
        cases draws with
        | fill colored => exact absurd brush colored
        | transparent => rfl
    · -- Another brush has a colour, and the shape becomes an item of its own.
      rw [if_neg (mt Value.isFalse_iff.mp brush), Rendering.ofExcept_eq_iff]
      constructor
      · rintro ⟨item, made, rfl⟩
        obtain ⟨geometry, fills, components, colored, rfl⟩ := filled_eq_ok_iff.mp made
        exact .fill brush fills colored
      · intro draws
        cases draws with
        | fill _ fills colored =>
          exact ⟨_, filled_eq_ok_iff.mpr ⟨_, fills, _, colored, rfl⟩, rfl⟩
        | transparent _ transparent => exact absurd transparent brush

end Window

/-! ### Drawing files -/

namespace Drafting

variable {palette : Palette} {corner p : Point} {width height : Number}

/-- A point with `y` growing upwards. -/
def Flips (p : Point) (q : Number × Number) : Prop :=
  ∃ x, Point.x p = .ok x ∧ ∃ y, Point.y p = .ok y ∧ (x, y.neg) = q

/-- The same point in doubles. -/
def Fits (p : Number × Number) (q : Float × Float) : Prop :=
  ∃ x, p.1.toFloat? = some x ∧ ∃ y, p.2.toFloat? = some y ∧ (x, y) = q

/-- The point of an entity that stands for a point of a figure. -/
def Plots : Point → Float × Float → Prop := Relation.Comp Flips Fits

/-- Shapes that have corners. -/
inductive Angular : Shape → Prop
  | polygon (points : List Point) : Angular (.polygon points)
  | rectangle (corner : Point) (width height : Number) : Angular (.rectangle corner width height)

/-- The ellipse that touches the sides of a box, given by its centre, half of its longer axis, and
the ratio of the shorter axis to that. -/
inductive Inscribed (corner : Point) (width height : Number) : EllipseArc → Prop
  | across {center : Float × Float} {half ratio : Float} (longer : width.atLeast height = true)
      (middle : boxCenter corner width height = .ok center) (halved : width.half? = some half)
      (divided : height.div? width = some ratio) :
      Inscribed corner width height ⟨(center.1, -center.2), (half, 0.0), ratio⟩
  | along {center : Float × Float} {half ratio : Float} (longer : width.atLeast height = false)
      (middle : boxCenter corner width height = .ok center) (halved : height.half? = some half)
      (divided : width.div? height = some ratio) :
      Inscribed corner width height ⟨(center.1, -center.2), (0.0, half), ratio⟩

/-- The colour of an area: a transparent brush leaves it to the layer. -/
inductive Fills (palette : Palette) : Nat → Prop
  | transparent (brush : palette.fill = .bool false) : Fills palette layerColor
  | colored {color : Nat} (brush : palette.fill ≠ .bool false)
      (index : Color.index palette.fill = .ok color) : Fills palette color

/-- The entities that stand for a figure.  An ellipse without extent is the line from the corner of
its box to the opposite corner, and has no area. -/
inductive Draws (palette : Palette) : Figure → List Entity → Prop
  | line {start stop : Point} {first last : Float × Float} {color : Nat}
      (starts : Plots start first) (stops : Plots stop last)
      (colored : Color.index palette.line = .ok color) :
      Draws palette (.line start stop) [.line color first last]
  | polyline {shape : Shape} {points : List Point} {plotted : List (Float × Float)} {color : Nat}
      (angular : Angular shape) (vertices : shape.vertices = .ok points)
      (plots : List.Forall₂ Plots points plotted) (colored : Color.index palette.line = .ok color) :
      Draws palette (.outline shape) [.polyline color plotted true]
  | ellipse {corner : Point} {width height : Number} {arc : EllipseArc} {color : Nat}
      (extent : hasExtent width height = true) (inscribed : Inscribed corner width height arc)
      (colored : Color.index palette.line = .ok color) :
      Draws palette (.outline (.ellipse corner width height)) [.ellipse color arc]
  | flat {corner right opposite below start : Point} {width height : Number}
      {first last : Float × Float} {color : Nat} (extent : hasExtent width height = false)
      (box : rectanglePoints corner width height = .ok [start, right, opposite, below])
      (starts : Plots corner first) (stops : Plots opposite last)
      (colored : Color.index palette.line = .ok color) :
      Draws palette (.outline (.ellipse corner width height)) [.line color first last]
  | hatch {shape : Shape} {points : List Point} {flipped : List (Number × Number)} {color : Nat}
      (angular : Angular shape) (vertices : shape.vertices = .ok points)
      (flips : List.Forall₂ Flips points flipped) (fills : Fills palette color) :
      Draws palette (.fill shape) [.hatch color (.polygon flipped)]
  | disc {corner : Point} {width height : Number} {arc : EllipseArc} {color : Nat}
      (extent : hasExtent width height = true) (inscribed : Inscribed corner width height arc)
      (fills : Fills palette color) :
      Draws palette (.fill (.ellipse corner width height)) [.hatch color (.ellipse arc)]
  | empty (corner : Point) {width height : Number} (extent : hasExtent width height = false) :
      Draws palette (.fill (.ellipse corner width height)) []

theorem flip_eq_ok_iff {q : Number × Number} : flip p = .ok q ↔ Flips p q := by
  simp only [flip, Flips, bind_eq_ok_iff, pure_eq_ok_iff]

theorem toDoubles_eq_ok_iff {p : Number × Number} {q : Float × Float} :
    toDoubles p = .ok q ↔ Fits p q := by
  simp only [toDoubles, Fits, bind_eq_ok_iff, inRange_eq_ok_iff, pure_eq_ok_iff]

theorem fillColor_eq_ok_iff {color : Nat} :
    fillColor palette = .ok color ↔ Fills palette color := by
  rw [fillColor]
  by_cases brush : palette.fill = .bool false
  · rw [if_pos (Value.isFalse_iff.mpr brush)]
    constructor
    · rintro ⟨⟩
      exact .transparent brush
    · intro fills
      cases fills with
      | transparent => rfl
      | colored colored => exact absurd brush colored
  · rw [if_neg (mt Value.isFalse_iff.mp brush)]
    constructor
    · exact .colored brush
    · intro fills
      cases fills with
      | transparent transparent => exact absurd transparent brush
      | colored _ index => exact index

theorem arc_eq_ok_iff {made : EllipseArc} :
    arc corner width height = .ok made ↔ Inscribed corner width height made := by
  cases longer : width.atLeast height with
  | true =>
    simp only [arc, longer, if_true, bind_eq_ok_iff, inRange_eq_ok_iff, pure_eq_ok_iff]
    constructor
    · rintro ⟨center, middle, half, halved, ratio, divided, rfl⟩
      exact .across longer middle halved divided
    · rintro (⟨_, middle, halved, divided⟩ | ⟨taller, _⟩)
      · exact ⟨_, middle, _, halved, _, divided, rfl⟩
      · rw [longer] at taller
        cases taller
  | false =>
    simp only [arc, longer, Bool.false_eq_true, if_false, bind_eq_ok_iff, inRange_eq_ok_iff,
      pure_eq_ok_iff]
    constructor
    · rintro ⟨center, middle, half, halved, ratio, divided, rfl⟩
      exact .along longer middle halved divided
    · rintro (⟨wider, _⟩ | ⟨_, middle, halved, divided⟩)
      · rw [longer] at wider
        cases wider
      · exact ⟨_, middle, _, halved, _, divided, rfl⟩

theorem line_eq_iff {start stop : Point} {entries : List Entity} :
    line palette start stop = { entries := entries } ↔
      ∃ first, Plots start first ∧ ∃ last, Plots stop last ∧
        ∃ color, Color.index palette.line = .ok color ∧ entries = [.line color first last] := by
  rw [line, Rendering.ofExcept_eq_iff]
  simp only [bind_eq_ok_iff, flip_eq_ok_iff, toDoubles_eq_ok_iff, pure_eq_ok_iff]
  constructor
  · rintro ⟨_, ⟨p, flips, q, flips', color, colored, first, fits, last, fits', rfl⟩, rfl⟩
    exact ⟨first, ⟨p, flips, fits⟩, last, ⟨q, flips', fits'⟩, color, colored, rfl⟩
  · rintro ⟨first, ⟨p, flips, fits⟩, last, ⟨q, flips', fits'⟩, color, colored, rfl⟩
    exact ⟨_, ⟨p, flips, q, flips', color, colored, first, fits, last, fits', rfl⟩, rfl⟩

theorem polyline_eq_iff {points : List Point} {entries : List Entity} :
    polyline palette points = { entries := entries } ↔
      ∃ plotted, List.Forall₂ Plots points plotted ∧
        ∃ color, Color.index palette.line = .ok color ∧
          entries = [.polyline color plotted true] := by
  -- All points are flipped before the first is converted, so two relations are composed.
  have fit {flipped : List (Number × Number)} {plotted : List (Float × Float)} :
      flipped.mapM toDoubles = .ok plotted ↔ List.Forall₂ Fits flipped plotted := by
    simp only [mapM_eq_ok_iff, toDoubles_eq_ok_iff]
  simp only [polyline, Rendering.withValue_eq_iff, mapM_eq_ok_iff, flip_eq_ok_iff]
  constructor
  · rintro ⟨flipped, flips, color, colored, drawn⟩
    split at drawn
    next plotted fits =>
      cases drawn
      exact ⟨plotted, forall₂_comp_iff.mpr ⟨flipped, flips, fit.mp fits⟩, color, colored, rfl⟩
    next => cases drawn
  · rintro ⟨plotted, plots, color, colored, rfl⟩
    obtain ⟨flipped, flips, fits⟩ := forall₂_comp_iff.mp plots
    refine ⟨flipped, flips, color, colored, ?_⟩
    rw [fit.mpr fits]
    rfl

theorem area_eq_iff {points : List Point} {entries : List Entity} :
    area palette points = { entries := entries } ↔
      ∃ color, Fills palette color ∧ ∃ flipped, List.Forall₂ Flips points flipped ∧
        entries = [.hatch color (.polygon flipped)] := by
  have flip {flipped : List (Number × Number)} :
      points.mapM flip = .ok flipped ↔ List.Forall₂ Flips points flipped := by
    simp only [mapM_eq_ok_iff, flip_eq_ok_iff]
  simp only [area, Rendering.withValue_eq_iff, fillColor_eq_ok_iff]
  refine exists_congr fun color => and_congr_right fun _ => ?_
  constructor
  · intro drawn
    split at drawn
    next flipped flips =>
      cases drawn
      exact ⟨flipped, flip.mp flips, rfl⟩
    next => cases drawn
  · rintro ⟨flipped, flips, rfl⟩
    rw [flip.mpr flips]
    rfl

/-- An ellipse without extent is drawn to the corner that lies opposite in its box. -/
theorem flatEllipse_eq_iff {entries : List Entity} :
    flatEllipse palette corner width height = { entries := entries } ↔
      ∃ start right opposite below,
        rectanglePoints corner width height = .ok [start, right, opposite, below] ∧
          line palette corner opposite = { entries := entries } := by
  simp only [flatEllipse, Rendering.withValue_eq_iff, rectanglePoints_eq_ok_iff, bind_eq_ok_iff,
    inRange_eq_ok_iff, pure_eq_ok_iff]
  constructor
  · rintro ⟨_, ⟨x, left, right, across, y, top, bottom, down, rfl⟩, drawn⟩
    exact ⟨_, _, _, _, ⟨x, left, y, top, right, across, bottom, down, rfl⟩, drawn⟩
  · rintro ⟨_, _, _, _, ⟨x, left, y, top, right, across, bottom, down, ⟨⟩⟩, drawn⟩
    exact ⟨_, ⟨x, left, right, across, y, top, bottom, down, rfl⟩, drawn⟩

theorem outline_eq_iff {shape : Shape} {entries : List Entity} :
    outline palette shape = { entries := entries } ↔ Draws palette (.outline shape) entries := by
  cases shape with
  | polygon points =>
    refine polyline_eq_iff.trans ⟨?_, ?_⟩
    · rintro ⟨plotted, plots, color, colored, rfl⟩
      exact .polyline (.polygon points) rfl plots colored
    · rintro (_ | ⟨_, ⟨⟩, plots, colored⟩)
      exact ⟨_, plots, _, colored, rfl⟩
  | rectangle corner width height =>
    refine Rendering.withValue_eq_iff.trans ⟨?_, ?_⟩
    · rintro ⟨points, vertices, drawn⟩
      obtain ⟨plotted, plots, color, colored, rfl⟩ := polyline_eq_iff.mp drawn
      exact .polyline (.rectangle corner width height) vertices plots colored
    · rintro (_ | ⟨_, vertices, plots, colored⟩)
      exact ⟨_, vertices, polyline_eq_iff.mpr ⟨_, plots, _, colored, rfl⟩⟩
  | ellipse corner width height =>
    rw [outline]
    cases extent : hasExtent width height with
    | true =>
      simp only [if_true, Rendering.ofExcept_eq_iff, bind_eq_ok_iff, arc_eq_ok_iff, pure_eq_ok_iff]
      constructor
      · rintro ⟨_, ⟨arc, inscribed, color, colored, rfl⟩, rfl⟩
        exact .ellipse extent inscribed colored
      · intro draws
        cases draws with
        | polyline angular => cases angular
        | ellipse _ inscribed colored => exact ⟨_, ⟨_, inscribed, _, colored, rfl⟩, rfl⟩
        | flat flat => cases extent.symm.trans flat
    | false =>
      simp only [Bool.false_eq_true, if_false, flatEllipse_eq_iff, line_eq_iff]
      constructor
      · rintro ⟨_, _, _, _, box, first, starts, last, stops, color, colored, rfl⟩
        exact .flat extent box starts stops colored
      · intro draws
        cases draws with
        | polyline angular => cases angular
        | ellipse round => cases extent.symm.trans round
        | flat _ box starts stops colored =>
          exact ⟨_, _, _, _, box, _, starts, _, stops, _, colored, rfl⟩

theorem fill_eq_iff {shape : Shape} {entries : List Entity} :
    fill palette shape = { entries := entries } ↔ Draws palette (.fill shape) entries := by
  cases shape with
  | polygon points =>
    refine area_eq_iff.trans ⟨?_, ?_⟩
    · rintro ⟨color, fills, flipped, flips, rfl⟩
      exact .hatch (.polygon points) rfl flips fills
    · intro draws
      cases draws with
      | hatch _ vertices flips fills =>
        cases vertices
        exact ⟨_, fills, _, flips, rfl⟩
  | rectangle corner width height =>
    refine Rendering.withValue_eq_iff.trans ⟨?_, ?_⟩
    · rintro ⟨points, vertices, drawn⟩
      obtain ⟨color, fills, flipped, flips, rfl⟩ := area_eq_iff.mp drawn
      exact .hatch (.rectangle corner width height) vertices flips fills
    · intro draws
      cases draws with
      | hatch _ vertices flips fills =>
        exact ⟨_, vertices, area_eq_iff.mpr ⟨_, fills, _, flips, rfl⟩⟩
  | ellipse corner width height =>
    rw [fill]
    cases extent : hasExtent width height with
    | true =>
      simp only [if_true, Rendering.ofExcept_eq_iff, bind_eq_ok_iff, arc_eq_ok_iff,
        fillColor_eq_ok_iff, pure_eq_ok_iff]
      constructor
      · rintro ⟨_, ⟨arc, inscribed, color, fills, rfl⟩, rfl⟩
        exact .disc extent inscribed fills
      · intro draws
        cases draws with
        | hatch angular => cases angular
        | disc _ inscribed fills => exact ⟨_, ⟨_, inscribed, _, fills, rfl⟩, rfl⟩
        | empty _ flat => cases extent.symm.trans flat
    | false =>
      constructor
      · rintro ⟨⟩
        exact .empty corner extent
      · intro draws
        cases draws with
        | hatch angular => cases angular
        | disc round => cases extent.symm.trans round
        | empty => rfl

theorem draw_eq_iff {f : Figure} {entries : List Entity} :
    medium.draw palette f = { entries := entries } ↔ Draws palette f entries := by
  cases f with
  | line start stop =>
    refine line_eq_iff.trans ⟨?_, ?_⟩
    · rintro ⟨first, starts, last, stops, color, colored, rfl⟩
      exact .line starts stops colored
    · intro draws
      cases draws with
      | line starts stops colored => exact ⟨_, starts, _, stops, _, colored, rfl⟩
  | outline shape => exact outline_eq_iff
  | fill shape => exact fill_eq_iff

end Drafting

end Plotter
