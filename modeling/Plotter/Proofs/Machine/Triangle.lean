import Plotter.Proofs.Machine.Commands
import Plotter.Proofs.Number.Halving

/-!
# Triangles

A triangle is given by its corners, or by its width, its height and the right corner of its base.
The second form is worked out with a half that goes through a double.  Up to a width of `2 ^ 53` the
half is exact, so the two forms draw the same, wherever the line is run.

The numbers of a line have to be read first.  The corners may have one digit more than the numbers
that they are worked out from, and the other way round, so a triangle that one form can draw may be
too large for the other.

## Main result

`derived_triangle_is_exact`: the corners, and what a line in the second form comes to.
-/

namespace Plotter

namespace Command

variable {w h x y : Int}

/-- The corners of the triangle with a size, one coordinate after the other. -/
def corners (w h x y : Int) : List Int := [x - w, y, x, y, x - w.tdiv 2, y - h]

theorem triangleVertices_of_size (narrow : w.natAbs ≤ 2 ^ 53) :
    triangleVertices [w, h, x, y] = .ok [(x - w, y), (x, y), (x - w.tdiv 2, y - h)] := by
  simp [triangleVertices, truncatedHalf_eq_tdiv narrow]

theorem writable_of_narrow (narrow : w.natAbs ≤ 2 ^ 53) : Text.Writable w :=
  Text.writable_of_lt_pow (Nat.lt_of_le_of_lt narrow (by decide))
    (show 16 ≤ Text.maxDigits by decide)

/-- Both forms pass the check of a triangle. -/
theorem check_triangle {values : List Int} (count : values.length = 4 ∨ values.length = 6) :
    Primitive.triangle.check Primitive.triangle.word (values.map Text.ofInt) = none := by
  have typed (word : Text) (position : Nat) (values : List Int) :
      Primitive.checkTypes word position (List.replicate values.length .integer)
        (values.map Text.ofInt) = none := by
    induction values generalizing position with
    | nil => rfl
    | cons v values ih =>
      simp [List.replicate_succ, Primitive.checkTypes, Text.isInteger_ofInt, ih]
  rcases count with four | six
  · have passed := typed Primitive.triangle.word 1 values
    rw [four] at passed
    simpa [Primitive.check, Primitive.shapes, four] using passed
  · have passed := typed Primitive.triangle.word 1 values
    rw [six] at passed
    simpa [Primitive.check, Primitive.shapes, six] using passed

end Command

namespace Machine

open Command

variable {ε : Type}

/-- The width, the height and the right corner of the base give the corners of the triangle, if
the width is at most `2 ^ 53`.  A line with these numbers draws the polygon with these corners, and
it does what the line with the corners does in its place.  If one of the numbers has too many
digits, the line fails for it and draws nothing. -/
theorem derived_triangle_is_exact {w h x y : Int} (narrow : w.natAbs ≤ 2 ^ 53) :
    let points := [(x - w, y), (x, y), (x - w.tdiv 2, y - h)]
    triangleVertices [w, h, x, y] = .ok points ∧
    ∀ {settings : Settings} {m : Machine ε} {line : Line} {t : Task ε} {word : Text},
      Reachable settings m → line.Tidy →
      Task.Within settings { line := line, machine := m } t →
      t.Executed → t.machine.state.gateOpen = true →
      t.line.words = word :: [w, h, x, y].map Text.ofInt →
      Keyword.ofWord? word = some (.command .triangle) →
      ((∀ v ∈ [h, x, y], Text.Writable v) →
        (t.outcome settings).Alike (t.machine.drawShape t.nesting
          (.polygon (points.map fun p => Point.ofInts p.1 p.2))) ∧
        ∀ {cornered : Line} {word' : Text}, cornered.Tidy →
          cornered.words = word' :: (corners w h x y).map Text.ofInt →
          Keyword.ofWord? word' = some (.command .triangle) →
          (∀ v ∈ corners w h x y, Text.Writable v) →
          (t.outcome settings).Alike (Task.outcome settings { t with line := cornered })) ∧
      ((¬ ∀ v ∈ [h, x, y], Text.Writable v) →
        (t.outcome settings).stop = some (.failure (.numeral .tooManyDigits)) ∧
          (t.outcome settings).machine.Alike t.machine) := by
  intro points
  refine ⟨triangleVertices_of_size narrow, ?_⟩
  intro settings m line t word reachable tidy within executed gate words found
  obtain ⟨tidyLine, valid⟩ := Task.fits_within guarded_valid tidy reachable.valid within
  have ran := Task.outcome_of_integers settings executed gate valid.names tidyLine
    words found rfl (check_triangle (Or.inl rfl))
  have all : (∀ v ∈ [w, h, x, y], Text.Writable v) ↔ ∀ v ∈ [h, x, y], Text.Writable v := by
    rw [List.forall_mem_cons, and_iff_right (writable_of_narrow narrow)]
  simp only [all] at ran
  constructor
  · intro short
    rw [if_pos short, shapeAt, triangleVertices_of_size narrow] at ran
    refine ⟨ran, fun {cornered word'} tidy' words' found' short' => ?_⟩
    have ran' := Task.outcome_of_integers settings (t := { t with line := cornered })
      executed gate valid.names tidy' words' found' rfl (check_triangle (Or.inr rfl))
    rw [if_pos short'] at ran'
    exact ran.common ran'
  · intro long
    rw [if_neg long] at ran
    exact ⟨ran.stop, ran.machine⟩

/-- A line with the given numbers. -/
private def triangleLine (values : List Int) : Line :=
  { text := Text.unwords (Primitive.triangle.word :: values.map Text.ofInt) }

private theorem visible_triangleLine (values : List Int) :
    ∀ w ∈ Primitive.triangle.word :: values.map Text.ofInt, w.isVisible = true := by
  refine List.forall_mem_cons.mpr ⟨by decide, fun w member => ?_⟩
  obtain ⟨v, _, rfl⟩ := List.mem_map.mp member
  exact Text.isVisible_ofInt v

private theorem words_triangleLine (values : List Int) :
    (triangleLine values).words = Primitive.triangle.word :: values.map Text.ofInt :=
  Line.words_of_unwords rfl (visible_triangleLine values)

private theorem tidy_triangleLine (values : List Int) : (triangleLine values).Tidy :=
  Line.tidy_of_unwords rfl (visible_triangleLine values) (List.cons_ne_nil _ _)

/-- The least integer that cannot be written. -/
private def tallest : Int := (Nat.pow 10 Text.maxDigits : Nat)

private theorem tallest_long : ¬ ∀ v ∈ [tallest, 0, 1], Text.Writable v := by
  intro short
  have writable := short tallest (List.mem_cons_self ..)
  rw [Text.Writable, tallest, Int.natAbs_natCast] at writable
  exact Nat.lt_irrefl _ writable

/-- The corner that is worked out from it is shorter. -/
private theorem corners_short : ∀ v ∈ corners 2 tallest 0 1, Text.Writable v := by
  have small {v : Int} (few : v.natAbs < Nat.pow 10 1) : Text.Writable v :=
    Text.writable_of_lt_pow few (by decide)
  have tall : Text.Writable (1 - tallest) := by
    have powers (digits : Nat) : 0 < Nat.pow 10 digits := Nat.pow_pos (by decide)
    have positive := powers Text.maxDigits
    rw [tallest, Text.Writable]
    generalize Nat.pow 10 Text.maxDigits = bound at positive
    omega
  have others : ∀ v ∈ [0 - 2, 1, 0, 1, 0 - Int.tdiv 2 2], Text.Writable v :=
    fun v member => small ((by decide : ∀ v ∈ [0 - 2, 1, 0, 1, 0 - Int.tdiv 2 2],
      v.natAbs < Nat.pow 10 1) v member)
  exact List.forall_mem_append.mpr ⟨others, List.forall_mem_singleton.mpr tall⟩

/-- An odd width to the left, and a height that is too long. -/
theorem derived_triangle_is_exact_for_odd_width :
    let m := create {} Recording.surface
    let fed (values : List Int) : Task Recorded := { line := triangleLine values, machine := m }
    triangleVertices [-7, 3, 5, 2] = .ok [(12, 2), (5, 2), (8, -1)] ∧
    ((fed [-7, 3, 5, 2]).outcome {}).Alike ((fed (corners (-7) 3 5 2)).outcome {}) ∧
    ((fed [2, tallest, 0, 1]).outcome {}).stop =
      some (.failure (.numeral .tooManyDigits)) := by
  intro m fed
  have reachable : Reachable {} m := .created Recording.surface
  have short {values : List Int} (few : ∀ v ∈ values, v.natAbs < Nat.pow 10 2) :
      ∀ v ∈ values, Text.Writable v :=
    fun v member => Text.writable_of_lt_pow (few v member) (by decide)
  obtain ⟨vertices, draws⟩ := derived_triangle_is_exact (ε := Recorded) (w := -7) (h := 3)
    (x := 5) (y := 2) (by decide)
  obtain ⟨_, fails⟩ := derived_triangle_is_exact (ε := Recorded) (w := 2) (h := tallest)
    (x := 0) (y := 1) (by decide)
  refine ⟨vertices, ?_, ?_⟩
  · exact ((draws (t := fed [-7, 3, 5, 2]) reachable (tidy_triangleLine _) .refl (Or.inr rfl) rfl
      (words_triangleLine _) (by decide)).1 (short (by decide))).2
      (tidy_triangleLine (corners (-7) 3 5 2)) (words_triangleLine _) (by decide)
      (short (by decide))
  · exact ((fails (t := fed [2, tallest, 0, 1]) reachable (tidy_triangleLine _) .refl (Or.inr rfl)
      rfl (words_triangleLine _) (by decide)).2 tallest_long).1

/-- A line with a width, a height and a corner draws nothing if the height is too long, while the
line with the corners of the triangle draws it. -/
theorem tall_triangle_only_by_corners :
    let m := create {} Recording.surface
    let sized := triangleLine [2, tallest, 0, 1]
    let cornered := triangleLine (corners 2 tallest 0 1)
    triangleVertices [2, tallest, 0, 1] = .ok [(-2, 1), (0, 1), (-1, 1 - tallest)] ∧
    (feedLine {} sized m).1.surface.entries.size = 0 ∧
    (feedLine {} cornered m).1.surface.entries.size = 2 := by
  intro m sized cornered
  have drawn (shape : Shape) : (m.drawShape {} shape).machine.surface.entries.size = 2 := rfl
  have ran (values : List Int) (count : values.length = 4 ∨ values.length = 6) :=
    Task.outcome_of_integers {} (t := { line := triangleLine values, machine := m }) (Or.inr rfl) rfl nofun
      (tidy_triangleLine values) (words_triangleLine values) (by decide) rfl (check_triangle count)
  refine ⟨triangleVertices_of_size (by decide), ?_, ?_⟩
  · have failed := ran [2, tallest, 0, 1] (Or.inl rfl)
    rw [if_neg fun short => tallest_long (List.forall_mem_cons.mp short).2] at failed
    rw [feedLine_eq_settled, (settled_of_alike failed.machine).2.2]
    rfl
  · have done := ran (corners 2 tallest 0 1) (Or.inr rfl)
    rw [if_pos corners_short] at done
    rw [feedLine_eq_settled, (settled_of_alike done.machine).2.2]
    exact drawn _

end Machine

end Plotter
