import Plotter.Surface.Note
import Plotter.Surface.Palette

/-!
# Surfaces

A surface is a palette and a list of entries of some type.  What an entry is and how a figure
becomes entries is the `Medium`: it depends on the palette and the figure alone, never on what
has been drawn before.  So a drawing is the concatenation of what its figures become one by one,
and two surfaces that agree on their palettes see the same figures whatever their media are.
-/

namespace Plotter

/-- What a figure becomes: entries, notes, and the failure that may have cut the drawing short.
The entries made before the failure stay. -/
structure Rendering (ε : Type) where
  entries : List ε := []
  notes : List Note := []
  failure : Option Failure := none

namespace Rendering

variable {ε : Type}

def entry (e : ε) : Rendering ε := { entries := [e] }

def note (n : Note) : Rendering ε := { notes := [n] }

def failed (f : Failure) : Rendering ε := { failure := some f }

/-- The rendering of what comes next, unless there was a failure. -/
def append (first next : Rendering ε) : Rendering ε :=
  match first.failure with
  | some _ => first
  | none =>
    { entries := first.entries ++ next.entries
      notes := first.notes ++ next.notes
      failure := next.failure }

instance : Append (Rendering ε) := ⟨append⟩

/-- The renderings one after another. -/
def concat : List (Rendering ε) → Rendering ε
  | [] => {}
  | first :: rest => first ++ concat rest

/-- A single entry that may not come about. -/
def ofExcept : Except Failure ε → Rendering ε
  | .ok e => entry e
  | .error f => failed f

/-- The rendering of a value that may not come about. -/
def withValue {α : Type} (value : Except Failure α) (render : α → Rendering ε) : Rendering ε :=
  match value with
  | .ok a => render a
  | .error f => failed f

end Rendering

/-- How a surface draws. -/
structure Medium (ε : Type) where
  /-- What a figure becomes under a palette. -/
  draw : Palette → Figure → Rendering ε
  /-- What is left of the entries when the drawing is cleared. -/
  clear : Palette → Array ε → Array ε
  /-- What the medium says when a drawing with so many entries is cleared. -/
  clearNotes : Nat → List Note := fun _ => []

/-- The rendering of shapes from their vertices, for a medium that draws lines and fills
polygons. -/
def drawFromVertices {ε : Type} (line : Point → Point → Rendering ε)
    (fill : List Point → Rendering ε) : Figure → Rendering ε
  | .line start stop => line start stop
  | .outline shape =>
    .withValue shape.vertices fun points =>
      .concat ((edges points).map fun edge => line edge.1 edge.2)
  | .fill shape => .withValue shape.vertices fill

structure Surface (ε : Type) where
  medium : Medium ε
  palette : Palette := {}
  entries : Array ε := #[]

namespace Surface

variable {ε : Type}

def put (s : Surface ε) (property : Property) (v : Value) : Surface ε :=
  { s with palette := s.palette.put property v }

def set (s : Surface ε) (property : Property) (v : Value) : Except Failure (Surface ε) :=
  (s.palette.set property v).map fun palette => { s with palette := palette }

/-- The surface after a figure, what it noted and why it may have stopped. -/
def draw (s : Surface ε) (f : Figure) : Surface ε × List Note × Option Failure :=
  let rendering := s.medium.draw s.palette f
  ({ s with entries := s.entries ++ rendering.entries }, rendering.notes, rendering.failure)

def clear (s : Surface ε) : Surface ε × List Note :=
  let count := s.entries.size
  ({ s with entries := s.medium.clear s.palette s.entries }, s.medium.clearNotes count)

end Surface

end Plotter
