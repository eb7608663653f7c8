import Plotter.Surface.Basic

/-!
# Recording

The recording surface keeps every operation as it was asked for, with the two colours in effect.
Clearing is an operation like the others, so nothing is ever lost, and nothing can fail.
-/

namespace Plotter

structure Recorded where
  operation : Operation
  line : Value
  fill : Value

namespace Recording

def medium : Medium Recorded where
  draw palette f := .entry ⟨.figure f, palette.line, palette.fill⟩
  clear palette entries := entries.push ⟨.clear, palette.line, palette.fill⟩

def surface : Surface Recorded := { medium := medium }

def description (s : Surface Recorded) : Text :=
  "an instance of recordDraw with ".toList ++ Text.ofNat s.entries.size
    ++ " operation(s)".toList

/-- The name of a recorded operation. -/
def name : Operation → Text
  | .figure (.line ..) => "draw_line".toList
  | .figure (.outline (.rectangle ..)) => "draw_rectangle".toList
  | .figure (.outline (.ellipse ..)) => "draw_ellipse".toList
  | .figure (.outline (.polygon _)) => "draw_polygon".toList
  | .figure (.fill (.rectangle ..)) => "fill_rectangle".toList
  | .figure (.fill (.ellipse ..)) => "fill_ellipse".toList
  | .figure (.fill (.polygon _)) => "fill_polygon".toList
  | .clear => "clear".toList

end Recording

end Plotter
