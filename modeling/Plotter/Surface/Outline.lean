import Plotter.Surface.Basic

/-!
# Plain lines and areas

Two media that know nothing but lines and polygons: every shape is drawn from its vertices.
`Outline` keeps the lines and the areas.  `Blank` keeps nothing and notes every request.
-/

namespace Plotter

/-- An entry of a surface that draws lines and fills areas only. -/
inductive Stroke where
  | line (start stop : Point) (color : Value)
  | area (points : List Point) (color : Value)
  | cleared

namespace Outline

def medium : Medium Stroke where
  draw palette f :=
    drawFromVertices (fun start stop => .entry (.line start stop palette.line))
      (fun points => .entry (.area points palette.fill)) f
  clear _ entries := entries.push .cleared

def surface : Surface Stroke := { medium := medium }

end Outline

namespace Blank

def medium : Medium Empty where
  draw _ f :=
    drawFromVertices (fun start stop => .note (.undrawnLine start stop))
      (fun points => .note (.undrawnFill points)) f
  clear _ entries := entries
  clearNotes _ := [.undrawnClear]

def surface : Surface Empty := { medium := medium }

def description : Text := "an abstract Drawable instance".toList

end Blank

end Plotter
