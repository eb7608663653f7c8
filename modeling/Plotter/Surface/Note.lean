import Plotter.Surface.Figure

/-!
# Notes of a surface

What a surface has to say while it works.  A surface that cannot draw says so at every request;
the others report only what happens to the drawing as a whole.
-/

namespace Plotter

inductive Note where
  | undrawnLine (start stop : Point)
  | undrawnFill (points : List Point)
  | undrawnClear
  | undrawnDisplay
  | clearing (entries : Nat)
  | wrote (filename : Text)
  | built (shapes : Nat)
  deriving DecidableEq, Repr

/-- A point in parentheses; a single coordinate keeps a comma. -/
def Point.text (p : Point) : Text :=
  match p with
  | [only] => '(' :: only.text ++ [',', ')']
  | coordinates => '(' :: Text.join ", ".toList (coordinates.map Number.text) ++ [')']

def pointsText (points : List Point) : Text :=
  '[' :: Text.join ", ".toList (points.map Point.text) ++ [']']

def Note.message : Note → Text
  | .undrawnLine start stop =>
    "pure virtual draw_line called: ".toList ++ start.text ++ ", ".toList ++ stop.text
  | .undrawnFill points => "pure virtual fill_polygon called: ".toList ++ pointsText points
  | .undrawnClear => "pure virtual clear called".toList
  | .undrawnDisplay => "pure virtual display function called".toList
  | .clearing entries => "clearing ".toList ++ Text.ofNat entries ++ " dxf entities".toList
  | .wrote filename => "wrote ".toList ++ filename
  | .built shapes => "built ".toList ++ Text.ofNat shapes ++ " shape(s)".toList

end Plotter
