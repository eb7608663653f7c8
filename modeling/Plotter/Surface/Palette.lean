import Plotter.Surface.Color

/-!
# Palettes

The colours and the line width in effect on a surface.  They are kept as they were given.  The
line colour and the background are colours; only the fill colour can also be `false`, which makes
the brush transparent.
-/

namespace Plotter

structure Palette where
  line : Value := .text "black".toList
  fill : Value := .text "black".toList
  background : Value := .text "darkgray".toList
  lineWidth : Value := .int 1

namespace Palette

/-- A line width is a positive number. -/
def isLineWidth : Value → Bool
  | .int n => 0 < n
  | .float x => !(x ≤ 0.0)
  | _ => false

/-- The values that a property takes. -/
def accepts : Property → Value → Bool
  | .lineColor, v => Color.isColor v && !v.isFalse
  | .fillColor, v => Color.isColor v
  | .background, v => Color.isColor v && !v.isFalse
  | .lineWidth, v => isLineWidth v

def get (p : Palette) : Property → Value
  | .lineColor => p.line
  | .fillColor => p.fill
  | .background => p.background
  | .lineWidth => p.lineWidth

def put (p : Palette) : Property → Value → Palette
  | .lineColor, v => { p with line := v }
  | .fillColor, v => { p with fill := v }
  | .background, v => { p with background := v }
  | .lineWidth, v => { p with lineWidth := v }

/-- Sets a property, unless it does not take the value. -/
def set (p : Palette) (property : Property) (v : Value) : Except Failure Palette :=
  if accepts property v then .ok (p.put property v) else .error (.rejected property v)

end Palette

end Plotter
