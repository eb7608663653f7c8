import Plotter.Failure

/-!
# Figures

What a surface is asked to draw: a line, or a shape outlined or filled.  The origin is at the top
left and `y` grows downwards; a rectangle and an ellipse are given by the top left corner of the
box around them and its size.

A surface without shapes of its own draws them from their vertices.  An ellipse is approximated
by a polygon.  The script commands always give two coordinates to a point; a host may give any
number, and a point that lacks one of them cannot be drawn.
-/

namespace Plotter

abbrev Point := List Number

inductive Shape where
  | rectangle (corner : Point) (width height : Number)
  | ellipse (corner : Point) (width height : Number)
  | polygon (points : List Point)
  deriving DecidableEq, Repr

inductive Figure where
  | line (start stop : Point)
  | outline (shape : Shape)
  | fill (shape : Shape)
  deriving DecidableEq, Repr

/-- A figure, or the request to start afresh. -/
inductive Operation where
  | figure (f : Figure)
  | clear
  deriving DecidableEq, Repr

namespace Point

def ofInts (x y : Int) : Point := [.whole x, .whole y]

def x (p : Point) : Except Failure Number :=
  match p[0]? with
  | some value => .ok value
  | none => .error .missingItem

def y (p : Point) : Except Failure Number :=
  match p[1]? with
  | some value => .ok value
  | none => .error .missingItem

end Point

/-- The result of an operation that is undefined on numbers too large for a double. -/
def inRange {α : Type} : Option α → Except Failure α
  | some value => .ok value
  | none => .error .tooLarge

/-- The vertices of a rectangle, clockwise from the corner. -/
def rectanglePoints (corner : Point) (width height : Number) : Except Failure (List Point) := do
  let x ← Point.x corner
  let y ← Point.y corner
  let right ← inRange (x.add? width)
  let bottom ← inRange (y.add? height)
  return [[x, y], [right, y], [right, bottom], [x, bottom]]

/-- The centre of the box at a corner. -/
def boxCenter (corner : Point) (width height : Number) : Except Failure (Float × Float) := do
  let x ← Point.x corner
  let halfWidth ← inRange width.half?
  let left ← inRange x.toFloat?
  let y ← Point.y corner
  let halfHeight ← inRange height.half?
  let top ← inRange y.toFloat?
  return (left + halfWidth, top + halfHeight)

def turn : Float := 2.0 * 3.141592653589793

/-- The point of an ellipse at a given part of the way round. -/
def ellipsePoint (center : Float × Float) (halfWidth halfHeight : Float)
    (part whole : Nat) : Point :=
  let angle := turn * part.toFloat / whole.toFloat
  [.real (center.1 + halfWidth * angle.cos), .real (center.2 + halfHeight * angle.sin)]

/-- The vertices of the polygon that approximates an ellipse, from the rightmost one. -/
def ellipsePoints (corner : Point) (width height : Number) (segments : Nat) :
    Except Failure (List Point) := do
  let center ← boxCenter corner width height
  let halfWidth ← inRange width.half?
  let halfHeight ← inRange height.half?
  return (List.range segments).map fun part =>
    ellipsePoint center halfWidth halfHeight part segments

def defaultSegments : Nat := 64

/-- The vertices from which a shape is drawn. -/
def Shape.vertices : Shape → Except Failure (List Point)
  | .rectangle corner width height => rectanglePoints corner width height
  | .ellipse corner width height => ellipsePoints corner width height defaultSegments
  | .polygon points => .ok points

/-- The edges of a closed polygon that comes back to the given first vertex. -/
def edgesTo (first : Point) : List Point → List (Point × Point)
  | [] => []
  | [last] => [(last, first)]
  | p :: q :: rest => (p, q) :: edgesTo first (q :: rest)

/-- The edges of a closed polygon. -/
def edges : List Point → List (Point × Point)
  | [] => []
  | first :: rest => edgesTo first (first :: rest)

end Plotter
