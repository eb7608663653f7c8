import Plotter.Surface.Basic

/-!
# Drafting

A drawing file has entities in which `y` grows upwards, so `y` is negated on the way in.  Lines,
polygons and ellipses have entities of their own with coordinates in doubles; a filled area is a
hatch.  The path of a hatch keeps whole numbers.  An ellipse without extent is drawn as a line.

The coordinates of a polygon are converted one after another when the entity already exists: if
one of them is too large, the entity stays with the points before it, open.
-/

namespace Plotter

/-- The ellipse of an entity: centre, half of the longer axis, and the ratio of the axes. -/
structure EllipseArc where
  center : Float × Float
  axis : Float × Float
  ratio : Float

inductive HatchPath where
  | polygon (points : List (Number × Number))
  | ellipse (arc : EllipseArc)

inductive Entity where
  | line (color : Nat) (start stop : Float × Float)
  | polyline (color : Nat) (points : List (Float × Float)) (closed : Bool)
  | ellipse (color : Nat) (arc : EllipseArc)
  | hatch (color : Nat) (path : HatchPath)

namespace Drafting

/-- The colour of what has no colour of its own. -/
def layerColor : Nat := 256

def fillColor (palette : Palette) : Except Failure Nat :=
  if palette.fill.isFalse then .ok layerColor else Color.index palette.fill

def flip (p : Point) : Except Failure (Number × Number) := do
  let x ← Point.x p
  let y ← Point.y p
  return (x, y.neg)

def toDoubles (p : Number × Number) : Except Failure (Float × Float) := do
  return (← inRange p.1.toFloat?, ← inRange p.2.toFloat?)

def line (palette : Palette) (start stop : Point) : Rendering Entity :=
  .ofExcept do
    let first ← flip start
    let last ← flip stop
    let color ← Color.index palette.line
    return .line color (← toDoubles first) (← toDoubles last)

/-- The points that fit into doubles, up to the first that does not. -/
def leadingDoubles : List (Number × Number) → List (Float × Float)
  | [] => []
  | p :: rest =>
    match toDoubles p with
    | .ok q => q :: leadingDoubles rest
    | .error _ => []

/-- A closed polygon. -/
def polyline (palette : Palette) (points : List Point) : Rendering Entity :=
  .withValue (points.mapM flip) fun flipped =>
    .withValue (Color.index palette.line) fun color =>
      match flipped.mapM toDoubles with
      | .ok doubles => .entry (.polyline color doubles true)
      | .error f =>
        { entries := [.polyline color (leadingDoubles flipped) false], failure := some f }

/-- The area of a polygon.  The hatch exists before its path. -/
def area (palette : Palette) (points : List Point) : Rendering Entity :=
  .withValue (fillColor palette) fun color =>
    match points.mapM flip with
    | .ok flipped => .entry (.hatch color (.polygon flipped))
    | .error f => { entries := [.hatch color (.polygon [])], failure := some f }

/-- The ellipse in a box with an extent. -/
def arc (corner : Point) (width height : Number) : Except Failure EllipseArc := do
  let center ← boxCenter corner width height
  if width.atLeast height then
    return ⟨(center.1, -center.2), (← inRange width.half?, 0.0), ← inRange (height.div? width)⟩
  else
    return ⟨(center.1, -center.2), (0.0, ← inRange height.half?), ← inRange (width.div? height)⟩

def hasExtent (width height : Number) : Bool := width.isPositive && height.isPositive

/-- The line to which an ellipse without extent shrinks. -/
def flatEllipse (palette : Palette) (corner : Point) (width height : Number) :
    Rendering Entity :=
  .withValue (do
    let x ← Point.x corner
    let right ← inRange (x.add? width)
    let y ← Point.y corner
    let bottom ← inRange (y.add? height)
    return [right, bottom]) (line palette corner)

def outline (palette : Palette) : Shape → Rendering Entity
  | .polygon points => polyline palette points
  | .rectangle corner width height =>
    .withValue (rectanglePoints corner width height) (polyline palette)
  | .ellipse corner width height =>
    if hasExtent width height then
      .ofExcept do
        let shape ← arc corner width height
        return .ellipse (← Color.index palette.line) shape
    else flatEllipse palette corner width height

def fill (palette : Palette) : Shape → Rendering Entity
  | .polygon points => area palette points
  | .rectangle corner width height =>
    .withValue (rectanglePoints corner width height) (area palette)
  | .ellipse corner width height =>
    if hasExtent width height then
      .ofExcept do
        let shape ← arc corner width height
        return .hatch (← fillColor palette) (.ellipse shape)
    else {}

def medium : Medium Entity where
  draw palette
    | .line start stop => line palette start stop
    | .outline shape => outline palette shape
    | .fill shape => fill palette shape
  clear _ _ := #[]
  clearNotes count := [.clearing count]

def surface : Surface Entity := { medium := medium }

def description : Text := "an instance of ezdxfDraw".toList

def defaultFilename : Text := "penscript-out".toList

/-- A way to write entities into the bytes of a drawing file. -/
abbrev Writer := List Entity → List UInt8

/-- The name of the file that a drawing is written to. -/
def target (filename : Text) : Text := filename ++ ".dxf".toList

end Drafting

end Plotter
