import Plotter.Surface.Basic

/-!
# Windows

The drawing in a window is a display list that is turned into shapes when the window opens.  A
window has its origin at the bottom left, so every point is flipped on its way into the list.
Lines are kept as lines; filled rectangles and ellipses are shapes of their own.  A transparent
brush fills nothing.
-/

namespace Plotter

/-- The geometry of an item, in the coordinates of the window. -/
inductive Geometry where
  | line (start stop : Point)
  | rectangle (x y width height : Number)
  | ellipse (x y halfWidth halfHeight : Number)
  | polygon (points : List Point)
  deriving DecidableEq, Repr

structure Item where
  geometry : Geometry
  color : Triple Value

def Point.value (p : Point) : Value := .list (p.map .ofNumber)

/-- The kind of a geometry. -/
def Geometry.kind : Geometry → Text
  | .line .. => "line".toList
  | .rectangle .. => "rectangle".toList
  | .ellipse .. => "ellipse".toList
  | .polygon _ => "polygon".toList

/-- The points or numbers of a geometry. -/
def Geometry.value : Geometry → Value
  | .line start stop => .list [start.value, stop.value]
  | .rectangle x y width height => .list ([x, y, width, height].map .ofNumber)
  | .ellipse x y halfWidth halfHeight => .list ([x, y, halfWidth, halfHeight].map .ofNumber)
  | .polygon points => .list (points.map Point.value)

/-- An item as a host sees it. -/
def Item.value (item : Item) : Value :=
  .list [.text item.geometry.kind, item.geometry.value, .list item.color.toList]

/-- What a program asks of the windowing system. -/
inductive WindowCall where
  | window (width height : Value) (caption : Text)
  | shape (item : Item)
  | clearColor (color : Triple Float)
  | clear
  | draw
  | close

/-- A window: its size and its caption. -/
structure Frame where
  width : Value := .int 640
  height : Value := .int 480
  caption : Text

namespace Window

def heightOf (frame : Frame) : Number := (frame.height.number?).getD 0

/-- The number of units above the bottom of the window. -/
def flipY (frame : Frame) (y : Number) : Except Failure Number :=
  inRange ((heightOf frame).sub? y)

def flip (frame : Frame) (p : Point) : Except Failure Point := do
  let x ← Point.x p
  let y ← Point.y p
  return [x, ← flipY frame y]

def item (geometry : Geometry) (color : Value) : Except Failure Item := do
  return ⟨geometry, ← Color.components color⟩

def line (frame : Frame) (color : Value) (start stop : Point) : Rendering Item :=
  .ofExcept do item (.line (← flip frame start) (← flip frame stop)) color

/-- The filled form of a shape. -/
def filled (frame : Frame) (color : Value) : Shape → Except Failure Item
  | .polygon points => do item (.polygon (← points.mapM (flip frame))) color
  | .rectangle corner width height => do
    let x ← Point.x corner
    let y ← Point.y corner
    let bottom ← inRange (y.add? height)
    item (.rectangle x (← flipY frame bottom) width height) color
  | .ellipse corner width height => do
    let center ← boxCenter corner width height
    let y ← flipY frame (.real center.2)
    let halfWidth ← inRange width.half?
    let halfHeight ← inRange height.half?
    item (.ellipse (.real center.1) y (.real halfWidth) (.real halfHeight)) color

def draw (frame : Frame) (palette : Palette) : Figure → Rendering Item
  | .fill shape =>
    if palette.fill.isFalse then {} else .ofExcept (filled frame palette.fill shape)
  | f => drawFromVertices (line frame palette.line) (fun _ => {}) f

def medium (frame : Frame) : Medium Item where
  draw := draw frame
  clear _ _ := #[]

def surface (frame : Frame) : Surface Item := { medium := medium frame }

def description (frame : Frame) : Text :=
  "an instance of pygletDraw (".toList ++ frame.width.plain ++ "x".toList ++ frame.height.plain
    ++ ")".toList

/-- The shapes of the display list. -/
def shapes (s : Surface Item) : List WindowCall := s.entries.toList.map .shape

/-- Opens the window and leaves it to the windowing system, which draws it once and closes it. -/
def display (frame : Frame) (s : Surface Item) :
    List WindowCall × List Note × Option Failure :=
  let opened := .window frame.width frame.height frame.caption
  match Color.fractions s.palette.background with
  | .error f => ([opened], [], some f)
  | .ok background =>
    (opened :: shapes s ++ [.clearColor background, .clear, .draw, .close],
      [.built s.entries.size], none)

end Window

end Plotter
