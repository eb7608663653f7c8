import Plotter.Machine.Basic
import Plotter.Number.Rounding

/-!
# Drawing commands

What the drawing commands do to the pen and the surface.  A shape is filled first, when the fill
mode is on and the surface has a brush, and then outlined in the colour of the pen.  An unknown
colour or fill mode is noted and otherwise ignored.

The commands read their words as integers before they touch anything, so a command that cannot
read them has no effect.
-/

namespace Plotter

namespace Command

/-- Reads all words as integers. -/
def integers : List Text → Except Failure (List Int)
  | [] => .ok []
  | word :: rest =>
    match Text.readInteger word with
    | .error e => .error (.numeral e)
    | .ok value => (integers rest).map (value :: ·)

def pair : List Int → Except Failure (Int × Int)
  | [first, second] => .ok (first, second)
  | _ => .error .valueCount

def single : List Int → Except Failure Int
  | [only] => .ok only
  | _ => .error .valueCount

/-- The vertices of a triangle: three points, or width, height and the right corner of the base.
In the second form the apex stands half a width to the left of that corner and one height above
the base. -/
def triangleVertices : List Int → Except Failure (List (Int × Int))
  | [x1, y1, x2, y2, x3, y3] => .ok [(x1, y1), (x2, y2), (x3, y3)]
  | [width, height, x, y] =>
    match truncatedHalf width with
    | some half => .ok [(x - width, y), (x, y), (x - half, y - height)]
    | none => .error .tooLarge
  | values => .error (.triangleCount values.length)

/-- The fill mode that a word names. -/
def fillMode? (word : Text) : Option Bool :=
  if word = "on".toList then some true
  else if word = "off".toList then some false
  else none

end Command

namespace Machine

open Command

variable {ε : Type}

/-- Gives the surface the colour of the pen. -/
def applyPen (m : Machine ε) : Outcome ε :=
  m.setProperty .lineColor (.text m.state.pen.color)

/-- Shapes are filled when the fill mode is on and the surface has a brush. -/
def fillsShapes (m : Machine ε) : Bool := m.state.pen.fill && m.surface.palette.fill.isPresent

/-- Fills a shape if shapes are filled, and outlines it. -/
def drawShape (m : Machine ε) (nesting : Nesting) (shape : Shape) : Outcome ε :=
  m.applyPen.andThen fun ready =>
    if ready.fillsShapes then
      (ready.draw nesting (.fill shape)).andThen fun filled =>
        filled.draw nesting (.outline shape)
    else ready.draw nesting (.outline shape)

/-- Goes on with a value, or fails. -/
@[inline] def withValue {α : Type} (m : Machine ε) (value : Except Failure α)
    (next : α → Outcome ε) : Outcome ε :=
  match value with
  | .ok a => next a
  | .error f => m.fail f

/-- The surface takes the colour of a pen for lines and, unless the brush is transparent, for
areas.  Every surface accepts the colours of a pen. -/
def takeColor (m : Machine ε) (color : PenColor) : Machine ε :=
  let lined := m.putProperty .lineColor (.text color.word)
  if lined.surface.palette.fill.isFalse then lined
  else lined.putProperty .fillColor (.text color.word)

def setPen (m : Machine ε) (nesting : Nesting) : List Text → Outcome ε
  | [] => m.fail .missingItem
  | word :: _ =>
    match PenColor.ofWord? (Text.lower word) with
    | some color => ((m.modifyPen fun pen => { pen with color := color.word }).takeColor color).done
    | none => (m.log nesting (.unknownPenColor word)).done

def setFill (m : Machine ε) (nesting : Nesting) : List Text → Outcome ε
  | [] => m.fail .missingItem
  | word :: _ =>
    match fillMode? (Text.lower word) with
    | some mode => (m.modifyPen fun pen => { pen with fill := mode }).done
    | none => (m.log nesting (.unknownFillMode word)).done

/-- Runs a drawing command on words that have been checked. -/
def perform (m : Machine ε) (nesting : Nesting) (primitive : Primitive) (arguments : List Text) :
    Outcome ε :=
  match primitive with
  | .moveTo =>
    m.withValue (integers arguments >>= pair) fun (x, y) =>
      (m.modifyPen fun pen => pen.moveTo x y).done
  | .drawTo =>
    m.withValue (integers arguments >>= pair) fun (x, y) =>
      m.applyPen.andThen fun ready =>
        (ready.draw nesting (.line ready.state.pen.position (Point.ofInts x y))).andThen
          fun drawn => (drawn.modifyPen fun pen => pen.moveTo x y).done
  | .clear => ((m.clearSurface nesting).modifyPen Pen.home).done
  | .reset => (m.modifyPen Pen.home).done
  | .rectangle =>
    m.withValue (integers arguments >>= pair) fun (width, height) =>
      m.drawShape nesting (.rectangle m.state.pen.position (.whole width) (.whole height))
  | .circle =>
    m.withValue (integers arguments >>= single) fun radius =>
      m.drawShape nesting
        (.ellipse m.state.pen.position (.whole (radius * 2)) (.whole (radius * 2)))
  | .triangle =>
    m.withValue (integers arguments >>= triangleVertices) fun vertices =>
      m.drawShape nesting (.polygon (vertices.map fun p => Point.ofInts p.1 p.2))
  | .pen => m.setPen nesting arguments
  | .fill => m.setFill nesting arguments

/-- Runs a command given by its keyword. -/
def command (m : Machine ε) (nesting : Nesting) (keyword : Keyword) (arguments : List Text) :
    Outcome ε :=
  match keyword with
  | .command primitive =>
    (m.log nesting (.command primitive arguments)).perform nesting primitive arguments
  | other => m.fail (.notACommand other)

end Machine

end Plotter
