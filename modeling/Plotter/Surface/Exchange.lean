import Plotter.Surface.Drafting

/-!
# Drawing files

A drawing file is a list of groups, each a code and a value on lines of their own, between the
head and the foot of the section of entities.  The code says what the value is: 8 the layer, 62 the
colour, 10 and 20 the coordinates of a point, 11 and 21 those of a second one.  A hatch is filled
with a solid pattern inside one path.

This is one `Drafting.Writer`, the plainest that a reader of drawing files accepts.  A program takes
its writer from its surroundings, and what is proved about saved drawings holds for any writer.
-/

namespace Plotter.Exchange

structure Group where
  code : Nat
  value : Text

def Group.text (g : Group) : Text := Text.ofNat g.code ++ '\n' :: g.value ++ ['\n']

def word (code : Nat) (value : String) : Group := ⟨code, value.toList⟩

def count (code n : Nat) : Group := ⟨code, Text.ofNat n⟩

def real (code : Nat) (x : Float) : Group := ⟨code, Double.shortest x⟩

def numeral (code : Nat) (n : Number) : Group := ⟨code, n.text⟩

/-- The start of an entity. -/
def entityHead (name : String) (color : Nat) : List Group :=
  [word 0 name, word 8 "0", count 62 color]

/-- A point whose coordinates have a code and the one ten above it. -/
def point (code : Nat) (p : Float × Float) : List Group :=
  [real code p.1, real (code + 10) p.2]

def spatialPoint (code : Nat) (p : Float × Float) : List Group :=
  point code p ++ [real (code + 20) 0.0]

def fullTurn : Float := 6.283185307179586

def arc (a : EllipseArc) : List Group :=
  spatialPoint 10 a.center ++ spatialPoint 11 a.axis
    ++ [real 40 a.ratio, real 41 0.0, real 42 fullTurn]

/-- The boundary of a hatch. -/
def path : HatchPath → List Group
  | .polygon points =>
    [count 92 3, count 72 0, count 73 1, count 93 points.length]
      ++ points.flatMap fun p => [numeral 10 p.1, numeral 20 p.2]
  | .ellipse a =>
    [count 92 1, count 93 1, count 72 3] ++ point 10 a.center ++ point 11 a.axis
      ++ [real 40 a.ratio, real 50 0.0, real 51 360.0, count 73 1]

def entity : Entity → List Group
  | .line color start stop =>
    entityHead "LINE" color ++ spatialPoint 10 start ++ spatialPoint 11 stop
  | .polyline color points closed =>
    entityHead "LWPOLYLINE" color
      ++ [count 90 points.length, count 70 (if closed then 1 else 0)]
      ++ points.flatMap (point 10)
  | .ellipse color a => entityHead "ELLIPSE" color ++ arc a
  | .hatch color p =>
    entityHead "HATCH" color ++ spatialPoint 10 (0.0, 0.0)
      ++ [word 2 "SOLID", count 70 1, count 71 0, count 91 1] ++ path p
      ++ [count 97 0, count 75 1, count 76 1, count 98 0]

def groups (entities : List Entity) : List Group :=
  [word 0 "SECTION", word 2 "ENTITIES"] ++ entities.flatMap entity
    ++ [word 0 "ENDSEC", word 0 "EOF"]

/-- The bytes of a drawing file; all of its characters are ASCII. -/
def bytes (entities : List Entity) : List UInt8 :=
  ((groups entities).flatMap Group.text).map fun c => c.toNat.toUInt8

end Plotter.Exchange
