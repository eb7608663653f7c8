import Plotter.Files
import Plotter.Surface.Drafting
import Plotter.Surface.Outline
import Plotter.Surface.Recording
import Plotter.Surface.Window

/-!
# Surfaces in the hands of a host

A host works with a surface from outside: it reads and sets members, and asks for operations with
values as arguments.  A member or an operation that a surface does not have, and a member that
cannot be set, is unknown to it; arguments of the wrong kind or number are of the wrong kind.
-/

namespace Plotter

/-- A surface of any kind, with what belongs to the kind. -/
inductive Stage where
  | recording (s : Surface Recorded)
  | outline (s : Surface Stroke)
  | blank (s : Surface Empty)
  | window (frame : Frame) (s : Surface Item)
  | drafting (filename : Text) (s : Surface Entity)

/-- What an operation gives back, and what it did besides drawing. -/
structure Reply where
  stage : Stage
  files : Files
  value : Except Failure Value := .ok .null
  notes : List Note := []
  calls : List WindowCall := []

/-- An operation with its arguments. -/
inductive Ask where
  | figure (f : Figure)
  | clear
  | display
  | names
  | shapes
  | convert (thing conversion : Value)

inductive ShapeKind where
  | rectangle | ellipse | polygon
  deriving DecidableEq, Repr

/-- The operations of all surfaces; some belong to one kind of surface only. -/
inductive Verb where
  | line
  | outline (kind : ShapeKind)
  | fill (kind : ShapeKind)
  | clear
  | display
  | convert
  /-- Of a recording: lists the names of what was recorded. -/
  | names
  /-- Of a window: turns the display list into shapes. -/
  | shapes
  deriving DecidableEq, Repr

/-- What can be read of a surface. -/
inductive Member where
  | property (p : Property)
  | width
  | height
  | items
  | filename
  deriving DecidableEq, Repr

namespace Ask

def number (v : Value) : Except Failure Number :=
  match v.number? with
  | some n => .ok n
  | none => .error .wrongKind

def point : Value → Except Failure Point
  | .list coordinates => coordinates.mapM number
  | _ => .error .wrongKind

def points : Value → Except Failure (List Point)
  | .list vertices => vertices.mapM point
  | _ => .error .wrongKind

/-- The arguments of a shape in a box. -/
def boxed (shape : Point → Number → Number → Shape) : List Value → Except Failure Shape
  | [corner, width, height] => do
    return shape (← point corner) (← number width) (← number height)
  | _ => .error .wrongKind

def polygon : List Value → Except Failure Shape
  | [vertices] => do return .polygon (← points vertices)
  | _ => .error .wrongKind

def line : List Value → Except Failure Figure
  | [start, stop] => do return .line (← point start) (← point stop)
  | _ => .error .wrongKind

/-- An operation without arguments. -/
def bare (ask : Ask) : List Value → Except Failure Ask
  | [] => .ok ask
  | _ => .error .wrongKind

def conversion : List Value → Except Failure Ask
  | [thing] => .ok (.convert thing (.text ['b']))
  | [thing, conversion] => .ok (.convert thing conversion)
  | _ => .error .wrongKind

def shape : ShapeKind → List Value → Except Failure Shape
  | .rectangle => boxed .rectangle
  | .ellipse => boxed .ellipse
  | .polygon => polygon

/-- The operation that a verb with arguments asks for. -/
def ofArguments (arguments : List Value) : Verb → Except Failure Ask
  | .line => (line arguments).map .figure
  | .outline kind => (shape kind arguments).map fun found => .figure (.outline found)
  | .fill kind => (shape kind arguments).map fun found => .figure (.fill found)
  | .clear => bare .clear arguments
  | .display => bare .display arguments
  | .convert => conversion arguments
  | .names => bare .names arguments
  | .shapes => bare .shapes arguments

end Ask

namespace Stage

def palette : Stage → Palette
  | .recording s => s.palette
  | .outline s => s.palette
  | .blank s => s.palette
  | .window _ s => s.palette
  | .drafting _ s => s.palette

def withPalette (p : Palette) : Stage → Stage
  | .recording s => .recording { s with palette := p }
  | .outline s => .outline { s with palette := p }
  | .blank s => .blank { s with palette := p }
  | .window frame s => .window frame { s with palette := p }
  | .drafting filename s => .drafting filename { s with palette := p }

/-- How a surface describes itself. -/
def description : Stage → Text
  | .recording s => Recording.description s
  | .outline _ => Blank.description
  | .blank _ => Blank.description
  | .window frame _ => Window.description frame
  | .drafting .. => Drafting.description

def get : Stage → Member → Except Failure Value
  | stage, .property p => .ok (stage.palette.get p)
  | .window frame _, .width => .ok frame.width
  | .window frame _, .height => .ok frame.height
  | .window _ s, .items => .ok (.list (s.entries.toList.map Item.value))
  | .drafting filename _, .filename => .ok (.text filename)
  | _, _ => .error .unknownMember

def set : Stage → Member → Value → Except Failure Stage
  | stage, .property p, v => (stage.palette.set p v).map stage.withPalette
  | .drafting _ s, .filename, .text filename => .ok (.drafting filename s)
  | .drafting .., .filename, other => .error (.badFilename other)
  | _, _, _ => .error .unknownMember

/-- Whether a surface has an operation. -/
def offers : Stage → Verb → Bool
  | .recording _, .names => true
  | .window .., .shapes => true
  | _, .names | _, .shapes => false
  | _, _ => true

/-- Draws a figure. -/
def draw (f : Figure) : Stage → Stage × List Note × Option Failure
  | .recording s => let (s, outcome) := s.draw f; (.recording s, outcome)
  | .outline s => let (s, outcome) := s.draw f; (.outline s, outcome)
  | .blank s => let (s, outcome) := s.draw f; (.blank s, outcome)
  | .window frame s => let (s, outcome) := s.draw f; (.window frame s, outcome)
  | .drafting filename s => let (s, outcome) := s.draw f; (.drafting filename s, outcome)

def clear : Stage → Stage × List Note
  | .recording s => let (s, notes) := s.clear; (.recording s, notes)
  | .outline s => let (s, notes) := s.clear; (.outline s, notes)
  | .blank s => let (s, notes) := s.clear; (.blank s, notes)
  | .window frame s => let (s, notes) := s.clear; (.window frame s, notes)
  | .drafting filename s => let (s, notes) := s.clear; (.drafting filename s, notes)

/-- The value of an operation that may have failed. -/
def valueOf (v : Value) : Option Failure → Except Failure Value
  | none => .ok v
  | some f => .error f

/-- Shows the drawing: a window opens, a file is written. -/
def display (writer : Drafting.Writer) (stage : Stage) (files : Files) : Reply :=
  match stage with
  | .recording _ => { stage := stage, files := files, value := .ok (.bool true) }
  | .outline _ | .blank _ =>
    { stage := stage, files := files, value := .ok (.bool true), notes := [.undrawnDisplay] }
  | .window frame s =>
    let (calls, notes, failure) := Window.display frame s
    { stage := stage, files := files, value := valueOf (.bool true) failure, notes := notes,
      calls := calls }
  | .drafting filename s =>
    let target := Drafting.target filename
    match files.write (.ofText target) (writer s.entries.toList) with
    | .ok written =>
      { stage := stage, files := written, value := .ok (.bool true), notes := [.wrote target] }
    | .error e => { stage := stage, files := files, value := .error (.file e) }

/-- The names of the recorded operations. -/
def operationNames : Stage → List Text
  | .recording s => s.entries.toList.map fun r => Recording.name r.operation
  | _ => []

/-- Turns the display list into shapes. -/
def build (stage : Stage) (files : Files) : Reply :=
  match stage with
  | .window _ s =>
    { stage := stage, files := files, notes := [.built s.entries.size],
      calls := Window.shapes s }
  | _ => { stage := stage, files := files }

def perform (writer : Drafting.Writer) (stage : Stage) (files : Files) : Ask → Reply
  | .figure f =>
    let (next, notes, failure) := stage.draw f
    { stage := next, files := files, value := valueOf .null failure, notes := notes }
  | .clear =>
    let (next, notes) := stage.clear
    { stage := next, files := files, notes := notes }
  | .display => stage.display writer files
  | .names =>
    { stage := stage, files := files, value := .ok (.list (stage.operationNames.map .text)) }
  | .shapes => stage.build files
  | .convert thing conversion =>
    { stage := stage, files := files, value := Color.convert conversion thing }

/-- Asks for an operation with arguments. -/
def call (writer : Drafting.Writer) (stage : Stage) (files : Files) (verb : Verb)
    (arguments : List Value) : Reply :=
  if !stage.offers verb then { stage := stage, files := files, value := .error .unknownMember }
  else
    match Ask.ofArguments arguments verb with
    | .ok ask => stage.perform writer files ask
    | .error f => { stage := stage, files := files, value := .error f }

end Stage

end Plotter
