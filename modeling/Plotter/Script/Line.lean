import Plotter.Text.Blank
import Plotter.Text.Case
import Plotter.Text.Lines
import Plotter.Text.Numeral

/-!
# Script lines

A script is read line by line.  A line keeps the number it has in its source, so that a report
can point at it; lines typed by a host may carry any number.  Blank lines and comments are
dropped when a source is cut into lines, and the numbers of the others do not change by it.
-/

namespace Plotter

structure Line where
  text : Text
  number : Int := 0
  filename : Option Text := none
  deriving DecidableEq, Repr

/-- A place in a source: line and column count from one. -/
structure Location where
  line : Int
  column : Int
  filename : Option Text
  deriving DecidableEq, Repr

structure Span where
  start : Location
  stop : Location
  deriving DecidableEq, Repr

/-- `line:column`, without the file. -/
def Location.place (l : Location) : Text := Text.ofInt l.line ++ ':' :: Text.ofInt l.column

/-- What stands before a place when the file has a name. -/
def Location.fileLabel (l : Location) : Text :=
  match l.filename with
  | none => []
  | some [] => []
  | some name => name ++ [':']

def Location.text (l : Location) : Text := l.fileLabel ++ l.place

def Span.text (s : Span) : Text := s.start.text ++ '-' :: s.stop.place

namespace Line

/-- The span of the whole line. -/
def span (line : Line) : Span where
  start := ⟨line.number, 1, line.filename⟩
  stop := ⟨line.number, line.text.length + 1, line.filename⟩

def words (line : Line) : List Text := Text.words line.text

/-- The first word in lower case, empty for an empty line. -/
def head (line : Line) : Text :=
  match line.words with
  | [] => []
  | first :: _ => Text.lower first

/-- The same place with another text, trimmed. -/
def withText (line : Line) (text : Text) : Line := { line with text := Text.trim text }

/-- A line that comes from no source: it is trimmed and has no number. -/
def ofString (text : Text) : Line := { text := Text.trim text }

/-- Blank lines and comments say nothing to the machine. -/
def isSilent (text : Text) : Bool :=
  match text with
  | [] => true
  | c :: _ => c == '#'

/-- The lines among the given physical lines, of which the first has the given number. -/
def numbered (filename : Option Text) : (number : Int) → List Text → List Line
  | _, [] => []
  | number, raw :: rest =>
    let text := Text.trim raw
    if isSilent text then numbered filename (number + 1) rest
    else ⟨text, number, filename⟩ :: numbered filename (number + 1) rest

/-- The lines of a source text. -/
def ofSource (source : Text) (filename : Option Text) : List Line :=
  numbered filename 1 (Text.lines source)

end Line

end Plotter
