import Plotter.Json
import Plotter.Machine.Run

/-!
# Results for other programs

The result of a run as one value: the file, whether all went well, where the pen is, and all
diagnostics.
-/

namespace Plotter

def Diagnostic.payload (d : Diagnostic) : Value :=
  .map [ (.text "code".toList, .text d.code),
    (.text "kind".toList, .text d.kind.text),
    (.text "message".toList, .text d.message),
    (.text "severity".toList, .text d.severity.text),
    (.text "line".toList, .int d.line),
    (.text "source".toList, match d.source with
      | some source => .text source
      | none => .null),
    (.text "hints".toList, .list (d.hints.map .text)) ]

def Result.payload (r : Result) (file : Text) : Value :=
  .map [ (.text "file".toList, .text file),
    (.text "success".toList, .bool r.success),
    (.text "stopped".toList, .bool r.stopped),
    (.text "position".toList, .list [.int r.x, .int r.y]),
    (.text "diagnostics".toList, .list (r.diagnostics.map Diagnostic.payload)) ]

/-- The coordinates of the pen, if they are not too long to be written. -/
def Result.position (r : Result) : Except Failure (Text × Text) :=
  match Text.writeInteger r.x, Text.writeInteger r.y with
  | .ok x, .ok y => .ok (x, y)
  | .error e, _ => .error (.numeral e)
  | _, .error e => .error (.numeral e)

end Plotter
