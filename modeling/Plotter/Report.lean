import Plotter.Diagnostic

/-!
# Reports

A report collects diagnostics in the order in which they arise.  It may have a limit of errors
after which a host should stop; a limit that is not positive means none.
-/

namespace Plotter

structure Report where
  diagnostics : List Diagnostic := []
  limit : Int := 0

namespace Report

def add (r : Report) (d : Diagnostic) : Report := { r with diagnostics := r.diagnostics ++ [d] }

def clear (r : Report) : Report := { r with diagnostics := [] }

def errors (r : Report) : List Diagnostic := r.diagnostics.filter Diagnostic.isError

def errorCount (r : Report) : Nat := r.errors.length

def warningCount (r : Report) : Nat := r.diagnostics.countP fun d => d.severity == .warning

def hasErrors (r : Report) : Bool := r.errorCount != 0

def shouldStop (r : Report) : Bool := 0 < r.limit && r.limit ≤ r.errorCount

/-- The closing line with the counts, when there is anything to count. -/
def summary (r : Report) : List Text :=
  let warnings := Text.ofNat r.warningCount ++ " warning(s)".toList
  if r.hasErrors then
    ["\n".toList ++ Text.ofNat r.errorCount ++ " error(s), ".toList ++ warnings]
  else if r.warningCount != 0 then ["\n".toList ++ warnings]
  else []

/-- All diagnostics and the summary, an empty line apart. -/
def format (showSource : Bool) (r : Report) : Text :=
  Text.join "\n\n".toList (r.diagnostics.map (Diagnostic.format showSource) ++ r.summary)

end Report

end Plotter
