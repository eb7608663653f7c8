import Plotter.Configuration
import Plotter.Journal
import Plotter.Text.Case

/-!
# How much is logged

The verbosity that a command line asks for wins over the level in the environment.  A level is
named in letters of either case; a name that is none means the level of warnings.
-/

namespace Plotter.CommandLine.Verbosity

def levelVariable : Text := "PENSCRIPT_LOG_LEVEL".toList

/-- The levels by name.  Nothing in the journal has a rank above that of warnings. -/
def levels : List (Text × Nat) :=
  [ ("CRITICAL".toList, 50), ("FATAL".toList, 50), ("ERROR".toList, 40),
    ("WARNING".toList, Level.warning.rank), ("WARN".toList, Level.warning.rank),
    ("INFO".toList, Level.info.rank), ("DEBUG".toList, Level.debug.rank),
    ("NOTSET".toList, 0) ]

/-- The rank of a level.  No letters but those of `Text.capital` become Latin capitals. -/
def ofName (name : Text) : Nat :=
  match levels.find? fun level => level.1 == name.map Text.capital with
  | some (_, rank) => rank
  | none => Level.warning.rank

/-- The rank from which events are shown. -/
def threshold (verbosity : Nat) (environment : Environment) : Nat :=
  if 2 ≤ verbosity then Level.debug.rank
  else if verbosity == 1 then Level.info.rank
  else ofName ((environment.get? levelVariable).getD "WARNING".toList)

end Plotter.CommandLine.Verbosity
