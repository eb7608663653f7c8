import Plotter.Text.Basic

/-!
# Actions and their options

The first argument names an action.  Each action has options, written with one dash and a letter
or with two dashes and a word, some of which take a value; and all actions but one work on a file.
-/

namespace Plotter.CommandLine

inductive Action where
  /-- Runs a script and reports what is wrong with it. -/
  | check
  /-- Runs a script and writes a drawing file. -/
  | run
  /-- Runs a script and shows it in a window. -/
  | view
  /-- Runs lines as they are typed. -/
  | repl
  deriving DecidableEq, Repr

inductive Flag where
  | help | config | stopOnError | json | verbose | output
  deriving DecidableEq, Repr

namespace Flag

/-- All ways to write an option, the short one first. -/
def spellings : Flag → List Text
  | .help => ["-h".toList, "--help".toList]
  | .config => ["--config".toList]
  | .stopOnError => ["--stop-on-error".toList]
  | .json => ["--json".toList]
  | .verbose => ["-v".toList, "--verbose".toList]
  | .output => ["-o".toList, "--output".toList]

def takesValue : Flag → Bool
  | .config | .output => true
  | .help | .stopOnError | .json | .verbose => false

/-- How messages call an option. -/
def label (f : Flag) : Text := Text.join ['/'] f.spellings

/-- The option that is written in a given way. -/
def spelled? (flags : List Flag) (t : Text) : Option Flag :=
  flags.find? fun f => f.spellings.contains t

/-- The spellings that start with a text, with the options that they stand for. -/
def startingWith (flags : List Flag) (stem : Text) : List (Text × Flag) :=
  flags.flatMap fun f => (f.spellings.filter stem.isPrefixOf).map fun s => (s, f)

end Flag

namespace Action

def all : List Action := [.check, .run, .view, .repl]

def word : Action → Text
  | .check => "check".toList
  | .run => "run".toList
  | .view => "show".toList
  | .repl => "repl".toList

def ofWord? (t : Text) : Option Action := all.find? fun a => a.word == t

def takesFile : Action → Bool
  | .repl => false
  | .check | .run | .view => true

/-- The options of an action, in the order in which messages list them. -/
def flags : Action → List Flag
  | .check | .view => [.help, .config, .stopOnError, .json, .verbose]
  | .run => [.help, .config, .stopOnError, .json, .verbose, .output]
  | .repl => [.help, .config, .output, .verbose]

end Action

end Plotter.CommandLine
