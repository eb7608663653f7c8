import Plotter.CommandLine.Console
import Plotter.CommandLine.Payload
import Plotter.CommandLine.Request
import Plotter.CommandLine.Verbosity
import Plotter.Surface.Exchange
import Plotter.Text.Case
import Plotter.Yaml.Document

/-!
# What the actions do

Three actions run a script from a file and differ in the surface and in what comes after: `check`
records the drawing and only reports, `run` writes a drawing file, `view` opens a window.  The
fourth, `repl`, runs lines as they are typed and reports after each line.  All of them end with
code zero exactly if nothing was wrong with the script.
-/

namespace Plotter.CommandLine

/-- What a command finds when it starts. -/
structure Surroundings where
  files : Files := {}
  environment : Environment := .empty
  /-- What will be typed. -/
  input : Text := []
  /-- Whether somebody is typing it. -/
  interactive : Bool := false
  /-- How a settings file is read. -/
  reader : Configuration.Reader := Yaml.Document.ofText
  /-- How a drawing file is written. -/
  writer : Drafting.Writer := Exchange.bytes

end Plotter.CommandLine

namespace Plotter.CommandLine.Command

open Dialogue

def warnOfError (message : Text) : Dialogue Unit := warnLine ("Error: ".toList ++ message)

def loadSettings (s : Surroundings) (asked : Option Text) : Dialogue Settings := do
  match Configuration.load s.reader (← files) asked s.environment with
  | .ok settings => return settings
  | .error e =>
    match e.message with
    | .ok message =>
      warnOfError message
      exit 1
    | .error cause => breakOff (.settings cause)

/-- The text of a script file. -/
def readScript (path : Path) : Dialogue Text := do
  match (← files).read path with
  | .error e => breakOff (.failure (.file e))
  | .ok bytes =>
    match Utf8.decode bytes with
    | .ok source => return Text.unifyNewlines source
    | .error e => breakOff (.undecodable e)

/-! ### Surfaces -/

/-- The name of the drawing file, without its extension. -/
def drawingName (settings : Settings) (output : Option Text) : Text :=
  let name := (output.filter fun t => !t.isEmpty).getD settings.outputFilename
  if ".dxf".toList.isSuffixOf (Text.lower name) then name.take (name.length - 4) else name

def frame (settings : Settings) (path : Path) : Frame where
  width := settings.canvasWidth.value
  height := settings.canvasHeight.value
  caption := path.name

/-- A surface in front of the background of the settings. -/
def prepared {ε : Type} (settings : Settings) (s : Surface ε) : Surface ε :=
  s.put .background (.text settings.background)

/-! ### Script files -/

/-- What running a script file came to. -/
structure Ran (ε : Type) where
  settings : Settings
  result : Result
  surface : Surface ε

/-- Prints the diagnostics of a run. -/
def report (job : Job) (path : Path) (result : Result) : Dialogue Unit := do
  if job.json then
    let _ ← orBreak result.position
    printLine ((result.payload path.text).json 0)
  else warnAbout result.diagnostics

/-- Runs the script of a job on a surface that may depend on the settings. -/
def runScript {ε : Type} (s : Surroundings) (threshold : Nat) (job : Job)
    (surface : Settings → Surface ε) : Dialogue (Ran ε) := do
  let path := Path.ofText job.file
  if !(← files).contains path then
    warnOfError ("File not found: ".toList ++ path.text)
    exit 1
  let loaded ← loadSettings s job.config
  let settings := { loaded with stopOnError := loaded.stopOnError || job.stopOnError }
  let source ← readScript path
  let machine := Machine.create settings (prepared settings (surface settings))
  let (last, outcome) := machine.run settings source (some path.name)
  log threshold (last.journal.toList.map JournalEntry.event)
  let result ← orBreak outcome
  report job path result
  return ⟨settings, result, last.surface⟩

def exitCode (r : Result) : Nat := if r.success then 0 else 1

def countErrors (r : Result) : Text := Text.ofNat r.errors.length ++ " error(s)".toList

def check (s : Surroundings) (threshold : Nat) (job : Job) : Dialogue Nat := do
  let ran ← runScript s threshold job fun _ => Recording.surface
  let name := (Path.ofText job.file).name
  if !job.json then
    if ran.result.success then
      printLine ("OK: ".toList ++ name ++ " - ".toList ++ Text.ofNat ran.result.methods.length
        ++ " method(s), no errors".toList)
    else warnLine (name ++ ": ".toList ++ countErrors ran.result)
  return exitCode ran.result

/-- Shows the drawing of a run that came to its end. -/
def render {ε : Type} (writer : Drafting.Writer) (threshold : Nat) (job : Job) (ran : Ran ε)
    (stage : Stage) : Dialogue Unit := do
  let name := (Path.ofText job.file).name
  if ran.result.stopped then
    warnOfError (name ++ " stopped at first error".toList)
    exit 1
  log threshold [.rendering name stage.description]
  display writer threshold stage

def run (s : Surroundings) (threshold : Nat) (job : Job) (output : Option Text) :
    Dialogue Nat := do
  let ran ← runScript s threshold job fun _ => Drafting.surface
  let name := drawingName ran.settings output
  render s.writer threshold job ran (.drafting name ran.surface)
  if !job.json then printLine ("Exported to: ".toList ++ Drafting.target name)
  return exitCode ran.result

def view (s : Surroundings) (threshold : Nat) (job : Job) : Dialogue Nat := do
  let path := Path.ofText job.file
  let ran ← runScript s threshold job fun settings =>
    Window.surface (frame settings path)
  render s.writer threshold job ran (.window (frame ran.settings path) ran.surface)
  return exitCode ran.result

/-! ### Typed lines -/

/-- The lines of typed input, each up to a line feed. -/
def typedLines : Text → List Text
  | [] => []
  | c :: rest =>
    if c == '\n' then [] :: typedLines rest
    else
      match typedLines rest with
      | [] => [[c]]
      | first :: later => (c :: first) :: later

def prompt : Mode → Text
  | .idle => "> ".toList
  | .loop _ | .method _ => "... ".toList

/-- Logs what a machine has done and prints the diagnostics that it has added. -/
def settle {ε : Type} (threshold : Nat) (before : Machine ε) :
    Machine ε × Option Failure → Dialogue (Machine ε)
  | (after, failure) => do
    log threshold ((after.journal.toList.drop before.journal.size).map JournalEntry.event)
    match failure with
    | some f => breakOff (.failure f)
    | none =>
      warnAbout
        (after.state.report.diagnostics.drop before.state.report.diagnostics.length)
      return after

/-- Asks for a line, if somebody is typing. -/
def ask {ε : Type} (interactive : Bool) (m : Machine ε) : Dialogue Unit :=
  if interactive then print (prompt m.state.mode) else pure ()

/-- Takes a typed line. -/
def hear {ε : Type} (threshold : Nat) (settings : Settings) (number : Nat) (line : Text)
    (m : Machine ε) : Dialogue (Machine ε) :=
  settle threshold m (m.feed settings line (some number))

/-- Takes typed lines, of which some have been taken before. -/
def converse {ε : Type} (interactive : Bool) (threshold : Nat) (settings : Settings) :
    (taken : Nat) → List Text → Machine ε → Dialogue (Machine ε)
  | _, [], m => do
    ask interactive m
    return m
  | taken, line :: rest, m => do
    ask interactive m
    let next ← hear threshold settings (taken + 1) line m
    converse interactive threshold settings (taken + 1) rest next

/-- Ends the input and says where the pen is. -/
def conclude {ε : Type} (threshold : Nat) (m : Machine ε) : Dialogue (Result × Surface ε) := do
  let last ← settle threshold m (m.finish, none)
  let result := last.result false
  let (x, y) ← orBreak result.position
  printLine ("pen at (".toList ++ x ++ ", ".toList ++ y ++ "), ".toList ++ countErrors result)
  return (result, last.surface)

/-- Writes the drawing of typed lines. -/
def save (writer : Drafting.Writer) (threshold : Nat) (name : Text) (surface : Surface Entity) :
    Dialogue Unit := do
  display writer threshold (.drafting name surface)
  printLine ("Exported to: ".toList ++ Drafting.target name)

/-- Runs typed lines on a surface. -/
def typed {ε : Type} (s : Surroundings) (threshold : Nat) (settings : Settings)
    (surface : Surface ε) : Dialogue (Result × Surface ε) := do
  let machine := Machine.create settings (prepared settings surface)
  conclude threshold
    (← converse s.interactive threshold settings 0 (typedLines s.input) machine)

def repl (s : Surroundings) (threshold : Nat) (config output : Option Text) : Dialogue Nat := do
  let settings ← loadSettings s config
  if (output.getD []).isEmpty then
    let (result, _) ← typed s threshold settings Recording.surface
    return exitCode result
  else
    let (result, surface) ← typed s threshold settings Drafting.surface
    save s.writer threshold (drawingName settings output) surface
    return exitCode result

/-- Does what is asked for. -/
def perform (s : Surroundings) (threshold : Nat) : Task → Dialogue Nat
  | .check job => check s threshold job
  | .run job output => run s threshold job output
  | .view job => view s threshold job
  | .repl config output => repl s threshold config output

end Plotter.CommandLine.Command
