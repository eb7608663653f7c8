import Plotter.CommandLine.Program

/-!
# The command line

Reads the files that a command looks at, runs the command, prints what it prints and writes what
it writes.  Typed lines are taken one at a time.
-/

namespace Plotter.CommandLine.Terminal

def toText (s : String) : Text := s.toList

def plainString (t : Text) : String := String.ofList t

/-- The settings that come from the environment. -/
def environment : IO Environment := do
  let names := [Configuration.fileVariable, Configuration.stopVariable,
    Configuration.depthVariable, Verbosity.levelVariable]
  let found ← names.filterMapM fun name => do
    return (← IO.getEnv (plainString name)).map fun value => (name, toText value)
  return .ofList found

/-- What stands on the disk under a name. -/
def nodeAt? (name : String) : IO (Option Node) := do
  let path := (← IO.currentDir) / name
  if ← path.isDir then return some .directory
  else if ← path.pathExists then return some (.file (← IO.FS.readBinFile path).toList)
  else return none

/-- Adds what stands on the way to a path. -/
def gather (files : Files) (p : Path) : IO Files := do
  let mut gathered := files
  for count in List.range p.parts.length do
    let way : Path := { p with parts := p.parts.take (count + 1) }
    if let .ok parts := gathered.resolve way then
      if (gathered.node? parts).isNone then
        if let some node ← nodeAt? (plainString way.text) then
          gathered := { gathered with nodes := gathered.nodes ++ [(parts, node)] }
  return gathered

/-- The paths that a task reads. -/
def inputs (environment : Environment) : Task → List Text
  | .check job | .run job _ | .view job =>
    job.file :: (Configuration.chooseFile job.config environment).toList
  | .repl config _ => (Configuration.chooseFile config environment).toList

/-- The drawing file that a task may write, once its settings are known. -/
def output? (s : Surroundings) (task : Task) : Option Text :=
  let under (config output : Option Text) : Option Text :=
    match Configuration.load s.reader s.files config s.environment with
    | .ok settings => some (Drafting.target (Command.drawingName settings output))
    | .error _ => none
  match task with
  | .run job output => under job.config output
  | .repl config (some output) => under config (some output)
  | _ => none

/-- All files that a task is about. -/
def snapshot (environment : Environment) (task : Task) : IO Files := do
  let here := (Path.ofText (toText (← IO.currentDir).toString)).parts
  let mut files : Files := { here := here }
  for name in inputs environment task do
    files ← gather files (.ofText name)
  match output? { files := files, environment := environment } task with
  | some name => gather files (.ofText name)
  | none => return files

/-- Prints what was said, and writes the files that were not there before. -/
def deliver (before : Files) (console : Console) : IO Unit := do
  let out ← IO.getStdout
  out.putStr (plainString console.out)
  out.flush
  (← IO.getStderr).putStr (plainString console.err)
  for (parts, node) in console.files.nodes do
    if let .file bytes := node then
      match before.node? parts with
      | some (.file old) =>
        if old != bytes then
          IO.FS.writeBinFile (plainString ('/' :: Text.join ['/'] parts)) ⟨bytes.toArray⟩
      | _ => IO.FS.writeBinFile (plainString ('/' :: Text.join ['/'] parts)) ⟨bytes.toArray⟩

/-- Why a command broke off. -/
def reason : Trouble → Text
  | .failure (.file e) => e.reason
  | .failure f => (f.message?).getD "the arithmetic of a command went out of range".toList
  | .undecodable e => e.message
  | .settings _ => "the settings file is not understood".toList

def exitCode : Ending → IO UInt32
  | .exit code => return code.toUInt32
  | .broken t => do
    (← IO.getStderr).putStrLn ("Error: " ++ plainString (reason t))
    return 1

/-- Lets a piece of a command speak. -/
def perform {α : Type} (files : Files) (d : Dialogue α) : IO (Except Ending α) := do
  let (value, console) := d.run.run { files := files }
  deliver files console
  return value

/-- Takes lines until the input ends. -/
partial def listen {ε : Type} (interactive : Bool) (threshold : Nat) (settings : Settings)
    (taken : Nat) (m : Machine ε) : IO (Except Ending (Machine ε)) := do
  let _ ← perform {} (Command.ask interactive m)
  let line ← (← IO.getStdin).getLine
  if line.isEmpty then return .ok m
  let typed := (Command.typedLines (toText line)).headD []
  match ← perform {} (Command.hear threshold settings (taken + 1) typed m) with
  | .ok next => listen interactive threshold settings (taken + 1) next
  | .error ending => return .error ending

/-- Runs typed lines on a surface, and does something with the drawing. -/
def converse {ε : Type} (files : Files) (threshold : Nat) (settings : Settings)
    (surface : Surface ε) (finish : Surface ε → Dialogue Unit) : IO UInt32 := do
  let interactive ← (← IO.getStdin).isTty
  let machine := Machine.create settings (Command.prepared settings surface)
  match ← listen interactive threshold settings 0 machine with
  | .error ending => exitCode ending
  | .ok last =>
    let concluded ← perform files do
      let (result, drawn) ← Command.conclude threshold last
      finish drawn
      return Command.exitCode result
    match concluded with
    | .ok code => return code.toUInt32
    | .error ending => exitCode ending

/-- Runs lines as they are typed. -/
def repl (s : Surroundings) (threshold : Nat) (config output : Option Text) : IO UInt32 := do
  match ← perform s.files (Command.loadSettings s config) with
  | .error ending => exitCode ending
  | .ok settings =>
    if (output.getD []).isEmpty then
      converse s.files threshold settings Recording.surface fun _ => pure ()
    else
      converse s.files threshold settings Drafting.surface
        (Command.save s.writer threshold (Command.drawingName settings output))

def run (arguments : List Text) : IO UInt32 := do
  let found ← environment
  match Request.ofArguments arguments with
  | .ok { task := .repl config output, verbosity } =>
    let files ← snapshot found (.repl config output)
    repl { files := files, environment := found } (Verbosity.threshold verbosity found) config
      output
  | .ok request =>
    let files ← snapshot found request.task
    let transcript := Program.run arguments { files := files, environment := found }
    deliver files transcript.console
    exitCode transcript.ending
  | .error _ =>
    let transcript := Program.run arguments {}
    deliver {} transcript.console
    exitCode transcript.ending

end Plotter.CommandLine.Terminal

def main (arguments : List String) : IO UInt32 :=
  Plotter.CommandLine.Terminal.run (arguments.map Plotter.CommandLine.Terminal.toText)
