import Plotter.CommandLine.Argument

/-!
# Requests

The arguments of the program become a `Request`, or a `Refusal`: they ask for help, or they are not
understood.  Options take effect from left to right, so that help which is asked for before a
mistake is given.  Arguments that nobody takes are collected, and are a mistake only when nothing
else is wrong.
-/

namespace Plotter.CommandLine

/-- How a script file is to be run. -/
structure Job where
  file : Text
  config : Option Text := none
  stopOnError : Bool := false
  json : Bool := false
  deriving DecidableEq, Repr

inductive Task where
  | check (job : Job)
  | run (job : Job) (output : Option Text)
  | view (job : Job)
  | repl (config output : Option Text)
  deriving DecidableEq, Repr

structure Request where
  task : Task
  verbosity : Nat := 0
  deriving DecidableEq, Repr

/-- A page of help: that of the whole program or that of an action. -/
inductive Page where
  | program
  | action (a : Action)
  deriving DecidableEq, Repr

inductive Refusal where
  | help (page : Page)
  | usage (page : Page) (e : UsageError)
  deriving DecidableEq, Repr

/-- What has been chosen for an action so far. -/
structure Selection where
  file : Option Text := none
  config : Option Text := none
  output : Option Text := none
  stopOnError : Bool := false
  json : Bool := false
  verbosity : Nat := 0
  extras : List Text := []
  deriving DecidableEq, Repr

namespace Selection

def addExtra (s : Selection) (t : Text) : Selection := { s with extras := s.extras ++ [t] }

def addLeftover (s : Selection) : Option Text → Selection
  | some t => s.addExtra t
  | none => s

/-- Takes an option.  Asking for help ends the reading. -/
def take (page : Page) (s : Selection) : Flag × Option Text → Except Refusal Selection
  | (.help, _) => .error (.help page)
  | (.config, value) => .ok { s with config := value }
  | (.output, value) => .ok { s with output := value }
  | (.stopOnError, _) => .ok { s with stopOnError := true }
  | (.json, _) => .ok { s with json := true }
  | (.verbose, _) => .ok { s with verbosity := s.verbosity + 1 }

def takeAll (page : Page) : Selection → List (Flag × Option Text) → Except Refusal Selection
  | s, [] => .ok s
  | s, given :: rest => do takeAll page (← s.take page given) rest

/-- Whether the next plain argument is the file. -/
def wantsFile (a : Action) (s : Selection) : Bool := a.takesFile && s.file.isNone

/-- Goes through the arguments of an action.  A separator directly before or after the file
belongs to it. -/
def walk (a : Action) : (afterFile : Bool) → Selection → List Argument → Except Refusal Selection
  | _, s, [] => .ok s
  | _, s, .unknown t :: rest => walk a false (s.addExtra t) rest
  | _, s, .plain t :: rest =>
    if s.wantsFile a then walk a true { s with file := some t } rest
    else walk a false (s.addExtra t) rest
  | afterFile, s, .separator :: rest =>
    if afterFile || (s.wantsFile a && !rest.isEmpty) then walk a false s rest
    else walk a false (s.addExtra Argument.separatorText) rest
  | _, s, .option flag attachment :: rest =>
    match Cluster.ofOption a.flags flag attachment with
    | .error e => .error (.usage (.action a) e)
    | .ok cluster =>
      match cluster.owed with
      | none => do
        let next ← s.takeAll (.action a) cluster.given
        walk a false (next.addLeftover cluster.leftover) rest
      | some owing =>
        match rest with
        | .plain value :: later => do
          walk a false (← s.takeAll (.action a) (cluster.given ++ [(owing, some value)])) later
        | _ => .error (.usage (.action a) (.missingValue owing))

/-- Reads the arguments of an action. -/
def ofArguments (a : Action) (arguments : List Text) : Except Refusal Selection := do
  let read ← (Argument.readAll a.flags arguments).mapError (.usage (.action a))
  let s ← walk a false {} read
  if s.wantsFile a then throw (.usage (.action a) .missingFile)
  return s

def job (s : Selection) : Job where
  file := s.file.getD []
  config := s.config
  stopOnError := s.stopOnError
  json := s.json

def task (s : Selection) : Action → Task
  | .check => .check s.job
  | .run => .run s.job s.output
  | .view => .view s.job
  | .repl => .repl s.config s.output

def request (s : Selection) (a : Action) : Request := ⟨s.task a, s.verbosity⟩

end Selection

namespace Request

/-- The request for an action, if no arguments are left over. -/
def ofAction (a : Action) (extras arguments : List Text) : Except Refusal Request := do
  let s ← Selection.ofArguments a arguments
  match extras ++ s.extras with
  | [] => return s.request a
  | unknown => throw (.usage .program (.unrecognized unknown))

/-- Reads the arguments up to the action, after some that nobody takes. -/
def ofArgumentsAfter : (extras arguments : List Text) → Except Refusal Request
  | _, [] => .error (.usage .program .missingAction)
  | extras, t :: rest =>
    if t == Argument.separatorText then
      .error (.usage .program (if rest.isEmpty then .missingAction else .unknownAction t))
    else
      match Argument.read [.help] t with
      | .error e => .error (.usage .program e)
      | .ok (.option flag attachment) =>
        match Cluster.ofOption [.help] flag attachment with
        | .error e => .error (.usage .program e)
        | .ok _ => .error (.help .program)
      | .ok (.unknown u) => ofArgumentsAfter (extras ++ [u]) rest
      | .ok _ =>
        match Action.ofWord? t with
        | some a => ofAction a extras rest
        | none => .error (.usage .program (.unknownAction t))

/-- What the arguments of the program ask for. -/
def ofArguments (arguments : List Text) : Except Refusal Request := ofArgumentsAfter [] arguments

end Request

end Plotter.CommandLine
