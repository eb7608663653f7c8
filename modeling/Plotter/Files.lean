import Plotter.Text.Quoted

/-!
# Files

`Files` is a part of a file system: files with their bytes, and directories, each under its parts
from the root, and the working directory from which relative paths start.  Paths are walked from
left to right, so every part but the last has to be a directory that exists, and two dots lead one
directory up.  The working directory and the directories above it always exist.
-/

namespace Plotter

/-- A path: the slashes that make it absolute, if any, and its parts without the empty ones and
the dots that change nothing. -/
structure Path where
  root : Text
  parts : List Text
  deriving DecidableEq, Repr

namespace Path

/-- The root of a path: exactly two leading slashes are kept, more count as one. -/
def rootOf : Text → Text
  | '/' :: '/' :: '/' :: _ => ['/']
  | '/' :: '/' :: _ => ['/', '/']
  | '/' :: _ => ['/']
  | _ => []

def ofText (t : Text) : Path where
  root := rootOf t
  parts := (Text.runs (fun c => c != '/') t).filter fun part => part != ['.']

def text (p : Path) : Text :=
  let written := p.root ++ Text.join ['/'] p.parts
  if written.isEmpty then ['.'] else written

/-- The last part. -/
def name (p : Path) : Text := p.parts.getLast?.getD []

end Path

/-- Why a path cannot be used. -/
inductive FileError where
  | notFound | isDirectory | notDirectory
  deriving DecidableEq, Repr

namespace FileError

def reason : FileError → Text
  | .notFound => "[Errno 2] No such file or directory".toList
  | .isDirectory => "[Errno 21] Is a directory".toList
  | .notDirectory => "[Errno 20] Not a directory".toList

def message (e : FileError) (path : Text) : Text := e.reason ++ ": ".toList ++ Text.quoted path

end FileError

inductive Node where
  | file (bytes : List UInt8)
  | directory

structure Files where
  /-- The parts of the working directory from the root. -/
  here : List Text := []
  nodes : List (List Text × Node) := []

namespace Files

/-- What stands at the parts of a path from the root, if none of them is a pair of dots. -/
def node? (files : Files) (parts : List Text) : Option Node :=
  if parts.isPrefixOf files.here then some .directory
  else (files.nodes.find? fun entry => entry.1 == parts).map Prod.snd

/-- The place to which parts lead from a directory.  The last of them need not exist. -/
def locate (files : Files) : (directory parts : List Text) → Except FileError (List Text)
  | directory, [] => .ok directory
  | directory, part :: rest =>
    if part == ['.', '.'] then locate files directory.dropLast rest
    else
      let there := directory ++ [part]
      match rest with
      | [] => .ok there
      | _ =>
        match files.node? there with
        | some .directory => locate files there rest
        | some (.file _) => .error .notDirectory
        | none => .error .notFound

def resolve (files : Files) (p : Path) : Except FileError (List Text) :=
  locate files (if p.root.isEmpty then files.here else []) p.parts

def find (files : Files) (p : Path) : Except FileError Node :=
  match files.resolve p with
  | .error e => .error e
  | .ok parts =>
    match files.node? parts with
    | some node => .ok node
    | none => .error .notFound

def contains (files : Files) (p : Path) : Bool := (files.find p).isOk

def read (files : Files) (p : Path) : Except FileError (List UInt8) :=
  match files.find p with
  | .ok (.file bytes) => .ok bytes
  | .ok .directory => .error .isDirectory
  | .error e => .error e

/-- Writes a file; the directory it is to stand in has to exist. -/
def write (files : Files) (p : Path) (bytes : List UInt8) : Except FileError Files :=
  match files.resolve p with
  | .error e => .error e
  | .ok parts =>
    match files.node? parts with
    | some .directory => .error .isDirectory
    | _ =>
      let others := files.nodes.filter fun entry => entry.1 != parts
      .ok { files with nodes := others ++ [(parts, .file bytes)] }

/-- Adds a node in the working directory, and the directories on the way to it. -/
def place (files : Files) (parts : List Text) (node : Node) : Files :=
  let ways := (List.range parts.length).drop 1 |>.map fun count => files.here ++ parts.take count
  let missing := ways.filter fun directory => (files.node? directory).isNone
  { files with
    nodes := files.nodes ++ missing.map (fun directory => (directory, .directory))
      ++ [(files.here ++ parts, node)] }

/-- The names of the files in the working directory and below it, in order. -/
def names (files : Files) : List Text :=
  Text.sort (files.nodes.filterMap fun entry =>
    match entry.2 with
    | .file _ =>
      if files.here.isPrefixOf entry.1 then
        some (Text.join ['/'] (entry.1.drop files.here.length))
      else none
    | .directory => none)

/-- The names that were not there before. -/
def added (before after : Files) : List Text :=
  after.names.filter fun name => !before.names.contains name

end Files

end Plotter
