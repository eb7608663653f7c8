import Plotter.CommandLine.Flag
import Plotter.Text.Numeral

/-!
# Single arguments

An argument is read on its own first: it is plain, or the separator after which all is plain, or
an option, perhaps with something attached.  A value is attached to an option by an equals sign,
and to a short option also directly.  A long option may be cut short as long as only one option
starts that way.  What starts with a dash and is no option is unknown, unless it is a negative
number or holds a blank.

A short option without a value may be followed by further short options in the same argument; such
a row is a `Cluster`.
-/

namespace Plotter.CommandLine

/-- Why a command line is refused. -/
inductive UsageError where
  | ambiguous (argument : Text) (candidates : List Text)
  | ignoredValue (flag : Flag) (value : Text)
  | missingValue (flag : Flag)
  | missingFile
  | missingAction
  | unknownAction (word : Text)
  | unrecognized (arguments : List Text)
  deriving DecidableEq, Repr

/-- What stands behind an option in its argument. -/
inductive Attachment where
  | nothing
  /-- A value after an equals sign. -/
  | marked (value : Text)
  /-- The rest after a short option. -/
  | joined (rest : Text)
  deriving DecidableEq, Repr

inductive Argument where
  | plain (t : Text)
  | separator
  | option (flag : Flag) (attachment : Attachment)
  | unknown (t : Text)
  deriving DecidableEq, Repr

namespace Argument

def separatorText : Text := ['-', '-']

/-- The text before the first equals sign, and the text after it if there is one. -/
def splitEquals : Text → Text × Option Text
  | [] => ([], none)
  | '=' :: rest => ([], some rest)
  | c :: rest => let (stem, value) := splitEquals rest; (c :: stem, value)

/-- A dash and a number in plain decimal; one line feed may follow. -/
def isNegativeNumber (t : Text) : Bool :=
  match Text.dropFinalNewline t with
  | '-' :: row =>
    match row.dropWhile Text.isDigit with
    | [] => !row.isEmpty
    | '.' :: places => Text.isDigits places
    | _ => false
  | _ => false

/-- An argument that starts with a dash and is no option. -/
def strange (t : Text) : Argument :=
  if isNegativeNumber t || t.contains ' ' then .plain t else .unknown t

def attachmentOf : Option Text → Attachment
  | some value => .marked value
  | none => .nothing

/-- Reads the start of a long option. -/
def abbreviated (flags : List Flag) (t : Text) : Except UsageError Argument :=
  let (stem, value) := splitEquals t
  match Flag.startingWith flags stem with
  | [] => .ok (strange t)
  | [(_, flag)] => .ok (.option flag (attachmentOf value))
  | several => .error (.ambiguous t (several.map Prod.fst))

/-- Reads a short option with something behind it. -/
def shortOption (flags : List Flag) (t : Text) : Argument :=
  match Flag.spelled? flags (t.take 2) with
  | some flag => .option flag (.joined (t.drop 2))
  | none => strange t

/-- An option that is spelled out, with a value after an equals sign or without. -/
def spelledOut? (flags : List Flag) (t : Text) : Option Argument :=
  match Flag.spelled? flags t with
  | some flag => some (.option flag .nothing)
  | none =>
    match splitEquals t with
    | (stem, some value) => (Flag.spelled? flags stem).map fun flag => .option flag (.marked value)
    | (_, none) => none

/-- Reads an argument that is not the separator. -/
def read (flags : List Flag) (t : Text) : Except UsageError Argument :=
  match t with
  | '-' :: c :: _ =>
    match spelledOut? flags t with
    | some argument => .ok argument
    | none => if c == '-' then abbreviated flags t else .ok (shortOption flags t)
  | _ => .ok (.plain t)

/-- Reads all arguments: those after the separator are plain. -/
def readAll (flags : List Flag) : List Text → Except UsageError (List Argument)
  | [] => .ok []
  | t :: rest =>
    if t == separatorText then .ok (.separator :: rest.map .plain)
    else do
      let first ← read flags t
      return first :: (← readAll flags rest)

end Argument

/-- The options of one argument: those that are complete, in order, then one that still needs its
value, or a rest that is no option. -/
structure Cluster where
  given : List (Flag × Option Text) := []
  owed : Option Flag := none
  leftover : Option Text := none
  deriving DecidableEq, Repr

namespace Cluster

def bare (flag : Flag) : Cluster :=
  if flag.takesValue then { owed := some flag } else { given := [(flag, none)] }

def marked (flag : Flag) (value : Text) : Except UsageError Cluster :=
  if flag.takesValue then .ok { given := [(flag, some value)] }
  else .error (.ignoredValue flag value)

/-- The cluster after an option without a value. -/
def after (flag : Flag) (c : Cluster) : Cluster := { c with given := (flag, none) :: c.given }

/-- Reads what stands directly behind a short option: its value, or further short options. -/
def joined (flags : List Flag) : (flag : Flag) → (rest : Text) → Except UsageError Cluster
  | flag, [] => .ok (bare flag)
  | flag, c :: rest =>
    if flag.takesValue then .ok { given := [(flag, some (c :: rest))] }
    else if c == '-' then .error (.ignoredValue flag (c :: rest))
    else
      match Flag.spelled? flags ['-', c] with
      | none => .ok { given := [(flag, none)], leftover := some ('-' :: c :: rest) }
      | some next =>
        match rest with
        | '=' :: value => (marked next value).map (after flag)
        | _ => (joined flags next rest).map (after flag)

/-- The options of an argument that starts with one. -/
def ofOption (flags : List Flag) (flag : Flag) : Attachment → Except UsageError Cluster
  | .nothing => .ok (bare flag)
  | .marked value => marked flag value
  | .joined rest => joined flags flag rest

end Cluster

end Plotter.CommandLine
