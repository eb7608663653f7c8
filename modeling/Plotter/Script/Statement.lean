import Plotter.Failure
import Plotter.Script.Expression
import Plotter.Script.Signature

/-!
# Statements

The first word of a line decides what it is.  Block keywords are looked at first, then the shape
`name = expression`, then the shape of a call, and only then the drawing commands, so a line that
starts with a keyword is never an assignment or a call.  What fits nothing is an invalid line.
-/

namespace Plotter

inductive Statement where
  | block (kind : BlockKind) (closes : Bool) (arguments : List Text)
  | assignment (name expression : Text)
  | call (invocation : Call)
  | command (primitive : Primitive) (arguments : List Text)
  | invalid (word : Option Text) (arguments : List Text)
  deriving DecidableEq, Repr

namespace Statement

def isTargetChar (c : Char) : Bool := !Text.isBlank c && c != '='

/-- The two sides of a line of the shape `target = rest`.  The rest is a single line; a line feed
may end it. -/
def sides? (t : Text) : Option (Text × Text) :=
  let target := t.takeWhile isTargetChar
  if target.isEmpty then none
  else
    match Text.trimStart (t.dropWhile isTargetChar) with
    | '=' :: rest =>
      let expression := Text.dropFinalNewline (Text.trimStart rest)
      if expression.contains '\n' then none else some (target, expression)
    | _ => none

/-- A line of the shape `name = expression` with a single equals sign. -/
def isAssignment (t : Text) : Bool :=
  t.count '=' == 1 && (sides? t).any fun (target, _) => isName target

/-- What a line with a drawing command or no keyword at its start is. -/
def ofPlainLine (t : Text) (keyword : Option Keyword) (word : Text) (arguments : List Text) :
    Except Failure Statement :=
  if isAssignment (Text.trim t) then
    match sides? t with
    | some (name, expression) => .ok (.assignment name (Text.trim expression))
    | none => .error .looseAssignment
  else
    match Call.parse? (Text.trim t), keyword with
    | some invocation, _ => .ok (.call invocation)
    | none, some (.command primitive) => .ok (.command primitive arguments)
    | none, _ => .ok (.invalid (some word) arguments)

/-- Classifies a line. -/
def classify (t : Text) : Except Failure Statement :=
  match Text.words t with
  | [] => .ok (.invalid none [])
  | word :: arguments =>
    match Keyword.ofWord? word with
    | some (.opening kind) => .ok (.block kind false arguments)
    | some (.closing kind) => .ok (.block kind true arguments)
    | keyword => ofPlainLine t keyword word arguments

def keyword? : Statement → Option Keyword
  | .block kind false _ => some (.opening kind)
  | .block kind true _ => some (.closing kind)
  | .command primitive _ => some (.command primitive)
  | _ => none

/-- The target of an assignment, the method of a call, or the word of an invalid line. -/
def name? : Statement → Option Text
  | .assignment name _ => some name
  | .call invocation => some invocation.name
  | .invalid word _ => word
  | _ => none

def arguments : Statement → List Text
  | .block _ _ arguments => arguments
  | .assignment _ expression => [expression]
  | .call invocation => invocation.arguments
  | .command _ arguments => arguments
  | .invalid _ arguments => arguments

def closes : Statement → Bool
  | .block _ closes _ => closes
  | _ => false

/-- A line after which lines are collected rather than run. -/
def opensBlock : Statement → Bool
  | .block .loop false _ => true
  | .block .method false _ => true
  | _ => false

/-- An assignment whose right side has two or more terms, all of them literals or names. -/
def isArithmetic (t : Text) : Except Failure Bool :=
  if isAssignment (Text.trim t) then
    match sides? t with
    | none => .error .looseAssignment
    | some (_, expression) =>
      match Expression.terms? expression with
      | some terms => .ok (2 ≤ terms.length && terms.all fun term => Expression.isOperand term.text)
      | none => .ok false
  else .ok false

end Statement

end Plotter
