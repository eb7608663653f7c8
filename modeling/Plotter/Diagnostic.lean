import Plotter.Script.Keyword
import Plotter.Script.Line

/-!
# Diagnostics

A `Cause` says what is wrong with a line; a `Fault` is a cause at a line.  The code, the kind, the
wording and the hints of a report all follow from the cause, and a `Diagnostic` is the finished
report.  A host may also build diagnostics of its own, of any severity.

Codes from 100 are about recognising a line, from 200 about names, from 300 about the structure of
blocks, and from 400 about evaluation.
-/

namespace Plotter

inductive Severity where
  | error | warning | info
  deriving DecidableEq, Repr

/-- What went wrong, independent of the exact message. -/
inductive FaultKind where
  | unknownCommand
  | arityOrType
  | undefinedVariable
  | undefinedMethod
  | parameterCountMismatch
  | mismatchedControlFlow
  | invalidOperator
  | callDepthExceeded
  deriving DecidableEq, Repr

structure Diagnostic where
  code : Text
  kind : FaultKind
  message : Text
  severity : Severity
  span : Span
  source : Option Text := none
  hints : List Text := []
  deriving DecidableEq, Repr

inductive Cause where
  | unknownCommand (word : Text)
  | missingParameters (command : Text) (expected found : Nat)
  | wrongParameterType (command : Text) (position : Nat) (expected found : Text)
  | tooManyParameters (command : Text) (expected found : Nat)
  | invalidTerm (term : Text)
  | malformedHeader (kind : BlockKind)
  | undefinedVariable (name : Text)
  | undefinedMethod (name : Text)
  | argumentCount (name : Text) (expected found : Nat)
  | unmatchedClosing (kind : BlockKind)
  | nestedLoop
  | nestedMethod
  | unterminated (kind : BlockKind)
  | callDepth (name limit : Text)
  | invalidOperator (operator : Text)
  deriving DecidableEq, Repr

structure Fault where
  cause : Cause
  line : Line
  deriving DecidableEq, Repr

def Severity.text : Severity → Text
  | .error => "error".toList
  | .warning => "warning".toList
  | .info => "info".toList

def FaultKind.text : FaultKind → Text
  | .unknownCommand => "unknown-command".toList
  | .arityOrType => "arity-or-type".toList
  | .undefinedVariable => "undefined-variable".toList
  | .undefinedMethod => "undefined-method".toList
  | .parameterCountMismatch => "parameter-count-mismatch".toList
  | .mismatchedControlFlow => "mismatched-control-flow".toList
  | .invalidOperator => "invalid-operator".toList
  | .callDepthExceeded => "call-depth-exceeded".toList

/-- How a block of the kind is opened. -/
def BlockKind.usage : BlockKind → Text
  | .conditional => "if <variable> <op> <integer>".toList
  | .loop => "loop <count>".toList
  | .method => "method <name>(<param>, ...)".toList

namespace Cause

def code : Cause → Text
  | .unknownCommand _ => "E100".toList
  | .missingParameters .. => "E101".toList
  | .wrongParameterType .. => "E102".toList
  | .tooManyParameters .. => "E103".toList
  | .invalidTerm _ => "E104".toList
  | .malformedHeader _ => "E105".toList
  | .undefinedVariable _ => "E201".toList
  | .undefinedMethod _ => "E202".toList
  | .argumentCount .. => "E203".toList
  | .unmatchedClosing .conditional => "E301".toList
  | .unmatchedClosing .loop => "E302".toList
  | .unmatchedClosing .method => "E303".toList
  | .nestedLoop => "E304".toList
  | .nestedMethod => "E305".toList
  | .unterminated _ => "E306".toList
  | .callDepth .. => "E307".toList
  | .invalidOperator _ => "E401".toList

def kind : Cause → FaultKind
  | .unknownCommand _ => .unknownCommand
  | .missingParameters .. | .wrongParameterType .. | .tooManyParameters .. => .arityOrType
  | .invalidTerm _ | .malformedHeader _ => .arityOrType
  | .undefinedVariable _ => .undefinedVariable
  | .undefinedMethod _ => .undefinedMethod
  | .argumentCount .. => .parameterCountMismatch
  | .unmatchedClosing _ | .nestedLoop | .nestedMethod | .unterminated _ => .mismatchedControlFlow
  | .callDepth .. => .callDepthExceeded
  | .invalidOperator _ => .invalidOperator

def message : Cause → Text
  | .unknownCommand word => "unknown command '".toList ++ word ++ "'".toList
  | .missingParameters command expected found =>
    "'".toList ++ command ++ "' is missing parameters: expected ".toList ++ Text.ofNat expected
      ++ ", found ".toList ++ Text.ofNat found
  | .wrongParameterType command position expected found =>
    "'".toList ++ command ++ "' parameter ".toList ++ Text.ofNat position ++ " must be ".toList
      ++ expected ++ ", found '".toList ++ found ++ "'".toList
  | .tooManyParameters command expected found =>
    "'".toList ++ command ++ "' takes ".toList ++ Text.ofNat expected
      ++ " parameter(s), found ".toList ++ Text.ofNat found
  | .invalidTerm term => "invalid expression term '".toList ++ term ++ "'".toList
  | .malformedHeader kind => "malformed '".toList ++ kind.openingWord ++ "' line".toList
  | .undefinedVariable name => "undefined variable '".toList ++ name ++ "'".toList
  | .undefinedMethod name => "undefined method '".toList ++ name ++ "'".toList
  | .argumentCount name expected found =>
    "method '".toList ++ name ++ "' takes ".toList ++ Text.ofNat expected
      ++ " argument(s), found ".toList ++ Text.ofNat found
  | .unmatchedClosing kind =>
    "'".toList ++ kind.closingWord ++ "' without matching '".toList ++ kind.openingWord
      ++ "'".toList
  | .nestedLoop => "nested loops are not supported".toList
  | .nestedMethod => "nested method definitions are not supported".toList
  | .unterminated kind => "'".toList ++ kind.openingWord ++ "' block is never closed".toList
  | .callDepth name limit =>
    "call to '".toList ++ name ++ "' exceeds the maximum call depth of ".toList ++ limit
  | .invalidOperator operator =>
    "invalid comparison operator '".toList ++ operator ++ "'".toList

def hints : Cause → List Text
  | .invalidTerm _ => ["terms must be integers or variable names joined by + or -".toList]
  | .malformedHeader kind => ["usage: ".toList ++ kind.usage]
  | .nestedLoop => ["the open loop has been discarded".toList]
  | .nestedMethod => ["the partial method definition has been discarded".toList]
  | .unterminated kind => ["expected '".toList ++ kind.closingWord ++ "'".toList]
  | .callDepth .. => ["methods cannot call themselves".toList]
  | .invalidOperator _ => ["supported operators: >, <, ==".toList]
  | _ => []

end Cause

/-- The report of a fault, an error that shows the whole line. -/
def Fault.diagnostic (f : Fault) : Diagnostic where
  code := f.cause.code
  kind := f.cause.kind
  message := f.cause.message
  severity := .error
  span := f.line.span
  source := some f.line.text
  hints := f.cause.hints

namespace Diagnostic

def line (d : Diagnostic) : Int := d.span.start.line

def isError (d : Diagnostic) : Bool := d.severity == .error

/-- `location: severity[code]: message`. -/
def headline (d : Diagnostic) : Text :=
  d.span.start.text ++ ": ".toList ++ d.severity.text ++ "[".toList ++ d.code ++ "]: ".toList
    ++ d.message

/-- A number with blanks before it up to a width of three. -/
def gutter (number : Int) : Text :=
  let digits := Text.ofInt number
  List.replicate (3 - digits.length) ' ' ++ digits

/-- The source line under its number, with carets below all of it. -/
def excerpt (number : Int) (source : Text) : List Text :=
  [ "  |".toList,
    gutter number ++ " | ".toList ++ source,
    "    | ".toList ++ List.replicate (max 1 source.length) '^' ]

/-- The report as it is shown, with or without the source line. -/
def format (showSource : Bool) (d : Diagnostic) : Text :=
  let excerpt := match showSource, d.source with
    | true, some source => excerpt d.line source
    | _, _ => []
  Text.join ['\n'] (d.headline :: excerpt ++ d.hints.map ("    = hint: ".toList ++ ·))

end Diagnostic

end Plotter
