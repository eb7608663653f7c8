import Plotter.Script.Keyword
import Plotter.Text.Blank

/-!
# Method headers and calls

`method name(a, b)` opens a definition and `name(1, 2)` is a call.  Commas and blanks separate
the items of a list in any mix, so a list of items is the list of the maximal runs of other
characters.  The parentheses of a header may be left out.
-/

namespace Plotter

/-- The name and the formal parameters of a method. -/
structure Header where
  name : Text
  parameters : List Text
  deriving DecidableEq, Repr

/-- The name and the actual arguments of a call. -/
structure Call where
  name : Text
  arguments : List Text
  deriving DecidableEq, Repr

namespace Signature

def isItemChar (c : Char) : Bool := !Text.isBlank c && c != ','

/-- The items of a list separated by commas and blanks. -/
def items (t : Text) : List Text := Text.runs isItemChar t

def isParenthesis (c : Char) : Bool := c == '(' || c == ')'

/-- The text between parentheses that enclose the whole of a text; a line feed may follow. -/
def parenthesised? : Text → Option Text
  | '(' :: rest =>
    match rest.dropWhile (fun c => !isParenthesis c) with
    | [')'] | [')', '\n'] => some (rest.takeWhile fun c => !isParenthesis c)
    | _ => none
  | _ => none

def noRepeats : List Text → Bool
  | [] => true
  | first :: rest => !rest.contains first && noRepeats rest

end Signature

open Signature

/-- Reads a call. -/
def Call.parse? (t : Text) : Option Call :=
  let name := t.takeWhile Text.isLetter
  if name.isEmpty || isReserved name then none
  else
    (parenthesised? (Text.trimStart (t.dropWhile Text.isLetter))).map fun inner =>
      ⟨name, items inner⟩

namespace Header

/-- The list of parameters after the name: in parentheses, or a rest that has none. -/
def parameterText? (afterName : Text) : Option Text :=
  match parenthesised? (Text.trimStart afterName) with
  | some inner => some inner
  | none => if afterName.any isParenthesis then none else some afterName

/-- What follows the word `method` and the blanks after it. -/
def afterKeyword? (t : Text) : Option Text :=
  let rest := t.drop 6
  if Text.lower (t.take 6) == "method".toList && rest.head?.any Text.isBlank then
    some (Text.trimStart rest)
  else none

/-- Reads a header; the parameters must be names and must not repeat. -/
def parse? (t : Text) : Option Header := do
  let rest ← afterKeyword? t
  let name := rest.takeWhile Text.isLetter
  let parameters := items (← parameterText? (rest.dropWhile Text.isLetter))
  if isName name && parameters.all isName && noRepeats parameters then
    some ⟨name, parameters⟩
  else none

end Header

end Plotter
