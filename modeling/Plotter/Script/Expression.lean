import Plotter.Script.Keyword
import Plotter.Text.Blank
import Plotter.Text.Numeral

/-!
# Expressions

An expression is a chain of terms joined by single plus and minus signs, and one sign may stand
before the first term.  A term is a maximal run of characters that are neither blanks nor signs;
whether it is a literal or a name is not asked here.
-/

namespace Plotter

inductive Sign where
  | plus | minus
  deriving DecidableEq, Repr

/-- A term and the sign before it, plus when there is none. -/
structure Term where
  sign : Sign
  text : Text
  deriving DecidableEq, Repr

inductive ExprToken where
  | sign (s : Sign)
  | term (t : Text)
  deriving DecidableEq, Repr

def Sign.apply : Sign → Int → Int
  | .plus, n => n
  | .minus, n => -n

namespace Expression

def isTermChar (c : Char) : Bool := !Text.isBlank c && c != '+' && c != '-'

/-- The token that a piece of an expression is; a blank is none. -/
def tokenOf? : Text → Option ExprToken
  | ['+'] => some (.sign .plus)
  | ['-'] => some (.sign .minus)
  | piece => if piece.all isTermChar then some (.term piece) else none

def tokens (t : Text) : List ExprToken := (Text.pieces isTermChar t).filterMap tokenOf?

/-- The terms that follow a term: each needs exactly one sign before it. -/
def moreTerms? : List ExprToken → Option (List Term)
  | [] => some []
  | .sign s :: .term t :: rest => (moreTerms? rest).map (⟨s, t⟩ :: ·)
  | _ => none

def chain? : List ExprToken → Option (List Term)
  | .sign s :: .term t :: rest => (moreTerms? rest).map (⟨s, t⟩ :: ·)
  | .term t :: rest => (moreTerms? rest).map (⟨.plus, t⟩ :: ·)
  | _ => none

/-- The terms of an expression; none when it is not a chain. -/
def terms? (t : Text) : Option (List Term) := chain? (tokens t)

/-- A term that can have a value: a literal or a name. -/
def isOperand (t : Text) : Bool := Text.isInteger t || isName t

end Expression

end Plotter
