import Plotter.Dictionary
import Plotter.Text.Blank
import Plotter.Text.Numeral

/-!
# Substitution

Two substitutions take place before a command runs.  Variables are replaced word by word: a word
that is the name of a variable becomes its decimal value.  Parameters of a method are replaced
run by run: the text is cut into maximal runs of letters, digits and underscores, and a run that
is a parameter becomes the argument.  All parameters are replaced at once, and what has been put
in is not looked at again.
-/

namespace Plotter.Substitution

/-- Replaces the words that name a variable; a value with too many digits cannot be written. -/
def words (store : Dictionary Int) : List Text → Except NumeralError (List Text)
  | [] => .ok []
  | word :: rest => do
    let replaced ← match store.get? word with
      | some value => Text.writeInteger value
      | none => .ok word
    return replaced :: (← words store rest)

/-- The words of a text with the variables replaced, one space apart. -/
def line (store : Dictionary Int) (t : Text) : Except NumeralError Text :=
  (words store (Text.words t)).map Text.unwords

/-- Characters that belong to the same run as a parameter next to them. -/
def isRunChar (c : Char) : Bool :=
  Text.isLetter c || ('0'.toNat ≤ c.toNat && c.toNat ≤ '9'.toNat) || c == '_'

/-- What a piece of the text becomes. -/
def replacement (mapping : Dictionary Text) (piece : Text) : Text :=
  if piece.all Text.isLetter then (mapping.get? piece).getD piece else piece

/-- Replaces all parameters of a text at once. -/
def parameters (mapping : Dictionary Text) (t : Text) : Text :=
  (Text.pieces isRunChar t).flatMap (replacement mapping)

end Plotter.Substitution
