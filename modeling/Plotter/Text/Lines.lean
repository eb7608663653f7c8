import Plotter.Text.Basic

/-!
# Line breaks

A source text is cut at line feeds, carriage returns, the pair of the two, vertical tabs, form
feeds, the three larger information separators, the next-line character and the Unicode line and
paragraph separators.  A break ends a line rather than separating two, so a final break adds no
empty line.
-/

namespace Plotter.Text

def isBreak (c : Char) : Bool :=
  let n := c.toNat
  (0x0A ≤ n && n ≤ 0x0D) || (0x1C ≤ n && n ≤ 0x1E) || n == 0x85 || n == 0x2028 || n == 0x2029

/-- The lines of a text, without their breaks. -/
def lines : Text → List Text
  | [] => []
  | '\r' :: '\n' :: rest => [] :: lines rest
  | c :: rest =>
    if isBreak c then [] :: lines rest
    else
      match lines rest with
      | [] => [[c]]
      | first :: later => (c :: first) :: later

end Plotter.Text
