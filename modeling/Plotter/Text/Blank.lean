import Plotter.Text.Basic

/-!
# Blank characters

Words of a line are separated by blanks, and a line is trimmed of the blanks at its two ends.
The class is wider than the space and the tab: it has the vertical and the information
separators, the no-break spaces and the typographic spaces.  The zero-width space and the byte
order mark are not in it.
-/

namespace Plotter.Text

def isBlank (c : Char) : Bool :=
  let n := c.toNat
  (0x09 ≤ n && n ≤ 0x0D) || (0x1C ≤ n && n ≤ 0x20) || n == 0x85 || n == 0xA0 || n == 0x1680
    || (0x2000 ≤ n && n ≤ 0x200A) || n == 0x2028 || n == 0x2029 || n == 0x202F || n == 0x205F
    || n == 0x3000

def trimStart (t : Text) : Text := t.dropWhile isBlank

def trimEnd : Text → Text
  | [] => []
  | c :: rest =>
    match trimEnd rest with
    | [] => if isBlank c then [] else [c]
    | kept => c :: kept

/-- The text without the blanks at its two ends. -/
def trim (t : Text) : Text := trimEnd (trimStart t)

/-- The maximal runs without a blank. -/
def words (t : Text) : List Text := runs (fun c => !isBlank c) t

/-- The words again, with one space between neighbours. -/
def unwords (ws : List Text) : Text := join [' '] ws

end Plotter.Text
