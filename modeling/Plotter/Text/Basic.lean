/-!
# Text

A text is a list of code points: every length, column and caret of a report counts code points,
and every recogniser of the script language walks such a list from the left.

The two ways of cutting a text that the language needs are both *run-wise*.  `runs` keeps the
maximal runs of the characters in a class and forgets the rest, which is how a line becomes
words and an argument list becomes arguments.  `pieces` forgets nothing: what lies between two
runs comes back one character at a time, so the pieces always concatenate to the text.
-/

namespace Plotter

abbrev Text := List Char

namespace Text

/-- The maximal runs of characters in the class, in order. -/
def runs (inClass : Char → Bool) : Text → List Text
  | [] => []
  | c :: rest =>
    if inClass c then
      match rest, runs inClass rest with
      | next :: _, first :: later =>
        if inClass next then (c :: first) :: later else [c] :: first :: later
      | _, found => [c] :: found
    else
      runs inClass rest

/-- The maximal runs of the class, and every other character as a piece of its own. -/
def pieces (inClass : Char → Bool) : Text → List Text
  | [] => []
  | c :: rest =>
    if inClass c then
      match rest, pieces inClass rest with
      | next :: _, first :: later =>
        if inClass next then (c :: first) :: later else [c] :: first :: later
      | _, found => [c] :: found
    else
      [c] :: pieces inClass rest

/-- The texts one after another with a separator between neighbours. -/
def join (separator : Text) : List Text → Text
  | [] => []
  | [only] => only
  | first :: next :: rest => first ++ separator ++ join separator (next :: rest)

/-- The order of texts by their code points. -/
def precedes : Text → Text → Bool
  | [], _ => true
  | _ :: _, [] => false
  | a :: rest, b :: others =>
    if a.toNat < b.toNat then true
    else if b.toNat < a.toNat then false
    else precedes rest others

def sort (texts : List Text) : List Text := texts.mergeSort precedes

/-- An unaccented Latin letter, the only kind that may stand in a name. -/
def isLetter (c : Char) : Bool :=
  ('a'.toNat ≤ c.toNat && c.toNat ≤ 'z'.toNat) || ('A'.toNat ≤ c.toNat && c.toNat ≤ 'Z'.toNat)

theorem flatten_pieces (inClass : Char → Bool) (t : Text) :
    (pieces inClass t).flatten = t := by
  induction t with
  | nil => rfl
  | cons c rest ih =>
    simp only [pieces]
    split
    · split
      · next next_ _ first later _ found =>
        rw [found] at ih
        split <;> simp_all
      · simp_all
    · simp_all

end Text

end Plotter
