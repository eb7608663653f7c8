import Plotter.Text.Case

/-!
# Keywords

The reserved words fall into two groups.  Nine of them name the primitive drawing commands; the
other six open and close the three kinds of block.  A word is compared in lower case, so a
keyword may be written in any case, and no keyword can be the name of a variable or a method.
-/

namespace Plotter

/-- The drawing commands. -/
inductive Primitive where
  | moveTo | drawTo | clear | reset | rectangle | circle | triangle | pen | fill
  deriving DecidableEq, Repr

/-- The kinds of block. -/
inductive BlockKind where
  | conditional | loop | method
  deriving DecidableEq, Repr

inductive Keyword where
  | command (p : Primitive)
  | opening (kind : BlockKind)
  | closing (kind : BlockKind)
  deriving DecidableEq, Repr

def Primitive.word : Primitive → Text
  | .moveTo => "moveto".toList
  | .drawTo => "drawto".toList
  | .clear => "clear".toList
  | .reset => "reset".toList
  | .rectangle => "rectangle".toList
  | .circle => "circle".toList
  | .triangle => "triangle".toList
  | .pen => "pen".toList
  | .fill => "fill".toList

def Primitive.all : List Primitive :=
  [.moveTo, .drawTo, .clear, .reset, .rectangle, .circle, .triangle, .pen, .fill]

def BlockKind.openingWord : BlockKind → Text
  | .conditional => "if".toList
  | .loop => "loop".toList
  | .method => "method".toList

def BlockKind.closingWord : BlockKind → Text
  | .conditional => "endif".toList
  | .loop => "endloop".toList
  | .method => "endmethod".toList

namespace Keyword

def word : Keyword → Text
  | .command p => p.word
  | .opening kind => kind.openingWord
  | .closing kind => kind.closingWord

def all : List Keyword :=
  Primitive.all.map .command ++
    [.opening .conditional, .closing .conditional, .opening .loop, .closing .loop,
      .opening .method, .closing .method]

/-- The keyword that a word spells, in any case. -/
def ofWord? (w : Text) : Option Keyword :=
  let lowered := Text.lower w
  all.find? fun k => k.word == lowered

/-- The drawing command of a keyword, if it is one. -/
def primitive? : Keyword → Option Primitive
  | .command p => some p
  | _ => none

end Keyword

def isReserved (w : Text) : Bool := (Keyword.ofWord? w).isSome

/-- A word that can name a variable, a method or a parameter: letters only, and not reserved. -/
def isName (w : Text) : Bool := !w.isEmpty && w.all Text.isLetter && !isReserved w

/-- The colours that a script can give to the pen. -/
inductive PenColor where
  | red | green | blue | black
  deriving DecidableEq, Repr

namespace PenColor

def word : PenColor → Text
  | .red => "red".toList
  | .green => "green".toList
  | .blue => "blue".toList
  | .black => "black".toList

def all : List PenColor := [.red, .green, .blue, .black]

/-- The colour that a word in lower case names. -/
def ofWord? (w : Text) : Option PenColor := all.find? fun color => color.word == w

end PenColor

end Plotter
