import Plotter.Text.Basic

/-!
# A cursor in a settings file

A cursor is the rest of the text with the place where it stands.  Only the line and the column
matter for the meaning of the file: blocks are told apart by their columns.  A byte order mark
has no width.  The end of the text reads as a NUL, which no text holds.
-/

namespace Plotter.Yaml

/-- Why a file is not read, by the layer that refuses it. -/
inductive LoadError where
  /-- A character that a file may not hold. -/
  | character
  /-- The text does not fall into tokens. -/
  | token
  /-- The tokens do not form a document. -/
  | grammar
  /-- An alias or a document does not fit the others. -/
  | reference
  /-- A node has no value of the kind that its tag asks for. -/
  | value
  /-- A number has too many digits, a text is none, or a date is not in the calendar; with the
  message that says so. -/
  | number (message : Text)
  /-- A number is asked for and nothing is given. -/
  | missingNumber
  /-- A text is no truth value. -/
  | truth
  deriving DecidableEq, Repr

def endMark : Char := Char.ofNat 0

/-- A line break. -/
def isBreak (c : Char) : Bool :=
  let n := c.toNat
  n == 10 || n == 13 || n == 0x85 || n == 0x2028 || n == 0x2029

/-- A line break or the end of the text. -/
def isBreakOrEnd (c : Char) : Bool := isBreak c || c == endMark

/-- A blank, a line break or the end of the text. -/
def isGap (c : Char) : Bool := isBreakOrEnd c || c == ' ' || c == '\t'

/-- The characters that a file may hold. -/
def isAllowed (c : Char) : Bool :=
  let n := c.toNat
  n == 9 || n == 10 || n == 13 || (0x20 ≤ n && n ≤ 0x7E) || n == 0x85
    || (0xA0 ≤ n && n ≤ 0xD7FF) || (0xE000 ≤ n && n ≤ 0xFFFD) || 0x10000 ≤ n

structure Cursor where
  rest : Text
  index : Nat := 0
  line : Nat := 0
  column : Nat := 0

namespace Cursor

/-- The character some places after the cursor. -/
def peekAt (c : Cursor) (offset : Nat) : Char := c.rest[offset]?.getD endMark

def peek (c : Cursor) : Char := c.peekAt 0

/-- Past one character. -/
def next (c : Cursor) : Cursor :=
  match c.rest with
  | [] => c
  | ch :: rest =>
    let moved := { c with rest := rest, index := c.index + 1 }
    if isBreak ch && !(ch == '\r' && rest.head? == some '\n') then
      { moved with line := c.line + 1, column := 0 }
    else if ch.toNat == 0xFEFF then moved
    else { moved with column := c.column + 1 }

/-- Past a number of characters. -/
def skip : Nat → Cursor → Cursor
  | 0, c => c
  | count + 1, c => skip count c.next

/-- The characters in a class from the cursor on, and the cursor after them. -/
def span (inClass : Char → Bool) (c : Cursor) : Text × Cursor :=
  let found := c.rest.takeWhile inClass
  (found, c.skip found.length)

def skipWhile (inClass : Char → Bool) (c : Cursor) : Cursor := (c.span inClass).2

/-- Takes a line break: most kinds become a line feed, and no break becomes nothing. -/
def takeBreak (c : Cursor) : Text × Cursor :=
  let ch := c.peek
  if ch == '\r' && c.peekAt 1 == '\n' then (['\n'], c.skip 2)
  else if ch == '\r' || ch == '\n' || ch.toNat == 0x85 then (['\n'], c.next)
  else if isBreak ch then ([ch], c.next)
  else ([], c)

/-- Whether the cursor stands before a line of three dashes or three dots. -/
def atSeparator (c : Cursor) : Bool :=
  (c.rest.take 3 == ['-', '-', '-'] || c.rest.take 3 == ['.', '.', '.']) && isGap (c.peekAt 3)

end Cursor

end Plotter.Yaml
