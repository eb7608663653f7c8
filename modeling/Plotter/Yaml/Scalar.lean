import Plotter.Yaml.Cursor

/-!
# Scalars as they are written

A scalar is written plain, between quotes, or as an indented block after a header.  A line break
inside a plain or quoted scalar is folded: one break becomes a space, and of several the first is
dropped.  A block keeps its breaks (`literal`) or folds them (`folded`).
-/

namespace Plotter.Yaml

/-- The text of a scalar and the cursor after it. -/
abbrev Scanned := Except LoadError (Text × Cursor)

namespace Scalar

/-- A folded line break: nothing is left of one that is followed by others. -/
def foldBreak (first : Text) (others : Text) : Text :=
  if first != ['\n'] then first ++ others
  else if others.isEmpty then [' ']
  else others

/-! ### Plain scalars -/

/-- Whether a plain scalar ends at a character that is followed by another. -/
def endsPlain (inFlow : Bool) (ch following : Char) : Bool :=
  isGap ch
    || (ch == ':' && (isGap following || (inFlow && ",[]\x7b\x7d".toList.contains following)))
    || (inFlow && ",?[]\x7b\x7d".toList.contains ch)

/-- The length of the part of a plain scalar before the next gap. -/
def plainLength (inFlow : Bool) : Text → Nat
  | [] => 0
  | ch :: rest =>
    if endsPlain inFlow ch (rest.head?.getD endMark) then 0 else plainLength inFlow rest + 1

/-- The blanks and breaks after the first break inside a plain scalar; none before a separator. -/
def plainBreaks : (fuel : Nat) → (found : Text) → Cursor → Option Text × Cursor
  | 0, found, c => (some found, c)
  | fuel + 1, found, c =>
    if c.peek == ' ' then plainBreaks fuel found c.next
    else if isBreak c.peek then
      let (taken, after) := c.takeBreak
      if after.atSeparator then (none, after) else plainBreaks fuel (found ++ taken) after
    else (some found, c)

/-- What stands between two parts of a plain scalar.  The second result is the text to put
between them, none when the scalar ends here; the last says whether a line ended. -/
def plainGap (c : Cursor) : Cursor × Option Text × Bool :=
  let (blanks, after) := c.span (· == ' ')
  if isBreak after.peek then
    let (first, next) := after.takeBreak
    if next.atSeparator then (next, none, true)
    else
      match plainBreaks next.rest.length [] next with
      | (none, stop) => (stop, none, true)
      | (some others, stop) => (stop, some (foldBreak first others), true)
  else (after, if blanks.isEmpty then none else some blanks, false)

/-- A plain scalar with what was found of it, under a block at the given column.  The last result
says whether the last thing that was read is a line end. -/
def plainFrom (inFlow : Bool) (indent : Int) :
    (fuel : Nat) → (found gap : Text) → (lineEnded : Bool) → Cursor → Text × Cursor × Bool
  | 0, found, _, ended, c => (found, c, ended)
  | fuel + 1, found, gap, ended, c =>
    let length := if c.peek == '#' then 0 else plainLength inFlow c.rest
    if length == 0 then (found, c, ended)
    else
      let longer := found ++ gap ++ c.rest.take length
      match plainGap (c.skip length) with
      | (after, none, lineEnded) => (longer, after, lineEnded)
      | (after, some between, lineEnded) =>
        if after.peek == '#' || (!inFlow && (after.column : Int) < indent) then
          (longer, after, lineEnded)
        else plainFrom inFlow indent fuel longer between lineEnded after

/-- A plain scalar inside a block at the given column, and whether it ends a line. -/
def plain (inFlow : Bool) (indent : Int) (c : Cursor) : Text × Cursor × Bool :=
  plainFrom inFlow (indent + 1) (c.rest.length + 1) [] [] false c

/-! ### Quoted scalars -/

def isHexDigit (c : Char) : Bool :=
  let n := c.toNat
  (48 ≤ n && n ≤ 57) || (97 ≤ n && n ≤ 102) || (65 ≤ n && n ≤ 70)

def hexValue (c : Char) : Nat :=
  let n := c.toNat
  if n ≤ 57 then n - 48 else if n ≤ 70 then n - 55 else n - 87

def hexNumber (t : Text) : Nat := t.foldl (fun total c => total * 16 + hexValue c) 0

/-- The escapes of one character. -/
def escapes : List (Char × Nat) :=
  [ ('0', 0), ('a', 7), ('b', 8), ('t', 9), ('\t', 9), ('n', 10), ('v', 11), ('f', 12),
    ('r', 13), ('e', 27), (' ', 32), ('"', 34), ('\\', 92), ('/', 47), ('N', 0x85),
    ('_', 0xA0), ('L', 0x2028), ('P', 0x2029) ]

/-- The number of digits after an escape that gives a code point. -/
def escapeWidth? (c : Char) : Option Nat :=
  if c == 'x' then some 2 else if c == 'u' then some 4 else if c == 'U' then some 8 else none

/-- The empty lines after a break inside a quoted scalar. -/
def quotedBreaks : (fuel : Nat) → (found : Text) → Cursor → Scanned
  | 0, found, c => .ok (found, c)
  | fuel + 1, found, c =>
    if c.atSeparator then .error .token
    else
      let after := c.skipWhile fun ch => ch == ' ' || ch == '\t'
      if isBreak after.peek then
        let (taken, next) := after.takeBreak
        quotedBreaks fuel (found ++ taken) next
      else .ok (found, after)

/-- What a backslash stands for, from the character after it. -/
def escaped (c : Cursor) : Scanned :=
  let ch := c.peek
  match escapes.find? fun entry => entry.1 == ch with
  | some (_, code) => .ok ([Char.ofNat code], c.next)
  | none =>
    match escapeWidth? ch with
    | some width =>
      let digits := c.next.rest.take width
      if digits.length == width && digits.all isHexDigit then
        .ok ([Char.ofNat (hexNumber digits)], c.skip (width + 1))
      else .error .token
    | none =>
      if isBreak ch then
        let (_, next) := c.takeBreak
        quotedBreaks (next.rest.length + 1) [] next
      else .error .token

/-- What blanks and breaks inside a quoted scalar stand for. -/
def quotedGap (c : Cursor) : Scanned :=
  let (blanks, after) := c.span fun ch => ch == ' ' || ch == '\t'
  if after.peek == endMark then .error .token
  else if isBreak after.peek then do
    let (first, next) := after.takeBreak
    let (others, stop) ← quotedBreaks (next.rest.length + 1) [] next
    return (foldBreak first others, stop)
  else .ok (blanks, after)

def singleQuote : Char := Char.ofNat 39

/-- The rest of a quoted scalar after what was found of it. -/
def quotedFrom (quote : Char) : (fuel : Nat) → (found : Text) → Cursor → Scanned
  | 0, _, _ => .error .token
  | fuel + 1, found, c =>
    let ch := c.peek
    if ch == quote then
      if quote == singleQuote && c.peekAt 1 == singleQuote then
        quotedFrom quote fuel (found ++ [singleQuote]) (c.skip 2)
      else .ok (found, c.next)
    else if quote == '"' && ch == '\\' then
      match escaped c.next with
      | .ok (text, after) => quotedFrom quote fuel (found ++ text) after
      | .error e => .error e
    else if isGap ch then
      match quotedGap c with
      | .ok (text, after) => quotedFrom quote fuel (found ++ text) after
      | .error e => .error e
    else quotedFrom quote fuel (found ++ [ch]) c.next

/-- A scalar between quotes, from the opening one. -/
def quoted (c : Cursor) : Scanned :=
  quotedFrom c.peek (c.rest.length + 1) [] c.next

/-! ### Block scalars -/

/-- What is kept of the breaks at the end of a block. -/
inductive Chomping where
  | strip | clip | keep
  deriving DecidableEq, Repr

def chomping? (ch : Char) : Option Chomping :=
  if ch == '+' then some .keep else if ch == '-' then some .strip else none

def indentation? (ch : Char) : Option Nat :=
  if '0'.toNat ≤ ch.toNat && ch.toNat ≤ '9'.toNat then some (ch.toNat - '0'.toNat) else none

/-- The indicators in the header of a block, in either order. -/
def indicators (c : Cursor) : Chomping × Option Nat × Cursor :=
  match chomping? c.peek with
  | some chomping =>
    match indentation? c.next.peek with
    | some width => (chomping, some width, c.skip 2)
    | none => (chomping, none, c.next)
  | none =>
    match indentation? c.peek with
    | none => (.clip, none, c)
    | some width =>
      match chomping? c.next.peek with
      | some chomping => (chomping, some width, c.skip 2)
      | none => (.clip, some width, c.next)

/-- The rest of a header line, which may hold a comment. -/
def headerEnd (c : Cursor) : Except LoadError Cursor :=
  if !(isBreakOrEnd c.peek || c.peek == ' ') then .error .token
  else
    let after := c.skipWhile (· == ' ')
    let stop := if after.peek == '#' then after.skipWhile (fun ch => !isBreakOrEnd ch) else after
    if isBreakOrEnd stop.peek then .ok stop.takeBreak.2 else .error .token

/-- The blank lines at the start of a block, and the greatest column reached in them. -/
def leadingBreaks : (fuel : Nat) → (found : Text) → (widest : Nat) → Cursor → Text × Nat × Cursor
  | 0, found, widest, c => (found, widest, c)
  | fuel + 1, found, widest, c =>
    if c.peek == ' ' then leadingBreaks fuel found (max widest c.next.column) c.next
    else if isBreak c.peek then
      let (taken, next) := c.takeBreak
      leadingBreaks fuel (found ++ taken) widest next
    else (found, widest, c)

/-- Past the spaces up to a column. -/
def toColumn (indent : Nat) : (fuel : Nat) → Cursor → Cursor
  | 0, c => c
  | fuel + 1, c => if c.column < indent && c.peek == ' ' then toColumn indent fuel c.next else c

/-- The blank lines inside a block. -/
def blockBreaks (indent : Nat) : (fuel : Nat) → (found : Text) → Cursor → Text × Cursor
  | 0, found, c => (found, c)
  | fuel + 1, found, c =>
    let after := toColumn indent indent c
    if isBreak after.peek then
      let (taken, next) := after.takeBreak
      blockBreaks indent fuel (found ++ taken) next
    else (found, after)

def isBlank (ch : Char) : Bool := ch == ' ' || ch == '\t'

/-- The lines of a block after what was found of it, with the breaks before the next line. -/
def blockLines (folded : Bool) (indent : Nat) (chomping : Chomping) :
    (fuel : Nat) → (found breaks lastBreak : Text) → Cursor → Text × Cursor
  | 0, found, _, _, c => (found, c)
  | fuel + 1, found, breaks, lastBreak, c =>
    let ending :=
      match chomping with
      | .strip => []
      | .clip => lastBreak
      | .keep => lastBreak ++ breaks
    if c.column == indent && c.peek != endMark then
      let (line, after) := c.span fun ch => !isBreakOrEnd ch
      let (lineBreak, next) := after.takeBreak
      let (others, stop) := blockBreaks indent (next.rest.length + 1) [] next
      let text := found ++ breaks ++ line
      if stop.column == indent && stop.peek != endMark then
        let folds := folded && lineBreak == ['\n'] && !isBlank c.peek && !isBlank stop.peek
        let between := if folds then (if others.isEmpty then [' '] else []) else lineBreak
        blockLines folded indent chomping fuel (text ++ between) others lineBreak stop
      else
        match chomping with
        | .strip => (text, stop)
        | .clip => (text ++ lineBreak, stop)
        | .keep => (text ++ lineBreak ++ others, stop)
    else (found ++ ending, c)

/-- A block scalar from its indicator, inside a block at the given column. -/
def block (indent : Int) (c : Cursor) : Scanned := do
  let folded := c.peek == '>'
  let (chomping, width, after) := indicators c.next
  if width == some 0 then throw .token
  let start ← headerEnd after
  let least : Nat := max 1 (indent + 1).toNat
  match width with
  | some w =>
    let column := least + w - 1
    let (breaks, first) := blockBreaks column (start.rest.length + 1) [] start
    return blockLines folded column chomping (first.rest.length + 1) [] breaks [] first
  | none =>
    let (breaks, widest, first) := leadingBreaks (start.rest.length + 1) [] 0 start
    let column := max least widest
    return blockLines folded column chomping (first.rest.length + 1) [] breaks [] first

end Scalar

end Plotter.Yaml
