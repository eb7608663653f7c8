import Plotter.Yaml.Scalar

/-!
# Tokens of a settings file

Tokens are made as they are asked for.  The start and the end of a block are tokens of their own,
made when the column grows or shrinks.  A key without a mark of its own is recognised by the colon
after it: until a line or 1024 characters have passed it is a *possible key*, and when the colon
comes, the token that marks a key is put before it.  So a token that may still turn out to be a
key is not handed out before that is settled.
-/

namespace Plotter.Yaml

inductive Token where
  | streamStart
  | streamEnd
  | versionDirective (major : Nat)
  | tagDirective (handle expansion : Text)
  | otherDirective
  | documentStart
  | documentEnd
  | blockSequenceStart
  | blockMappingStart
  | blockEnd
  | flowSequenceStart
  | flowMappingStart
  | flowSequenceEnd
  | flowMappingEnd
  | blockEntry
  | flowEntry
  | key
  | value
  | alias (name : Text)
  | anchor (name : Text)
  | tag (handle : Option Text) (suffix : Text)
  | scalar (text : Text) (plain : Bool)
  deriving DecidableEq, Repr

/-- A token that becomes a key if a colon follows: its number, and where it stands.  A key that
is required must be followed by one. -/
structure PossibleKey where
  number : Nat
  required : Bool
  index : Nat
  line : Nat
  column : Nat

structure Lexer where
  cursor : Cursor
  /-- The tokens that have been made and not taken. -/
  queue : List Token := [.streamStart]
  taken : Nat := 0
  /-- The column of the innermost block, and of those around it. -/
  indent : Int := -1
  outer : List Int := []
  flow : Int := 0
  keyAllowed : Bool := true
  /-- The possible keys, at most one on each level of flow. -/
  possible : List (Int × PossibleKey) := []
  finished : Bool := false

namespace Lexer

def inFlow (l : Lexer) : Bool := l.flow != 0

def emit (l : Lexer) (t : Token) : Lexer := { l with queue := l.queue ++ [t] }

/-- Past some characters. -/
def skip (l : Lexer) (count : Nat) : Lexer := { l with cursor := l.cursor.skip count }

/-! ### Possible keys -/

/-- A possible key that has not become one in time. -/
def isStale (l : Lexer) (k : PossibleKey) : Bool :=
  k.line != l.cursor.line || l.cursor.index - k.index > 1024

def dropStale (l : Lexer) : Except LoadError Lexer :=
  let (stale, fresh) := l.possible.partition fun entry => l.isStale entry.2
  if stale.any fun entry => entry.2.required then .error .token
  else .ok { l with possible := fresh }

def possibleHere? (l : Lexer) : Option PossibleKey :=
  (l.possible.find? fun entry => entry.1 == l.flow).map Prod.snd

def forgetKey (l : Lexer) : Except LoadError Lexer :=
  match l.possibleHere? with
  | none => .ok l
  | some k =>
    if k.required then .error .token
    else .ok { l with possible := l.possible.filter fun entry => entry.1 != l.flow }

/-- Notes that the next token may be a key. -/
def noteKey (l : Lexer) : Except LoadError Lexer :=
  if !l.keyAllowed then .ok l
  else do
    let key : PossibleKey :=
      { number := l.taken + l.queue.length
        required := !l.inFlow && l.indent == l.cursor.column
        index := l.cursor.index
        line := l.cursor.line
        column := l.cursor.column }
    let cleared ← l.forgetKey
    return { cleared with possible := cleared.possible ++ [(cleared.flow, key)] }

/-! ### Columns -/

/-- Ends the blocks that stand at greater columns. -/
def unwindFrom (column : Int) : (indent : Int) → (outer : List Int) → (queue : List Token) →
    Int × List Int × List Token
  | indent, [], queue => (indent, [], queue)
  | indent, next :: rest, queue =>
    if column < indent then unwindFrom column next rest (queue ++ [.blockEnd])
    else (indent, next :: rest, queue)

def unwind (l : Lexer) (column : Int) : Lexer :=
  if l.inFlow then l
  else
    let (indent, outer, queue) := unwindFrom column l.indent l.outer l.queue
    { l with indent := indent, outer := outer, queue := queue }

/-- Starts a block at a greater column; whether it did. -/
def indentTo (l : Lexer) (column : Nat) : Lexer × Bool :=
  if l.indent < column then
    ({ l with outer := l.indent :: l.outer, indent := column }, true)
  else (l, false)

/-! ### Gaps -/

/-- Past blanks, comments and line ends; a line end outside of flow allows a key. -/
def skipGaps : (fuel : Nat) → Lexer → Lexer
  | 0, l => l
  | fuel + 1, l =>
    let spaced := l.cursor.skipWhile (· == ' ')
    let after :=
      if spaced.peek == '#' then spaced.skipWhile (fun ch => !isBreakOrEnd ch) else spaced
    if isBreak after.peek then
      let next := after.takeBreak.2
      skipGaps fuel { l with cursor := next, keyAllowed := l.keyAllowed || !l.inFlow }
    else { l with cursor := after }

def toNextToken (l : Lexer) : Lexer :=
  let start :=
    if l.cursor.index == 0 && l.cursor.peek.toNat == 0xFEFF then l.skip 1 else l
  skipGaps (start.cursor.rest.length + 1) start

/-! ### Tokens of more than a mark -/

def isNameChar (c : Char) : Bool :=
  Text.isLetter c || ('0'.toNat ≤ c.toNat && c.toNat ≤ '9'.toNat) || c == '-' || c == '_'

/-- The name of an anchor or an alias. -/
def anchorName (c : Cursor) : Scanned :=
  let (name, after) := c.next.span isNameChar
  if name.isEmpty then .error .token
  else if isGap after.peek || "?:,]\x7d%@`".toList.contains after.peek then .ok (name, after)
  else .error .token

def isUriChar (c : Char) : Bool :=
  isNameChar c || ";/?:@&=+$,.!~*()[]".toList.contains c || c == Scalar.singleQuote

/-- The text of a tag, in which an escaped byte stands for itself. -/
def uriFrom : (fuel : Nat) → (found : Text) → Cursor → Scanned
  | 0, found, c => .ok (found, c)
  | fuel + 1, found, c =>
    if c.peek == '%' then
      let digits := c.next.rest.take 2
      if digits.length == 2 && digits.all Scalar.isHexDigit then
        uriFrom fuel (found ++ [Char.ofNat (Scalar.hexNumber digits)]) (c.skip 3)
      else .error .token
    else if isUriChar c.peek then uriFrom fuel (found ++ [c.peek]) c.next
    else if found.isEmpty then .error .token
    else .ok (found, c)

def uri (c : Cursor) : Scanned := uriFrom (c.rest.length + 1) [] c

/-- A handle between exclamation marks. -/
def tagHandle (c : Cursor) : Scanned :=
  if c.peek != '!' then .error .token
  else
    let (name, after) := c.next.span isNameChar
    if after.peek == '!' then .ok ('!' :: name ++ ['!'], after.next)
    else .error .token

/-- Whether a second exclamation mark stands before the next blank. -/
def hasHandle (t : Text) : Bool :=
  (t.takeWhile fun c => !(isBreakOrEnd c || c == ' ')).contains '!'

/-- A tag: a text in angle brackets, a lone mark, or a handle and a suffix. -/
def tagToken (c : Cursor) : Except LoadError (Token × Cursor) := do
  let (token, after) ←
    if c.peekAt 1 == '<' then do
      let (suffix, after) ← uri (c.skip 2)
      if after.peek != '>' then throw .token
      pure (Token.tag none suffix, after.next)
    else if isGap (c.peekAt 1) then pure (Token.tag none ['!'], c.next)
    else if hasHandle (c.rest.drop 1) then do
      let (handle, after) ← tagHandle c
      let (suffix, stop) ← uri after
      pure (Token.tag (some handle) suffix, stop)
    else do
      let (suffix, after) ← uri c.next
      pure (Token.tag (some ['!']) suffix, after)
  if isBreakOrEnd after.peek || after.peek == ' ' then return (token, after) else throw .token

def isPlainDigit (c : Char) : Bool := '0'.toNat ≤ c.toNat && c.toNat ≤ '9'.toNat

/-- The two numbers of a version. -/
def version (c : Cursor) : Except LoadError (Nat × Cursor) := do
  let (major, after) := (c.skipWhile (· == ' ')).span isPlainDigit
  if major.isEmpty || after.peek != '.' then throw .token
  let (minor, stop) := after.next.span isPlainDigit
  if minor.isEmpty || !(isBreakOrEnd stop.peek || stop.peek == ' ') then throw .token
  return (major.foldl (fun total d => total * 10 + (d.toNat - 48)) 0, stop)

/-- The handle of a tag directive and what it stands for. -/
def tagExpansion (c : Cursor) : Except LoadError (Token × Cursor) := do
  let start := c.skipWhile (· == ' ')
  let (handle, after) ←
    if start.peek == '!' && start.peekAt 1 == ' ' then pure (['!'], start.next)
    else tagHandle start
  if after.peek != ' ' then throw .token
  let (expansion, stop) ← uri (after.skipWhile (· == ' '))
  if !(isBreakOrEnd stop.peek || stop.peek == ' ') then throw .token
  return (.tagDirective handle expansion, stop)

/-- A directive, up to the end of its line. -/
def directive (c : Cursor) : Except LoadError (Token × Cursor) := do
  let (name, after) := c.next.span isNameChar
  if name.isEmpty || !(isBreakOrEnd after.peek || after.peek == ' ') then throw .token
  let (token, stop) ←
    if name == "YAML".toList then do
      let (major, stop) ← version after
      pure (Token.versionDirective major, stop)
    else if name == "TAG".toList then tagExpansion after
    else pure (Token.otherDirective, after.skipWhile fun ch => !isBreakOrEnd ch)
  return (token, ← Scalar.headerEnd stop)

/-! ### The next tokens -/

def withCursor (l : Lexer) (found : Except LoadError (Token × Cursor)) :
    Except LoadError Lexer := do
  let (token, after) ← found
  return { l.emit token with cursor := after }

/-- A token that may be a key. -/
def keyToken (l : Lexer) (found : Except LoadError (Token × Cursor)) :
    Except LoadError Lexer := do
  let noted ← l.noteKey
  withCursor { noted with keyAllowed := false } found

/-- Everything open ends before a document indicator or a directive. -/
def closeAll (l : Lexer) : Except LoadError Lexer := do
  let cleared ← (l.unwind (-1)).forgetKey
  return { cleared with keyAllowed := false }

def endStream (l : Lexer) : Except LoadError Lexer := do
  let closed ← l.closeAll
  return { closed.emit .streamEnd with possible := [], finished := true }

def documentMark (l : Lexer) (t : Token) : Except LoadError Lexer := do
  return ((← l.closeAll).emit t).skip 3

def openFlow (l : Lexer) (t : Token) : Except LoadError Lexer := do
  let noted ← l.noteKey
  return ({ noted with flow := noted.flow + 1, keyAllowed := true }.emit t).skip 1

def closeFlow (l : Lexer) (t : Token) : Except LoadError Lexer := do
  let cleared ← l.forgetKey
  return ({ cleared with flow := cleared.flow - 1, keyAllowed := false }.emit t).skip 1

def flowComma (l : Lexer) : Except LoadError Lexer := do
  let cleared ← { l with keyAllowed := true }.forgetKey
  return (cleared.emit .flowEntry).skip 1

/-- Starts a block at the cursor, outside of flow, where a key is allowed. -/
def startBlock (l : Lexer) (t : Token) : Except LoadError Lexer :=
  if l.inFlow then .ok l
  else if !l.keyAllowed then .error .token
  else
    let (started, grew) := l.indentTo l.cursor.column
    .ok (if grew then started.emit t else started)

def dash (l : Lexer) : Except LoadError Lexer := do
  let started ← l.startBlock .blockSequenceStart
  let cleared ← { started with keyAllowed := true }.forgetKey
  return (cleared.emit .blockEntry).skip 1

def questionMark (l : Lexer) : Except LoadError Lexer := do
  let started ← l.startBlock .blockMappingStart
  let cleared ← { started with keyAllowed := !l.inFlow }.forgetKey
  return (cleared.emit .key).skip 1

/-- Puts tokens into the queue before the token of a number. -/
def insertBefore (l : Lexer) (number : Nat) (ts : List Token) : Lexer :=
  let place := number - l.taken
  { l with queue := l.queue.take place ++ ts ++ l.queue.drop place }

/-- A colon makes a key of the possible key before it; without one it starts a value alone. -/
def colon (l : Lexer) : Except LoadError Lexer := do
  let ready ← match l.possibleHere? with
    | some k =>
      let cleared := { l with possible := l.possible.filter fun entry => entry.1 != l.flow }
      let (started, grew) := if l.inFlow then (cleared, false) else cleared.indentTo k.column
      let marks := if grew then [Token.blockMappingStart, .key] else [.key]
      pure { started.insertBefore k.number marks with keyAllowed := false }
    | none => do
      let started ← l.startBlock .blockMappingStart
      { started with keyAllowed := !l.inFlow }.forgetKey
  return (ready.emit .value).skip 1

def blockScalar (l : Lexer) : Except LoadError Lexer := do
  let cleared ← { l with keyAllowed := true }.forgetKey
  let (text, after) ← Scalar.block cleared.indent cleared.cursor
  return { cleared.emit (.scalar text false) with cursor := after }

def plainScalar (l : Lexer) : Except LoadError Lexer := do
  let noted ← l.noteKey
  let (text, after, lineEnded) := Scalar.plain noted.inFlow noted.indent noted.cursor
  return { noted.emit (.scalar text true) with cursor := after, keyAllowed := lineEnded }

/-- A character that can start a plain scalar, given the one after it. -/
def startsPlain (inFlow : Bool) (ch following : Char) : Bool :=
  !(isGap ch || "-?:,[]\x7b\x7d#&*!|>\"%@`".toList.contains ch || ch == Scalar.singleQuote)
    || (!isGap following && (ch == '-' || (!inFlow && (ch == '?' || ch == ':'))))

/-- Makes the next tokens. -/
def fetch (l : Lexer) : Except LoadError Lexer := do
  let fresh ← l.toNextToken.dropStale
  let l := fresh.unwind fresh.cursor.column
  let c := l.cursor
  let ch := c.peek
  let following := c.peekAt 1
  if ch == endMark then l.endStream
  else if ch == '%' && c.column == 0 then
    withCursor (← l.closeAll) (directive c)
  else if ch == '-' && c.column == 0 && c.atSeparator then l.documentMark .documentStart
  else if ch == '.' && c.column == 0 && c.atSeparator then l.documentMark .documentEnd
  else if ch == '[' then l.openFlow .flowSequenceStart
  else if ch == '\x7b' then l.openFlow .flowMappingStart
  else if ch == ']' then l.closeFlow .flowSequenceEnd
  else if ch == '\x7d' then l.closeFlow .flowMappingEnd
  else if ch == ',' then l.flowComma
  else if ch == '-' && isGap following then l.dash
  else if ch == '?' && (l.inFlow || isGap following) then l.questionMark
  else if ch == ':' && (l.inFlow || isGap following) then l.colon
  else if ch == '*' then l.keyToken ((anchorName c).map fun (name, after) => (.alias name, after))
  else if ch == '&' then l.keyToken ((anchorName c).map fun (name, after) => (.anchor name, after))
  else if ch == '!' then l.keyToken (tagToken c)
  else if (ch == '|' || ch == '>') && !l.inFlow then l.blockScalar
  else if ch == Scalar.singleQuote || ch == '"' then
    l.keyToken ((Scalar.quoted c).map fun (text, after) => (.scalar text false, after))
  else if startsPlain l.inFlow ch following then l.plainScalar
  else .error .token

/-- Whether the first token in the queue may still turn out to be a key. -/
def isUnsettled (l : Lexer) : Bool := l.possible.any fun entry => entry.2.number == l.taken

/-- Makes tokens until the next one is settled. -/
def fill : (fuel : Nat) → Lexer → Except LoadError Lexer
  | 0, l => .ok l
  | fuel + 1, l =>
    if l.finished then .ok l
    else if l.queue.isEmpty then do fill fuel (← l.fetch)
    else do
      let fresh ← l.dropStale
      if fresh.isUnsettled then fill fuel (← fresh.fetch) else return fresh

/-- The next token, which stays in the queue. -/
def peek (l : Lexer) : Except LoadError (Token × Lexer) := do
  let filled ← fill (l.cursor.rest.length + 2) l
  return (filled.queue.head?.getD .streamEnd, filled)

def drop (l : Lexer) : Lexer := { l with queue := l.queue.drop 1, taken := l.taken + 1 }

def ofText (t : Text) : Lexer := { cursor := { rest := t } }

end Lexer

end Plotter.Yaml
