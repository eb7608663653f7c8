import Plotter.Value

/-!
# JSON

A value is written as JSON over several lines: every item of a collection stands on a line of its
own, two blanks further in than the collection, and an empty collection is closed where it is
opened.  Texts keep to ASCII: a character beyond it is written by its UTF-16 code units.
-/

namespace Plotter.Value

/-- A UTF-16 code unit as an escape. -/
def unitEscape (unit : Nat) : Text := '\\' :: 'u' :: Text.hexDigits 4 unit

/-- A character in a JSON text. -/
def jsonChar (c : Char) : Text :=
  let n := c.toNat
  if n == 34 || n == 92 then ['\\', c]
  else if n == 8 then ['\\', 'b']
  else if n == 9 then ['\\', 't']
  else if n == 10 then ['\\', 'n']
  else if n == 12 then ['\\', 'f']
  else if n == 13 then ['\\', 'r']
  else if 0x20 ≤ n && n ≤ 0x7E then [c]
  else if n < 0x10000 then unitEscape n
  else
    unitEscape (0xD800 + (n - 0x10000) / 0x400) ++ unitEscape (0xDC00 + (n - 0x10000) % 0x400)

def jsonText (t : Text) : Text := '"' :: t.flatMap jsonChar ++ ['"']

/-- A new line after some blanks. -/
def jsonBreak (indent : Nat) : Text := '\n' :: List.replicate indent ' '

/-- The items of a collection between its brackets. -/
def jsonBlock (opening closing : Char) (indent : Nat) (items : List Text) : Text :=
  match items with
  | [] => [opening, closing]
  | _ =>
    let line := jsonBreak (indent + 2)
    opening :: line ++ Text.join (',' :: line) items ++ jsonBreak indent ++ [closing]

mutual

/-- A value in a line that starts after some blanks. -/
def json (indent : Nat) : Value → Text
  | .null => "null".toList
  | .bool b => (if b then "true" else "false").toList
  | .int n => Text.ofInt n
  | .float x => Double.shortest x
  | .text t => jsonText t
  | .list items => jsonBlock '[' ']' indent (jsonItems (indent + 2) items)
  | .map entries =>
    jsonBlock (Char.ofNat 123) (Char.ofNat 125) indent (jsonEntries (indent + 2) entries)
  | .other face present => jsonText (Value.other face present).plain

def jsonItems (indent : Nat) : List Value → List Text
  | [] => []
  | item :: rest => json indent item :: jsonItems indent rest

def jsonEntries (indent : Nat) : List (Value × Value) → List Text
  | [] => []
  | (key, v) :: rest =>
    (jsonText key.plain ++ ": ".toList ++ json indent v) :: jsonEntries indent rest

end

end Plotter.Value
