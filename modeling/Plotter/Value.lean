import Plotter.Number.Basic
import Plotter.Text.Quoted

/-!
# Host values

Settings come from a file or from a host program and may be anything: the settings file is read
before anybody knows whether its values make sense, and a host may offer any value as a colour.
`Value` is what can arrive.  A rejected value is shown in the message that rejects it, texts in
quotes inside a list or a mapping and, by `text`, as themselves on their own.  It can only be shown
if its integers can be written.
-/

namespace Plotter

inductive Value where
  | null
  | bool (b : Bool)
  | int (n : Int)
  | float (x : Float)
  | text (t : Text)
  | list (items : List Value)
  | map (entries : List (Value × Value))
  /-- A value of a kind that nothing here asks for, such as a date: how it is shown inside a message
  and on its own, if it can be, and whether it counts as present. -/
  | other (face : Option (Text × Text)) (present : Bool)
  deriving Inhabited

namespace Value

def boolText (b : Bool) : Text := (if b then "True" else "False").toList

mutual

/-- A value as it is shown inside a message, with texts in quotes. -/
def shown : Value → Text
  | .null => "None".toList
  | .bool b => boolText b
  | .int n => Text.ofInt n
  | .float x => Double.shortest x
  | .text t => Text.quoted t
  | .list items => '[' :: Text.join [',', ' '] (shownItems items) ++ [']']
  | .map entries =>
    Char.ofNat 123 :: Text.join [',', ' '] (shownEntries entries) ++ [Char.ofNat 125]
  | .other face _ => (face.map Prod.fst).getD []

def shownItems : List Value → List Text
  | [] => []
  | item :: rest => shown item :: shownItems rest

def shownEntries : List (Value × Value) → List Text
  | [] => []
  | (key, value) :: rest => (shown key ++ ':' :: ' ' :: shown value) :: shownEntries rest

/-- Whether a value can be shown: no integer in it has too many digits. -/
def isWritable : Value → Bool
  | .int n => n.natAbs < Nat.pow 10 Text.maxDigits
  | .list items => areWritable items
  | .map entries => entriesWritable entries
  | .other face _ => face.isSome
  | _ => true

def areWritable : List Value → Bool
  | [] => true
  | item :: rest => isWritable item && areWritable rest

def entriesWritable : List (Value × Value) → Bool
  | [] => true
  | (key, value) :: rest => isWritable key && isWritable value && entriesWritable rest

end

/-- A value on its own: a text stands for itself. -/
def plain : Value → Text
  | .text t => t
  | .other face _ => (face.map Prod.snd).getD []
  | v => v.shown

/-- Nothing, zero and the empty text or collection count as absent, and what says so itself. -/
def isPresent : Value → Bool
  | .null => false
  | .bool b => b
  | .int n => n != 0
  | .float x => x != 0.0
  | .text t => !t.isEmpty
  | .list items => !items.isEmpty
  | .map entries => !entries.isEmpty
  | .other _ present => present

/-- The value that stands for a transparent brush. -/
def isFalse : Value → Bool
  | .bool false => true
  | _ => false

/-- The whole number a value stands for: a truth value counts as one or zero. -/
def whole? : Value → Option Int
  | .int n => some n
  | .bool b => some (if b then 1 else 0)
  | _ => none

/-- The number a value stands for. -/
def number? : Value → Option Number
  | .float x => some (.real x)
  | v => v.whole?.map .whole

def ofNumber : Number → Value
  | .whole n => .int n
  | .real x => .float x

/-- Two keys of a mapping are the same if they are equal; equal numbers are, whatever their kind. -/
def sameKey (a b : Value) : Bool :=
  match a, b with
  | .null, .null => true
  | .text s, .text t => s == t
  | .other s _, .other t _ => s == t
  | _, _ =>
    match a.number?, b.number? with
    | some m, some n => m.order? n == some .eq
    | _, _ => false

end Value

end Plotter
