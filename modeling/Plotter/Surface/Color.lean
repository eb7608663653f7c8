import Plotter.Failure

/-!
# Colours

A colour is given by its name in any case, by its index in a table of ten, or by three
components.  A host may offer any value, so acceptance (`isColor`) and conversion are functions
of a `Value`; the setters of a surface accept only what every conversion can handle.

A named colour has an index of its own.  Three components have the index of the nearest entry of
the table, by the sum of the squared differences, and of two equally near ones the lower.
-/

namespace Plotter

structure Triple (α : Type) where
  red : α
  green : α
  blue : α
  deriving DecidableEq, Repr

def Triple.map {α β : Type} (f : α → β) (t : Triple α) : Triple β :=
  ⟨f t.red, f t.green, f t.blue⟩

def Triple.toList {α : Type} (t : Triple α) : List α := [t.red, t.green, t.blue]

namespace Color

/-- A colour that has a name: its components and its index. -/
structure Named where
  name : Text
  components : Triple Nat
  index : Nat
  deriving DecidableEq, Repr

def names : List Named :=
  [ ⟨"black".toList, ⟨0, 0, 0⟩, 7⟩, ⟨"white".toList, ⟨255, 255, 255⟩, 7⟩,
    ⟨"red".toList, ⟨255, 0, 0⟩, 1⟩, ⟨"yellow".toList, ⟨255, 255, 0⟩, 2⟩,
    ⟨"green".toList, ⟨0, 128, 0⟩, 3⟩, ⟨"lime".toList, ⟨0, 255, 0⟩, 3⟩,
    ⟨"aqua".toList, ⟨0, 255, 255⟩, 4⟩, ⟨"cyan".toList, ⟨0, 255, 255⟩, 4⟩,
    ⟨"blue".toList, ⟨0, 0, 255⟩, 5⟩, ⟨"fuchsia".toList, ⟨255, 0, 255⟩, 6⟩,
    ⟨"magenta".toList, ⟨255, 0, 255⟩, 6⟩, ⟨"gray".toList, ⟨128, 128, 128⟩, 8⟩,
    ⟨"grey".toList, ⟨128, 128, 128⟩, 8⟩, ⟨"darkgray".toList, ⟨169, 169, 169⟩, 8⟩,
    ⟨"darkgrey".toList, ⟨169, 169, 169⟩, 8⟩, ⟨"lightgray".toList, ⟨211, 211, 211⟩, 9⟩,
    ⟨"lightgrey".toList, ⟨211, 211, 211⟩, 9⟩ ]

/-- The components of the indexed colours, from index zero. -/
def table : List (Triple Nat) :=
  [ ⟨0, 0, 0⟩, ⟨255, 0, 0⟩, ⟨255, 255, 0⟩, ⟨0, 255, 0⟩, ⟨0, 255, 255⟩, ⟨0, 0, 255⟩,
    ⟨255, 0, 255⟩, ⟨255, 255, 255⟩, ⟨128, 128, 128⟩, ⟨192, 192, 192⟩ ]

/-- The entry of a name in any case. -/
def ofName? (name : Text) : Option Named :=
  let lowered := Text.lower name
  names.find? fun entry => entry.name == lowered

def isName (name : Text) : Bool := (ofName? name).isSome

/-- The components at an index of the table. -/
def ofIndex? (index : Int) : Option (Triple Nat) :=
  if 0 ≤ index then table[index.toNat]? else none

/-- A component of a colour: a whole number of one byte. -/
def isByte (v : Value) : Bool := v.whole?.any fun n => 0 ≤ n && n ≤ 255

/-- A value that a surface takes as a colour; `false` stands for a transparent brush. -/
def isColor : Value → Bool
  | .bool b => !b
  | .int n => (ofIndex? n).isSome
  | .text name => isName name
  | .list [red, green, blue] => isByte red && isByte green && isByte blue
  | _ => false

/-- The square of the distance between two components. -/
def squaredGap (entry : Nat) (component : Value) : Except Failure Number :=
  match component.number? with
  | none => .error .wrongKind
  | some n =>
    match ((Number.whole entry).sub? n).bind Number.square? with
    | some square => .ok square
    | none => .error .tooLarge

def addGaps (a b : Number) : Except Failure Number :=
  match a.add? b with
  | some total => .ok total
  | none => .error .tooLarge

/-- The square of the distance between an entry of the table and three components. -/
def squaredDistance (entry : Triple Nat) (components : Triple Value) : Except Failure Number := do
  let red ← squaredGap entry.red components.red
  let green ← squaredGap entry.green components.green
  let both ← addGaps red green
  let blue ← squaredGap entry.blue components.blue
  addGaps both blue

/-- The nearest entry from the given index on, when the best so far has the given distance. -/
def nearestFrom (components : Triple Value) :
    (index best : Nat) → (distance : Option Number) → List (Triple Nat) → Except Failure Nat
  | _, best, _, [] => .ok best
  | index, best, distance, entry :: rest => do
    let found ← squaredDistance entry components
    if found.isLess (distance.getD (.real (1.0 / 0.0))) then
      nearestFrom components (index + 1) index (some found) rest
    else nearestFrom components (index + 1) best distance rest

def nearestIndex (components : Triple Value) : Except Failure Nat :=
  nearestFrom components 0 0 none table

def ofNat (n : Nat) : Value := .int n

/-- The three components of a colour. -/
def components : Value → Except Failure (Triple Value)
  | .text name =>
    match ofName? name with
    | some entry => .ok (entry.components.map ofNat)
    | none => .error (.unknownColorName name)
  | .int n =>
    match ofIndex? n with
    | some entry => .ok (entry.map ofNat)
    | none => .error (.colorIndexRange n)
  | .list [red, green, blue] => .ok ⟨red, green, blue⟩
  | v => .error (.notAColor v)

/-- The index of a colour. -/
def index : Value → Except Failure Nat
  | .text name =>
    match ofName? name with
    | some entry => .ok entry.index
    | none => .error (.unknownColorName name)
  | .int n =>
    match ofIndex? n with
    | some _ => .ok n.toNat
    | none => .error (.colorIndexRange n)
  | .list [red, green, blue] => nearestIndex ⟨red, green, blue⟩
  | v => .error (.notAColor v)

/-- A component as a fraction of the greatest byte. -/
def fraction (component : Value) : Except Failure Float :=
  match component.number? with
  | none => .error .wrongKind
  | some n =>
    match n.toFloat? with
    | some x => .ok (x / 255.0)
    | none => .error .tooLarge

/-- The three components of a colour as fractions. -/
def fractions (v : Value) : Except Failure (Triple Float) := do
  let bytes ← components v
  return ⟨← fraction bytes.red, ← fraction bytes.green, ← fraction bytes.blue⟩

inductive Conversion where
  | bytes | fractions | index
  deriving DecidableEq, Repr

def Conversion.ofValue? : Value → Option Conversion
  | .text ['b'] => some .bytes
  | .text ['f'] => some .fractions
  | .text ['i'] => some .index
  | _ => none

/-- Converts a colour as a host asks for it. -/
def convert (conversion thing : Value) : Except Failure Value :=
  match Conversion.ofValue? conversion with
  | none => .error .badConversion
  | some .bytes => (components thing).map fun t => .list t.toList
  | some .fractions => (fractions thing).map fun t => .list (t.toList.map .float)
  | some .index => (index thing).map ofNat

end Color

end Plotter
