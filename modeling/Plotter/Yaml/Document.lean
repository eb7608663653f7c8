import Plotter.Yaml.Node
import Plotter.Yaml.Plain

/-!
# The value of a settings file

A tree becomes a value.  The kind of a scalar is told by its tag, or by its text if it is plain.
The keys of a mapping keep the order in which they first stand, and the last value of a key
counts.  An entry under the merge key adds the entries of a mapping that are not given otherwise.
-/

namespace Plotter.Yaml

namespace Document

def standardTags : List (Text × ScalarKind) :=
  [ ("tag:yaml.org,2002:null".toList, .null), ("tag:yaml.org,2002:bool".toList, .bool),
    ("tag:yaml.org,2002:int".toList, .int), ("tag:yaml.org,2002:float".toList, .float),
    ("tag:yaml.org,2002:str".toList, .text) ]

def sequenceTag : Text := "tag:yaml.org,2002:seq".toList

def mappingTag : Text := "tag:yaml.org,2002:map".toList

/-- The value of a scalar. -/
def scalar (tag : Option Text) (implicit : Bool) (t : Text) : Except LoadError Value :=
  match tag with
  | none => if implicit then Plain.value (Plain.kind t) t else .ok (.text t)
  | some name =>
    match standardTags.find? fun entry => entry.1 == name with
    | some (_, kind) => Plain.value kind t
    | none => .error .value

/-- A value that can be a key: anything but a collection. -/
def isKey : Value → Bool
  | .list _ | .map _ => false
  | _ => true

/-- Enters a value under a key. -/
def put (key value : Value) : List (Value × Value) → List (Value × Value)
  | [] => [(key, value)]
  | (k, v) :: rest =>
    if k.sameKey key then (k, value) :: rest else (k, v) :: put key value rest

/-- Whether a key asks for another mapping to be merged in. -/
def isMergeKey : Node → Bool
  | .scalar none true t => Plain.kind t == .merge
  | _ => false

/-- The key under which a node stands; the mark for a default value is a text. -/
def keyNode : Node → Node
  | .scalar none true t => .scalar none (Plain.kind t != .default) t
  | other => other

/-- The entries of the mappings in a list of nodes, the last first. -/
def mergedItems : List Node → Except LoadError (List (Node × Node))
  | [] => .ok []
  | .mapping _ entries :: rest => do return (← mergedItems rest) ++ entries
  | _ => .error .value

/-- The entries that a merged node brings. -/
def merged : Node → Except LoadError (List (Node × Node))
  | .mapping _ entries => .ok entries
  | .sequence _ items => mergedItems items
  | .scalar .. => .error .value

/-- The entries of a mapping, those merged in first. -/
def flatten (entries : List (Node × Node)) : Except LoadError (List (Node × Node)) := do
  let (merges, own) := entries.partition fun entry => isMergeKey entry.1
  let brought ← merges.mapM fun entry => merged entry.2
  return brought.flatten ++ own.map fun entry => (keyNode entry.1, entry.2)

mutual

/-- The value of a node; the fuel bounds the depth of the tree. -/
def value : (fuel : Nat) → Node → Except LoadError Value
  | 0, _ => .error .value
  | fuel + 1, node =>
    match node with
    | .scalar tag implicit t => scalar tag implicit t
    | .sequence tag items =>
      if tag.isNone || tag == some sequenceTag then (values fuel items).map .list
      else .error .value
    | .mapping tag entries =>
      if tag.isNone || tag == some mappingTag then do
        return .map (← pairs fuel [] (← flatten entries))
      else .error .value

def values : (fuel : Nat) → List Node → Except LoadError (List Value)
  | 0, _ => .error .value
  | _ + 1, [] => .ok []
  | fuel + 1, node :: rest => do return (← value fuel node) :: (← values fuel rest)

def pairs : (fuel : Nat) → (found : List (Value × Value)) → List (Node × Node) →
    Except LoadError (List (Value × Value))
  | 0, _, _ => .error .value
  | _ + 1, found, [] => .ok found
  | fuel + 1, found, (k, v) :: rest => do
    let key ← value fuel k
    if !isKey key then throw .value
    let given ← value fuel v
    pairs fuel (put key given found) rest

end

/-- The value of a text; nothing if the text holds no document. -/
def ofText (t : Text) : Except LoadError Value := do
  match ← Node.ofText t with
  | none => return .null
  | some node => value (8 * t.length + 64) node

end Document

end Plotter.Yaml
