import Plotter.Dictionary
import Plotter.Yaml.Token

/-!
# Nodes of a settings file

A document is a tree of scalars, sequences and mappings, each with the tag that was written before
it.  An alias is the node under its anchor, which must have been seen before.  A file holds one
document at most.

The reader walks down the tree and asks for tokens one by one, so of two mistakes in a file the
one that stands first is found.  Its fuel is larger than the number of tokens a text can have.
-/

namespace Plotter.Yaml

/-- A node.  A scalar is marked as implicit when its kind is told by its text. -/
inductive Node where
  | scalar (tag : Option Text) (implicit : Bool) (text : Text)
  | sequence (tag : Option Text) (items : List Node)
  | mapping (tag : Option Text) (entries : List (Node × Node))
  deriving Inhabited

structure Reader where
  lexer : Lexer
  anchors : Dictionary Node := .empty
  handles : Dictionary Text := .empty

abbrev Reading (α : Type) := StateT Reader (Except LoadError) α

namespace Reading

def peek : Reading Token := fun r => do
  let (token, lexer) ← r.lexer.peek
  return (token, { r with lexer := lexer })

def drop : Reading Unit := modify fun r => { r with lexer := r.lexer.drop }

/-- The empty scalar that stands where nothing is written. -/
def emptyNode : Node := .scalar none true []

/-- The tags that need no directive. -/
def defaultHandles : Dictionary Text :=
  .ofList [(['!'], ['!']), (['!', '!'], "tag:yaml.org,2002:".toList)]

/-- A node may have an anchor and a tag before it. -/
structure Properties where
  anchor : Option Text := none
  tag : Option Text := none

/-- The full text of a tag. -/
def fullTag (handle : Option Text) (suffix : Text) : Reading Text := do
  match handle with
  | none => return suffix
  | some h =>
    match (← get).handles.get? h with
    | some expansion => return expansion ++ suffix
    | none => throw .grammar

def takeAnchor : Reading (Option Text) := do
  match ← peek with
  | .anchor name => drop; return some name
  | _ => return none

def takeTag : Reading (Option (Option Text × Text)) := do
  match ← peek with
  | .tag handle suffix => drop; return some (handle, suffix)
  | _ => return none

/-- The anchor and the tag before a node, in either order. -/
def properties : Reading Properties := do
  let first ← takeAnchor
  let tag ← takeTag
  let anchor ← if first.isNone && tag.isSome then takeAnchor else pure first
  let full ← match tag with
    | some (handle, suffix) => some <$> fullTag handle suffix
    | none => pure none
  return ⟨anchor, full⟩

def lookupAlias (name : Text) : Reading Node := do
  match (← get).anchors.get? name with
  | some node => return node
  | none => throw .reference

/-- An anchor may be given once, and counts as given from the start of its node. -/
def claimAnchor (anchor : Option Text) : Reading Unit := do
  match anchor with
  | none => return
  | some name =>
    if (← get).anchors.contains name then throw .reference
    modify fun r => { r with anchors := r.anchors.set name emptyNode }

def keepAnchor (anchor : Option Text) (node : Node) : Reading Node := do
  match anchor with
  | none => return node
  | some name =>
    modify fun r => { r with anchors := r.anchors.set name node }
    return node

/-- A scalar is implicit if it is plain and has no tag, or has the tag that says nothing. -/
def scalarNode (tag : Option Text) (text : Text) (plain : Bool) : Node :=
  if tag == some ['!'] then .scalar none true text
  else if tag.isNone then .scalar none plain text
  else .scalar tag false text

/-- A tag that says nothing is no tag. -/
def collectionTag (tag : Option Text) : Option Text := if tag == some ['!'] then none else tag

mutual

/-- A node.  Blocks may start only outside of flow; entries of a sequence may stand at the column
of the mapping that holds it. -/
def node : (fuel : Nat) → (block indentless : Bool) → Reading Node
  | 0, _, _ => throw .grammar
  | fuel + 1, block, indentless => do
    match ← peek with
    | .alias name => drop; lookupAlias name
    | _ =>
      let p ← properties
      let token ← peek
      match token, block, indentless with
      | .blockEntry, _, true =>
        claimAnchor p.anchor
        keepAnchor p.anchor (.sequence (collectionTag p.tag) (← indentlessEntries fuel))
      | .scalar text plain, _, _ =>
        claimAnchor p.anchor
        drop
        keepAnchor p.anchor (scalarNode p.tag text plain)
      | .flowSequenceStart, _, _ =>
        claimAnchor p.anchor
        drop
        keepAnchor p.anchor (.sequence (collectionTag p.tag) (← flowItems fuel true))
      | .flowMappingStart, _, _ =>
        claimAnchor p.anchor
        drop
        keepAnchor p.anchor (.mapping (collectionTag p.tag) (← flowEntries fuel true))
      | .blockSequenceStart, true, _ =>
        claimAnchor p.anchor
        drop
        keepAnchor p.anchor (.sequence (collectionTag p.tag) (← blockItems fuel))
      | .blockMappingStart, true, _ =>
        claimAnchor p.anchor
        drop
        keepAnchor p.anchor (.mapping (collectionTag p.tag) (← blockEntries fuel))
      | _, _, _ =>
        if p.anchor.isSome || p.tag.isSome then
          claimAnchor p.anchor
          keepAnchor p.anchor (scalarNode p.tag [] true)
        else throw .grammar

/-- The items of a sequence of lines that start with dashes. -/
def blockItems : (fuel : Nat) → Reading (List Node)
  | 0 => throw .grammar
  | fuel + 1 => do
    match ← peek with
    | .blockEntry =>
      drop
      let item ← match ← peek with
        | .blockEntry | .blockEnd => pure emptyNode
        | _ => node fuel true false
      return item :: (← blockItems fuel)
    | .blockEnd => drop; return []
    | _ => throw .grammar

/-- The items of a sequence that stands at the column of its mapping. -/
def indentlessEntries : (fuel : Nat) → Reading (List Node)
  | 0 => throw .grammar
  | fuel + 1 => do
    match ← peek with
    | .blockEntry =>
      drop
      let item ← match ← peek with
        | .blockEntry | .key | .value | .blockEnd => pure emptyNode
        | _ => node fuel true false
      return item :: (← indentlessEntries fuel)
    | _ => return []

/-- The entries of a mapping of lines. -/
def blockEntries : (fuel : Nat) → Reading (List (Node × Node))
  | 0 => throw .grammar
  | fuel + 1 => do
    match ← peek with
    | .key =>
      drop
      let key ← match ← peek with
        | .key | .value | .blockEnd => pure emptyNode
        | _ => node fuel true true
      let value ← blockValue fuel
      return (key, value) :: (← blockEntries fuel)
    | .blockEnd => drop; return []
    | _ => throw .grammar

/-- The value after a key of a mapping of lines. -/
def blockValue : (fuel : Nat) → Reading Node
  | 0 => throw .grammar
  | fuel + 1 => do
    match ← peek with
    | .value =>
      drop
      match ← peek with
      | .key | .value | .blockEnd => return emptyNode
      | _ => node fuel true true
    | _ => return emptyNode

/-- The items of a sequence in brackets.  An item may be a mapping of one entry. -/
def flowItems : (fuel : Nat) → (first : Bool) → Reading (List Node)
  | 0, _ => throw .grammar
  | fuel + 1, first => do
    match ← peek, first with
    | .flowSequenceEnd, _ => drop; return []
    | .flowEntry, false => drop; flowItem fuel
    | _, false => throw .grammar
    | _, true => flowItem fuel

def flowItem : (fuel : Nat) → Reading (List Node)
  | 0 => throw .grammar
  | fuel + 1 => do
    match ← peek with
    | .key =>
      drop
      let key ← match ← peek with
        | .value | .flowEntry | .flowSequenceEnd => pure emptyNode
        | _ => node fuel false false
      let value ← flowValue fuel
      return .mapping none [(key, value)] :: (← flowItems fuel false)
    | .flowSequenceEnd => drop; return []
    | _ =>
      let item ← node fuel false false
      return item :: (← flowItems fuel false)

/-- The value after a key in brackets or braces. -/
def flowValue : (fuel : Nat) → Reading Node
  | 0 => throw .grammar
  | fuel + 1 => do
    match ← peek with
    | .value =>
      drop
      match ← peek with
      | .flowEntry | .flowSequenceEnd | .flowMappingEnd => return emptyNode
      | _ => node fuel false false
    | _ => return emptyNode

/-- The entries of a mapping in braces.  A key may have no value. -/
def flowEntries : (fuel : Nat) → (first : Bool) → Reading (List (Node × Node))
  | 0, _ => throw .grammar
  | fuel + 1, first => do
    match ← peek, first with
    | .flowMappingEnd, _ => drop; return []
    | .flowEntry, false => drop; flowPair fuel
    | _, false => throw .grammar
    | _, true => flowPair fuel

def flowPair : (fuel : Nat) → Reading (List (Node × Node))
  | 0 => throw .grammar
  | fuel + 1 => do
    match ← peek with
    | .key =>
      drop
      let key ← match ← peek with
        | .value | .flowEntry | .flowMappingEnd => pure emptyNode
        | _ => node fuel false false
      let value ← flowValue fuel
      return (key, value) :: (← flowEntries fuel false)
    | .flowMappingEnd => drop; return []
    | _ =>
      let key ← node fuel false false
      return (key, emptyNode) :: (← flowEntries fuel false)

end

/-! ### Documents -/

/-- Reads the directives before a document. -/
def directives : (fuel : Nat) → (versions : Nat) → Reading Unit
  | 0, _ => throw .grammar
  | fuel + 1, versions => do
    match ← peek with
    | .versionDirective major =>
      if versions != 0 || major != 1 then throw .grammar
      drop
      directives fuel (versions + 1)
    | .tagDirective handle expansion =>
      if (← get).handles.contains handle then throw .grammar
      modify fun r => { r with handles := r.handles.set handle expansion }
      drop
      directives fuel versions
    | .otherDirective => drop; directives fuel versions
    | _ => return

/-- The default handles, under those that the directives have given. -/
def completeHandles : Reading Unit := modify fun r =>
  { r with handles := .ofList (defaultHandles.entries ++ r.handles.entries) }

/-- Past the marks that end documents. -/
def skipDocumentEnds : (fuel : Nat) → Reading Unit
  | 0 => return
  | fuel + 1 => do
    match ← peek with
    | .documentEnd => drop; skipDocumentEnds fuel
    | _ => return

/-- The start of a document that is marked as one; none at the end of the file. -/
def markedStart (fuel : Nat) : Reading Bool := do
  skipDocumentEnds fuel
  match ← peek with
  | .streamEnd => return false
  | _ =>
    modify fun r => { r with handles := .empty }
    directives fuel 0
    completeHandles
    match ← peek with
    | .documentStart => drop; return true
    | _ => throw .grammar

/-- The content of a document that is marked as one. -/
def content (fuel : Nat) : Reading Node := do
  match ← peek with
  | .versionDirective _ | .tagDirective .. | .otherDirective => return emptyNode
  | .documentStart | .documentEnd | .streamEnd => return emptyNode
  | _ => node fuel true false

/-- The first document; none in an empty file. -/
def firstDocument (fuel : Nat) : Reading (Option Node) := do
  match ← peek with
  | .versionDirective _ | .tagDirective .. | .otherDirective | .documentStart | .streamEnd =>
    if ← markedStart fuel then return some (← content fuel) else return none
  | _ =>
    completeHandles
    return some (← node fuel true false)

/-- The only document of a file. -/
def singleDocument (fuel : Nat) : Reading (Option Node) := do
  drop
  match ← firstDocument fuel with
  | none => return none
  | some document =>
    if ← markedStart fuel then throw .reference else return some document

end Reading

/-- The tree of a text; none if the text holds no document. -/
def Node.ofText (t : Text) : Except LoadError (Option Node) :=
  if t.all isAllowed then
    ((Reading.singleDocument (8 * t.length + 64)).run { lexer := .ofText t }).map Prod.fst
  else .error .character

end Plotter.Yaml
