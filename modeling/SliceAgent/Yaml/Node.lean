import SliceAgent.Yaml.Event
import SliceAgent.Yaml.Tag

/-!
# Node graphs

The events of a document describe a graph of nodes: an alias stands for the node that its anchor
names, so that a node can be reached in several ways and even from within itself. A `Graph` holds
the nodes by number, in the order in which they begin. `Graph.ofEvents` runs through the events with
a stack of the collections that are open.

Under the merge key a mapping names another one, or a list of others, whose entries it takes in.
They come before its own, so that its own count; of two mappings in a list the earlier one counts.
`Merging.flatten` replaces the merge keys of a mapping by the entries that they stand for, after
those of the mappings that are taken in.
-/

namespace SliceAgent.Yaml

/-! ### Nodes -/

/-- What a node consists of; the parts of collections are given by number. -/
inductive Content where
  | scalar (text : Text.CodeText)
  | list (items : List Nat)
  | map (pairs : List (Nat × Nat))
  deriving DecidableEq, Repr

/-- The kind of a node as faults name it. -/
def Content.kind : Content → String
  | .scalar _ => "scalar"
  | .list _ => "sequence"
  | .map _ => "mapping"

/-- A node, and where it begins. -/
structure Node where
  tag : Tag
  start : Mark
  content : Content
  deriving DecidableEq, Repr

/-- The nodes of a document by number, and the number of its outermost one. -/
structure Graph where
  nodes : Array Node
  root : Nat

/-- A collection that is open: its number, its parts so far, last one first, and, in a mapping, the
key that waits for its value. -/
inductive OpenNode where
  | list (id : Nat) (items : List Nat)
  | map (id : Nat) (pairs : List (Nat × Nat)) (key : Option Nat)
  deriving DecidableEq, Repr

/-- The nodes so far, the collections that are open, inner one first, and the anchors. -/
structure Composition where
  nodes : Array Node := #[]
  stack : List OpenNode := []
  anchors : List (String × Nat) := []
  root : Option Nat := none

namespace Composition

/-- The most collections within each other. -/
def depthLimit : Nat := 480

/-- Where a node begins. -/
def startOf (c : Composition) (id : Nat) : Mark :=
  (c.nodes[id]?.map (·.start)).getD {}

/-- Adds a node that was finished to the collection that is open, or takes it as the outermost
one. -/
def attach (id : Nat) (c : Composition) : Composition :=
  match c.stack with
  | [] => { c with root := some id }
  | .list owner items :: rest => { c with stack := .list owner (id :: items) :: rest }
  | .map owner pairs none :: rest => { c with stack := .map owner pairs (some id) :: rest }
  | .map owner pairs (some key) :: rest =>
    { c with stack := .map owner ((key, id) :: pairs) none :: rest }

/-- Begins a node. No anchor is given twice. -/
def begin (properties : Properties) (tag : Tag) (start : Mark) (content : Content)
    (c : Composition) : Except Fault (Nat × Composition) := do
  if let some name := properties.anchor then
    if let some first := c.anchors.lookup name then
      throw (.within .node s!"found duplicate anchor {Text.quoted name}; first occurrence"
        (c.startOf first) "second occurrence" start)
  let id := c.nodes.size
  let named := properties.anchor.toList.map fun name => (name, id)
  let tag := (properties.tag.map Tag.ofName).getD tag
  return (id, { c with nodes := c.nodes.push ⟨tag, start, content⟩, anchors := named ++ c.anchors })

/-- Begins a collection. -/
def openCollection (properties : Properties) (tag : Tag) (start : Mark) (content : Content)
    (opened : Nat → OpenNode) (c : Composition) : Except Fault Composition := do
  let (id, c) ← c.begin properties tag start content
  if depthLimit ≤ c.stack.length then throw .tooDeep
  return { c with stack := opened id :: c.stack }

/-- Ends the collection that is open. -/
def closeCollection (c : Composition) : Composition :=
  let finish (id : Nat) (content : Content) (rest : List OpenNode) : Composition :=
    { c with nodes := c.nodes.modify id ({ · with content }), stack := rest }.attach id
  match c.stack with
  | [] => c
  | .list id items :: rest => finish id (.list items.reverse) rest
  | .map id pairs _ :: rest => finish id (.map pairs.reverse) rest

/-- Goes on with an event. -/
def step (c : Composition) (e : Event) : Except Fault Composition :=
  match e.kind with
  | .documentStart =>
    match c.root with
    | none => .ok c
    | some root =>
      .error (.within .node "expected a single document in the stream" (c.startOf root)
        "but found another document" e.start)
  | .alias name =>
    match c.anchors.lookup name with
    | some id => .ok (c.attach id)
    | none => .error (.plain .node ("found undefined alias " ++ Text.quoted name) e.start)
  | .scalar properties resolves text => do
    let tag := if resolves then Tag.ofPlain text else .text
    let (id, c) ← c.begin properties tag e.start (.scalar text)
    return c.attach id
  | .sequenceStart properties =>
    c.openCollection properties .list e.start (.list []) (.list · [])
  | .mappingStart properties =>
    c.openCollection properties .map e.start (.map []) (.map · [] none)
  | .sequenceEnd | .mappingEnd => .ok c.closeCollection
  | .documentEnd | .streamEnd => .ok c

end Composition

/-- The graph that events describe; there is none without a document. -/
def Graph.ofEvents (es : Readout Event) : Except Fault (Option Graph) := do
  let c ← es.items.foldlM Composition.step {}
  if let some fault := es.fault then throw fault
  return c.root.map fun root => ⟨c.nodes, root⟩

/-! ### Merge keys -/

/-- A step of merging, which changes the nodes. -/
abbrev Merging := StateT (Array Node) (Except Fault)

namespace Merging

/-- The content of a node. -/
def content (id : Nat) : Merging Content := do
  return ((← get)[id]?.map (·.content)).getD (.scalar [])

/-- The pairs of a mapping. -/
def pairs (id : Nat) : Merging (List (Nat × Nat)) := do
  match ← content id with
  | .map pairs => return pairs
  | _ => return []

/-- Gives a mapping other pairs. -/
def setPairs (id : Nat) (pairs : List (Nat × Nat)) : Merging Unit :=
  modify fun nodes => nodes.modify id ({ · with content := .map pairs })

/-- Where a node begins. -/
def start (id : Nat) : Merging Mark := do
  return ((← get)[id]?.map (·.start)).getD {}

/-- Whether a node has a tag. -/
def hasTag (nodes : Array Node) (tag : Tag) (id : Nat) : Bool :=
  (nodes[id]?.map fun n => n.tag == tag).getD false

/-- The fault of a node that cannot be taken in by another one. -/
def unmergeable {α : Type} (id : Nat) (expected : String) (found : Nat) : Merging α := do
  throw (.within .value "while constructing a mapping" (← start id)
    s!"expected {expected} for merging, but found {(← content found).kind}" (← start found))

/-- The key that stands for a whole mapping is a text among others in a mapping that is read
as one. -/
def untag (ids : List Nat) (nodes : Array Node) : Array Node :=
  ids.foldl (fun nodes id =>
    if hasTag nodes .value id then nodes.modify id ({ · with tag := .text }) else nodes) nodes

/-- Takes in what the merge keys of a mapping name; `merged` are the pairs so far. Each step removes
a merge key, so that there are no more steps than pairs. -/
def flattenFrom : Nat → List (Nat × Nat) → Nat → Merging Unit
  | 0, _, _ => return
  | fuel + 1, merged, id => do
    let own ← pairs id
    let nodes ← get
    match own.findIdx? fun p => hasTag nodes .merge p.1 with
    | none =>
      modify (untag (own.map (·.1)))
      if !merged.isEmpty then setPairs id (merged ++ own)
    | some i =>
      let named := (own[i]?.map (·.2)).getD id
      setPairs id (own.eraseIdx i)
      let more ← match ← content named with
        | .map _ => do
          flattenFrom fuel [] named
          pairs named
        | .list items => do
          let groups ← items.mapM fun item => do
            match ← content item with
            | .map _ =>
              flattenFrom fuel [] item
              pairs item
            | _ => unmergeable id "a mapping" item
          pure groups.reverse.flatten
        | .scalar _ => unmergeable id "a mapping or list of mappings" named
      flattenFrom fuel (merged ++ more) id

/-- The number of the pairs of a node. -/
def pairCount (n : Node) : Nat :=
  match n.content with
  | .map pairs => pairs.length
  | _ => 0

/-- Takes in what the merge keys of a mapping name. -/
def flatten (id : Nat) : Merging Unit := do
  flattenFrom (2 * (← get).foldl (fun n node => n + pairCount node) 0 + 2) [] id

end Merging

end SliceAgent.Yaml
