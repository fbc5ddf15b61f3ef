import SliceAgent.Text.Encoding
import SliceAgent.Yaml.Node
import SliceAgent.Yaml.Scalar
import SliceAgent.Yaml.Value

/-!
# YAML documents

The nodes of a document become values by their tags: scalars at once, collections in two steps, so
that a collection may hold itself. A collection is empty at first; it waits in a queue until those
that were met before it are filled, and its parts are looked at then. So of two faults that of the
outer collection comes first.

`Yaml.read` gives the value of a text, or its first fault.
-/

namespace SliceAgent.Yaml

/-- The nodes, the items of those that were looked at, the collections, and those that wait to be
filled. A collection has the number of its node. -/
structure Build where
  nodes : Array Node
  items : Array (Option Item)
  cells : Array Cell
  queue : List Nat := []

/-- A step of building values. -/
abbrev Builder := StateT Build (Except Fault)

namespace Builder

/-- The node of a number. -/
def node (id : Nat) : Builder Node := do
  return (← get).nodes[id]?.getD ⟨.null, {}, .scalar []⟩

/-- The fault of a node. -/
def refuse {α : Type} (n : Node) (problem : String) : Builder α :=
  throw (.plain .value problem n.start)

/-- The fault of a node that is not of a kind. -/
def refuseKind {α : Type} (n : Node) (kind : String) : Builder α :=
  refuse n s!"expected a {kind} node, but found {n.content.kind}"

/-! ### Scalars -/

/-- The text of a scalar. A mapping may have one under its value key. -/
def scalarFrom : Nat → Nat → Builder Text.CodeText
  | 0, _ => throw .tooDeep
  | fuel + 1, id => do
    let n ← node id
    match n.content with
    | .scalar text => return text
    | .list _ => refuseKind n "scalar"
    | .map pairs =>
      let nodes := (← get).nodes
      match pairs.find? fun p => Merging.hasTag nodes .value p.1 with
      | some (_, value) => scalarFrom fuel value
      | none => refuseKind n "scalar"

/-- The text of a node. -/
def scalar (id : Nat) : Builder Text.CodeText := do
  scalarFrom ((← get).nodes.size + 1) id

/-- Goes on with the value of a scalar, if it has one. -/
def valueOf {α : Type} : Except ScalarFault α → Builder α
  | .ok a => return a
  | .error f => throw (.scalar f)

/-- The octets of a text in base 64. -/
def octetsOf (n : Node) (text : Text.CodeText) : Builder (List UInt8) := do
  if let some fault := Text.Encoding.ascii.fault? text then
    refuse n ("failed to convert base64 data into ascii: " ++ fault)
  match Text.Base64.decode text.shown with
  | .ok octets => return octets
  | .error f => refuse n ("failed to decode base64 data: " ++ f.message)

/-- The date or the time of a node, which cannot be a mapping. -/
def momentOf (n : Node) (text : Text.CodeText) : Builder Atom := do
  if !(n.content matches .scalar _) then throw (.scalar .timeOfMapping)
  match ← valueOf (momentOfText text) with
  | .date d => return .date d
  | .time t => return .time t

/-! ### Items -/

/-- Has a collection wait to be filled. -/
def enqueue (id : Nat) : Builder Item := do
  modify fun b => { b with queue := b.queue ++ [id] }
  return .ref id

/-- The item of a node that was not looked at yet. -/
def newItem (id : Nat) : Builder Item := do
  let n ← node id
  match n.tag with
  | .null =>
    let _ ← scalar id
    return .atom .null
  | .bool => return .atom (.bool (← valueOf (boolOfText (← scalar id))))
  | .int => return .atom (.int (← valueOf (intOfText (← scalar id))))
  | .float => return .atom (.float (← valueOf (floatOfText (← scalar id))))
  | .binary => return .atom (.bytes (← octetsOf n (← scalar id)))
  | .timestamp => return .atom (← momentOf n (← scalar id))
  | .text => return .atom (.text (← scalar id))
  | .orderedMap | .pairs | .set | .list | .map => enqueue id
  | .merge | .value | .other _ =>
    refuse n ("could not determine a constructor for the tag " ++ Text.quoted n.tag.name)

/-- The item of a node; a node that is reached twice has one item. -/
def item (id : Nat) : Builder Item := do
  match (← get).items[id]?.join with
  | some item => return item
  | none =>
    let item ← newItem id
    modify fun b => { b with items := b.items.setIfInBounds id (some item) }
    return item

/-! ### Collections -/

/-- Merges what a mapping takes in. -/
def flatten (id : Nat) : Builder Unit := do
  let b ← get
  let (_, nodes) ← (Merging.flatten id).run b.nodes
  set { b with nodes }

/-- The entries of a mapping. Of two values under one key the last one counts. -/
def entries (id : Nat) : Builder (List (Atom × Item)) := do
  if !((← node id).content matches .map _) then refuseKind (← node id) "mapping"
  flatten id
  let n ← node id
  let pairs := match n.content with
    | .map pairs => pairs
    | _ => []
  pairs.foldlM (fun found p => do
    match ← item p.1 with
    | .ref _ =>
      throw (.within .value "while constructing a mapping" n.start "found unhashable key"
        (← node p.1).start)
    | .atom key => return Cell.setEntry key (← item p.2) found) []

/-- The pair that a mapping of one entry is, in a list that is being built. -/
def pairOf (context : String) (list : Node) (id : Nat) : Builder Item := do
  let n ← node id
  let problem (text : String) : Builder Item :=
    throw (.within .value context list.start text n.start)
  match n.content with
  | .map [(key, value)] =>
    let cell := Cell.pair (← item key) (← item value)
    let b ← get
    set { b with cells := b.cells.push cell }
    return .ref b.cells.size
  | .map pairs => problem s!"expected a single mapping item, but found {pairs.length} items"
  | other => problem s!"expected a mapping of length 1, but found {other.kind}"

/-- The pairs of a list. -/
def pairs (what : String) (n : Node) : Builder Cell := do
  let context := "while constructing " ++ what
  match n.content with
  | .list items => .list <$> items.mapM (pairOf context n)
  | other =>
    throw (.within .value context n.start s!"expected a sequence, but found {other.kind}" n.start)

/-- What a collection consists of. -/
def cell (id : Nat) : Builder Cell := do
  let n ← node id
  match n.tag with
  | .map => .map <$> entries id
  | .set => return .set (inOrder ((← entries id).map (·.1)))
  | .orderedMap => pairs "an ordered map" n
  | .pairs => pairs "pairs" n
  | _ => match n.content with
    | .list items => .list <$> items.mapM item
    | _ => refuseKind n "sequence"

/-- Fills the collections that wait, and those that are met meanwhile. Each node waits at most
once. -/
def fill : Nat → Builder Unit
  | 0 => return
  | fuel + 1 => do
    match (← get).queue with
    | [] => return
    | id :: rest =>
      modify fun b => { b with queue := rest }
      let c ← cell id
      modify fun b => { b with cells := b.cells.setIfInBounds id c }
      fill fuel

/-- The outermost item, with all collections filled. -/
def document (root : Nat) : Builder Item := do
  let i ← item root
  fill ((← get).nodes.size + 1)
  return i

end Builder

/-- An empty collection for each node, by its tag. -/
def emptyCell (n : Node) : Cell :=
  match n.tag with
  | .map => .map []
  | .set => .set []
  | _ => .list []

/-- The value of a graph. -/
def Graph.value (g : Graph) : Except Fault Value := do
  let (item, b) ← (Builder.document g.root).run
    { nodes := g.nodes, items := g.nodes.map fun _ => none, cells := g.nodes.map emptyCell }
  return ⟨b.cells, item⟩

/-! ### Texts -/

/-- Whether a character may stand in a text. -/
def isAllowed (c : Char) : Bool :=
  let n := c.toNat
  n == 9 || n == 10 || n == 13 || (0x20 ≤ n && n ≤ 0x7e) || n == 0x85 || (0xa0 ≤ n && n ≤ 0xfffd) ||
    0x10000 ≤ n

/-- The value of a text; an empty one is nothing. -/
def read (s : String) : Except Fault Value := do
  let cs := s.toList
  if let c :: _ := cs.dropWhile isAllowed then
    throw (.unprintable c.toNat (cs.takeWhile isAllowed).length)
  match ← Graph.ofEvents (Event.ofTokens (Token.scan cs)) with
  | some g => g.value
  | none => return .ofAtom .null

end SliceAgent.Yaml
