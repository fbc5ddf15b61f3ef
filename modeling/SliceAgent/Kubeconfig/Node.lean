import SliceAgent.Kubeconfig.Fault
import SliceAgent.Yaml.Value

/-!
# Looking into a configuration

A `Node` is a value of a configuration. Lists, mappings and the entries of the three lists know the
place that they were found at, so that a key that is missing can be reported with its place, and
the file that they are from. All other values have no place: asking them for a key is a fault of
its own kind.

What cannot be done with a value is said by the name of its kind. Values with an origin have a kind
of their own, whatever they are.

A command is told about its cluster in JSON. Not every value can be written so: sets, octets and
times cannot, nor can a collection within itself. `Told.check` finds the first that cannot, in the
order in which they would be written. Whole numbers are short enough, for they were shown before.
-/

namespace SliceAgent.Kubeconfig

/-! ### Nodes -/

/-- Where a value was found, and the file that it is from. -/
structure Origin where
  place : String
  file : String
  deriving DecidableEq, Repr

/-- A value with its origin, if it has one. -/
structure Node where
  value : Yaml.Value
  origin : Option Origin := none

namespace Node

/-- Whether a value holds a key. -/
def holds (n : Node) (key : String) : Except KubeconfigFault Bool :=
  match n.value.holds? key with
  | some b => .ok b
  | none => .error .wrongKind

/-- The value under a key of a value with an origin; `none` if it is not there or nothing. -/
def lookup (n : Node) (key : String) : Except KubeconfigFault (Option Yaml.Value) := do
  if !(← n.holds key) then return none
  match n.value.field? key with
  | some v => return if v.isNull then none else some v
  | none => throw .wrongKind

/-- The value under a key, or nothing; values without an origin have no keys at all. -/
def get? (n : Node) (key : String) : Except KubeconfigFault (Option Yaml.Value) :=
  match n.origin with
  | none => .error .noAttribute
  | some _ => n.lookup key

/-- The value under a key, which has to be there. -/
def get (n : Node) (key : String) : Except KubeconfigFault Node :=
  match n.origin with
  | none => .error .wrongKind
  | some o => do
    match ← n.lookup key with
    | none => throw (.missingKey key o.place)
    | some v => return ⟨v, if v.isTree then some { o with place := s!"{o.place}/{key}" } else none⟩

/-- Whether a node counts as present in a condition. -/
def isTruthy (n : Node) : Bool :=
  n.value.isTruthy

/-- The text of a node; those with an origin are no texts of their own. -/
def points? (n : Node) : Option Text.CodeText :=
  if n.origin.isSome then none else n.value.points?

/-- Whether the value of a node is a text of characters. -/
def isText (n : Node) (s : String) : Bool :=
  n.points? == some (.ofString s)

/-- Whether two nodes are equal. One with an origin is equal to none. -/
def same (n m : Node) : Bool :=
  n.origin.isNone && m.origin.isNone && n.value.same m.value

/-- A value as messages show it. -/
def shown (v : Yaml.Value) : Except KubeconfigFault String :=
  match v.shown? with
  | some s => .ok s
  | none => .error .tooLong

/-- The directory of the file that a node is from. -/
def directory (n : Node) : Except KubeconfigFault Path :=
  match n.origin with
  | none => .error .noAttribute
  | some o => .ok (Path.ofText o.file).parent

/-- The file that a text under a key names, which counts from the directory of the node. -/
def fileUnder (n : Node) (key : String) (directory : Path) : Except KubeconfigFault Path := do
  match (← n.get key).points? with
  | some t => return (directory.child t.shown).normal
  | none => throw .wrongKind

/-! ### Entries of lists -/

/-- The entry of a name; all entries up to the end need a name. -/
def named? (place : String) (name : Node) : List Node → Except KubeconfigFault (Option Node)
  | [] => .ok none
  | n :: rest => do
    if !(← n.holds "name") then throw (.unnamed place)
    let given ← n.get "name"
    -- Those behind the entry are looked at before it counts: one without a name is a fault.
    let later ← named? place name rest
    return if given.same name then some n else later

/-- The entry of a name, which has to be there. -/
def named (place : String) (name : Node) (nodes : List Node) : Except KubeconfigFault Node := do
  match ← named? place name nodes with
  | some n => return n
  | none => throw (.noSuch (← shown name.value) place)

end Node

end SliceAgent.Kubeconfig

/-! ### Kinds of values -/

namespace SliceAgent.Yaml

/-- The name of the kind of an atom. -/
def Atom.kindName : Atom → String
  | .null => "NoneType"
  | .bool _ => "bool"
  | .int _ => "int"
  | .float _ => "float"
  | .text _ => "str"
  | .bytes _ => "bytes"
  | .date _ => "date"
  | .time _ => "datetime"

/-- The name of the kind of a collection. -/
def Cell.kindName : Cell → String
  | .list _ => "list"
  | .pair _ _ => "tuple"
  | .map _ => "dict"
  | .set _ => "set"

/-- A name of a kind with what the kind belongs to, as it is told of keys and of values. -/
def fullKindName (name : String) : String :=
  if name = "date" ∨ name = "datetime" then "datetime." ++ name else name

namespace Value

/-- The name of the kind of a value. -/
def kindName (v : Value) : String :=
  ((v.atom?.map Atom.kindName).orElse fun _ => v.cell?.map Cell.kindName).getD ""

/-- What is said of a value that is not made of parts. -/
def noParts (v : Value) : String :=
  s!"'{fullKindName v.kindName}' object is not iterable"

/-- What is said of a value that is asked for the value under a text and is no mapping. -/
def notLookedInto (v : Value) : String :=
  match v.kindName with
  | "str" => "string indices must be integers, not 'str'"
  | "bytes" => "byte indices must be integers or slices, not str"
  | "list" => "list indices must be integers or slices, not str"
  | "tuple" => "tuple indices must be integers or slices, not str"
  | name => s!"'{fullKindName name}' object is not subscriptable"

end Value

end SliceAgent.Yaml

namespace SliceAgent.Kubeconfig.Node

/-- The name of the kind of a node. -/
def kindName (n : Node) : String :=
  if n.origin.isSome then "ConfigNode" else n.value.kindName

/-- What is said of a node that is asked whether it holds a key. -/
def notAsked (n : Node) : String :=
  if n.kindName = "bytes" then "a bytes-like object is required, not 'str'"
  else s!"argument of type '{Yaml.fullKindName n.kindName}' is not iterable"

/-- What is said of a node that lacks something that nodes with an origin have. -/
def lacks (n : Node) (what : String) : String :=
  s!"'{Yaml.fullKindName n.kindName}' object has no attribute '{what}'"

end SliceAgent.Kubeconfig.Node

namespace SliceAgent.Kubeconfig.Told

/-! ### What a command is told -/

open Yaml (Atom Item Cell Value)

/-- What is said of a value of a kind that cannot be written. -/
def unwritable (kind : String) : String :=
  s!"Object of type {kind} is not JSON serializable"

/-- Whether an atom can be written. -/
def isWritable : Atom → Bool
  | .bytes _ | .date _ | .time _ => false
  | _ => true

/-- Checks an atom. -/
def checkAtom (a : Atom) : Except String Unit :=
  if isWritable a then .ok () else .error (unwritable a.kindName)

/-- Checks a key. -/
def checkKey (key : Atom) : Except String Unit :=
  if isWritable key then .ok ()
  else
    let kind := Yaml.fullKindName key.kindName
    .error s!"keys must be str, int, float, bool or None, not {kind}"

/-- Checks an item; `path` holds the collections that it lies in. -/
def checkFrom (cells : Array Cell) : Nat → List Nat → Item → Except String Unit
  | _, _, .atom a => checkAtom a
  | 0, _, .ref _ => .ok ()
  | fuel + 1, path, .ref id =>
    let inner := checkFrom cells fuel (id :: path)
    match cells[id]? with
    | none => .ok ()
    | some (.set _) => .error (unwritable "set")
    | some cell =>
      if path.contains id then .error "Circular reference detected"
      else match cell with
        | .list items => items.forM inner
        | .pair first second => [first, second].forM inner
        | .map entries => entries.forM fun e => do
          checkKey e.1
          inner e.2
        | .set _ => .ok ()

/-- Checks a value. No collection comes twice on the way down, so that the fuel suffices. -/
def check (v : Value) : Except String Unit :=
  checkFrom v.cells (v.cells.size + 1) [] v.item

/-! ### Extensions -/

/-- The value under a text of something that has to be a mapping with it. -/
def under (v : Value) (name : String) : Except String Value :=
  match v.entries? with
  | none => .error v.notLookedInto
  | some _ => (v.field? name).elim (.error (Text.quoted name)) .ok

/-- The name of the extension that is meant for commands. -/
def extensionName : String :=
  "client.authentication.k8s.io/exec"

/-- Checks an extension: it has a name, and the one for commands has a value. -/
def checkExtension (extension : Value) : Except String Unit := do
  let name ← under extension "name"
  if name.text? == some extensionName then
    let _ ← under extension "extension"

/-- Checks the extensions of a cluster, which is a mapping. -/
def checkExtensions (cluster : Value) : Except String Unit := do
  if cluster.entries?.isNone then
    throw s!"'{cluster.kindName}' object has no attribute 'get'"
  match cluster.field? "extensions" with
  | none => return
  | some extensions =>
    if extensions.isTruthy then
      match extensions.parts? with
      | some parts => parts.forM checkExtension
      | none => throw extensions.noParts

end SliceAgent.Kubeconfig.Told
