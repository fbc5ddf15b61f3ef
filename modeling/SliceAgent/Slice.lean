import SliceAgent.Quantity
import SliceAgent.Json.Basic
import SliceAgent.Json.Writer
import SliceAgent.Device
import SliceAgent.Log

/-!
# Resource slices

A slice advertises devices of one driver on one node, as part of a pool. The fields that a stored
object passes through are JSON values, whatever they are; an `Attribute` has exactly one value,
which is not `null`, and a capacity is a quantity. A version of `null` means that the slice has
not been stored. `Slice.manifest` is the form in which a slice is stored.

Each device is advertised by a slice of its own, in a pool of its own, so that a device that comes
or goes leaves the slices of the others as they are. `Device.slice` is the slice of a device, and
`buildSlices` the slices of all devices in the order of their keys. `groupByNuma` arranges devices
by the NUMA node that they are near to.
-/

namespace SliceAgent

/-! ### Slices -/

/-- The types that an attribute can have. -/
inductive AttributeKind where
  | string
  | int
  | bool
  | version
  deriving DecidableEq, Repr

namespace AttributeKind

def all : List AttributeKind :=
  [.string, .int, .bool, .version]

/-- The name of the field that holds a value of the kind. -/
def name : AttributeKind → String
  | .string => "string"
  | .int => "int"
  | .bool => "bool"
  | .version => "version"

end AttributeKind

/-- A value of one kind. -/
structure Attribute where
  kind : AttributeKind
  value : Json
  value_ne_null : value ≠ .null
  deriving DecidableEq

namespace Attribute

/-- An attribute with a text. -/
def string (s : String) : Attribute :=
  ⟨.string, .text s, by simp⟩

/-- An attribute with a whole number. -/
def int (n : Int) : Attribute :=
  ⟨.int, .int n, by simp⟩

/-- The attribute that one field gives, unless it is missing or `null`. -/
def ofField? (fields : List (String × Json)) (kind : AttributeKind) : Option Attribute :=
  match Json.field? kind.name fields with
  | some v => if h : v = .null then none else some ⟨kind, v, h⟩
  | none => none

/-- The attribute that fields give, if exactly one kind has a value; other fields do not count. -/
def ofFields? (fields : List (String × Json)) : Option Attribute :=
  match AttributeKind.all.filterMap (ofField? fields) with
  | [a] => some a
  | _ => none

/-- The object that an attribute is written as. -/
def manifest (a : Attribute) : Json :=
  .obj [(a.kind.name, a.value)]

end Attribute

/-- The pool that a slice belongs to. -/
structure Pool where
  name : Json
  generation : Json
  sliceCount : Json
  deriving DecidableEq

/-- One device of a slice. -/
structure DeviceEntry where
  name : Json
  attributes : List (String × Attribute)
  capacity : List (String × Quantity)
  deriving DecidableEq

/-- One advertisement. -/
structure Slice where
  name : Json
  driver : Json
  nodeName : Json
  pool : Pool
  devices : List DeviceEntry
  /-- The labels by their keys, which are texts or other values that can serve as a name. -/
  labels : List (Json × Json)
  version : Json := .null
  deriving DecidableEq

/-- The group, version and kind of slices in the cluster. -/
def apiGroup : String := "resource.k8s.io"
def apiVersion : String := "v1"
def sliceKind : String := "ResourceSlice"
def slicePlural : String := "resourceslices"

/-- The object that a device is written as, its attributes and capacities sorted by name. -/
def DeviceEntry.manifest (d : DeviceEntry) : Json :=
  .obj
    [("name", d.name),
     ("attributes", .obj ((Json.sortFields d.attributes).map fun (k, a) => (k, a.manifest))),
     ("capacity", .obj ((Json.sortFields d.capacity).map fun (k, q) =>
       (k, .obj [("value", .text q.text)])))]

namespace Slice

/-- Gives a label a value; of keys that count as the same the first one stays. -/
def setLabel (key value : Json) : List (Json × Json) → List (Json × Json)
  | [] => [(key, value)]
  | (k, v) :: r => if k.same key then (k, value) :: r else (k, v) :: setLabel key value r

/-- The slice with some of its labels set. -/
def setLabels (s : Slice) (new : List (Json × Json)) : Slice :=
  { s with labels := new.foldl (fun labels l => setLabel l.1 l.2 labels) s.labels }

/-- The metadata of a slice; a version is written only if there is one. The labels keep their keys,
whatever these are. -/
def metadata (s : Slice) : Json :=
  .obj ([("name", s.name), ("labels", .ofEntries s.labels)] ++
    if s.version = .null then [] else [("resourceVersion", s.version)])

/-- The specification of a slice. -/
def spec (s : Slice) : Json :=
  .obj
    [("driver", s.driver),
     ("nodeName", s.nodeName),
     ("pool", .obj
       [("name", s.pool.name),
        ("generation", s.pool.generation),
        ("resourceSliceCount", s.pool.sliceCount)]),
     ("devices", .arr (s.devices.map DeviceEntry.manifest))]

/-- The object that a slice is stored as. -/
def manifest (s : Slice) : Json :=
  .obj
    [("apiVersion", .text (apiGroup ++ "/" ++ apiVersion)),
     ("kind", .text sliceKind),
     ("metadata", s.metadata),
     ("spec", s.spec)]

/-- Whether every capacity is short enough to be written. -/
def isWritable (s : Slice) : Bool :=
  s.devices.all fun d => d.capacity.all fun (_, q) => q.isWritable

end Slice

/-! ### Advertising devices -/

namespace Device

/-- The attributes of a device; only a virtual function has a parent to name. -/
def attributes (driver : String) (d : Device) : List (String × Attribute) :=
  let key := qualifiedName driver
  [(key "uuid", .string d.uuid),
   (key "memory", .int d.memorySize),
   (key "deviceType", .string d.kind.token),
   (key "pciAddress", .string d.busAddress),
   (key "numaNode", .int d.numaNode),
   (key "capabilities", .int d.capabilities)] ++
  if d.kind.isVirtual then [(key "physfn", .string d.kind.parentName)] else []

/-- The entry of a device in its slice. -/
def entry (driver : String) (d : Device) : DeviceEntry where
  name := .text d.name
  attributes := d.attributes driver
  capacity := [(qualifiedName driver "memory", { value := d.memorySize })]

/-- The slice that advertises a device. -/
def slice (driver node : String) (d : Device) : Slice where
  name := .text (sliceName driver node d.name)
  driver := .text driver
  nodeName := .text node
  pool := ⟨.text d.name, .int 1, .int 1⟩
  devices := [d.entry driver]
  labels := [("driver", .text driver), ("node", .text node), ("device", .text d.name)]

end Device

/-- The slices of devices, in the order of their keys. -/
def buildSlices (driver node : String) (devices : List (String × Device)) : List Slice :=
  (sortByKey devices).map fun (_, d) => d.slice driver node

theorem length_buildSlices (driver node : String) (devices : List (String × Device)) :
    (buildSlices driver node devices).length = devices.length := by
  simp [buildSlices, sortByKey, List.length_mergeSort]

/-- What is logged while the slices are built. -/
def buildRecords (driver node : String) (devices : List (String × Device)) : List Record :=
  let debug := Record.message .debug buildLogger
  if devices.isEmpty then [debug "No devices to build ResourceSlices from"]
  else
    ((sortByKey devices).map fun (_, d) =>
      debug (s!"Building ResourceSlice {sliceName driver node d.name} for device {d.name} " ++
        s!"(NUMA={d.numaNode}, PCI={d.busAddress})")) ++
    [debug s!"Built {devices.length} ResourceSlices (one per device)"]

/-- The devices near each NUMA node: the nodes in ascending order, the devices of each in the
order of their keys. -/
def groupByNuma (devices : List (String × Device)) : List (Int × List Device) :=
  let sorted := (sortByKey devices).map (·.2)
  let nodes := ((sorted.map Device.numaNode).eraseDups).mergeSort fun a b => decide (a ≤ b)
  nodes.map fun n => (n, sorted.filter fun d => d.numaNode = n)

end SliceAgent
