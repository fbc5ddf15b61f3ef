import SliceAgent.Slice
import SliceAgent.Quantity
import SliceAgent.Json.Writer

/-!
# Reading manifests

`Slice.ofManifest` reads a stored object as a slice. The parts of a manifest are looked at in one
order, and the first fault found is the one reported: the specification and its pool, each device
with its attributes, its capacities and its name, then the metadata, the pool and the labels.

Parts that are missing have defaults; lists and maps that are `null`, false, zero or empty count as
empty. A stored object comes from a JSON text, so that no part of it is a table; the labels may be
one, as in an object that was not written out and read in between.
-/

namespace SliceAgent

/-- Why an object is no slice. -/
inductive ManifestFault where
  /-- A part that must be an object is none. -/
  | noObject
  /-- A part has a type that cannot be looked into or gone through. -/
  | wrongType
  /-- A field is missing. -/
  | missing (field : String)
  /-- An attribute has no value, or several. -/
  | attributeValues
  /-- A capacity is no quantity. -/
  | quantity (fault : QuantityFault)
  /-- A label that is given by its place in a list has not two parts. -/
  | labelParts (place count : Nat)
  deriving DecidableEq, Repr

/-- The wording of a fault; faults of type have none of their own. -/
def ManifestFault.message : ManifestFault → String
  | .noObject | .wrongType => ""
  | .missing field => Text.quoted field
  | .attributeValues => "DeviceAttribute must carry exactly one value"
  | .quantity fault => fault.message
  | .labelParts place count =>
    s!"dictionary update sequence element #{place} has length {count}; 2 is required"

namespace Manifest

/-- The fields of a part that must be an object. -/
def fields : Json → Except ManifestFault (List (String × Json))
  | .obj fields => .ok fields
  | _ => .error .noObject

/-- A field that may be missing. -/
def fieldD (name : String) (fields : List (String × Json)) (default : Json) : Json :=
  (Json.field? name fields).getD default

/-- A field that must be there, of a part that must be an object. -/
def required (name : String) : Json → Except ManifestFault Json
  | .obj fields => (Json.field? name fields).elim (.error (.missing name)) .ok
  | _ => .error .wrongType

/-- The fields of a map that may be missing or empty. -/
def mapFields (name : String) (part : List (String × Json)) :
    Except ManifestFault (List (String × Json)) :=
  let v := fieldD name part .null
  if v.isTruthy then fields v else .ok []

/-- An attribute. -/
def readAttribute (v : Json) : Except ManifestFault Attribute :=
  (fields v).bind fun fs => (Attribute.ofFields? fs).elim (.error .attributeValues) .ok

/-- A capacity. -/
def readCapacity (v : Json) : Except ManifestFault Quantity :=
  (required "value" v).bind fun value =>
    ((readQuantity value).mapError .quantity).map fun n => { value := n }

/-- Reads each value of a map. -/
def mapValues {α : Type} (read : Json → Except ManifestFault α) :
    List (String × Json) → Except ManifestFault (List (String × α))
  | [] => .ok []
  | (k, v) :: r => do
    let a ← read v
    let rest ← mapValues read r
    return (k, a) :: rest

/-- One device. -/
def readDevice (v : Json) : Except ManifestFault DeviceEntry := do
  let part ← fields v
  let attributes ← mapValues readAttribute (← mapFields "attributes" part)
  let capacity ← mapValues readCapacity (← mapFields "capacity" part)
  let name ← required "name" v
  return { name, attributes, capacity }

/-- Reads devices one after another. -/
def readDeviceList : List Json → Except ManifestFault (List DeviceEntry)
  | [] => .ok []
  | v :: r => do
    let d ← readDevice v
    let rest ← readDeviceList r
    return d :: rest

/-- The devices of a specification. What can be gone through but is no list holds no objects. -/
def readDevices (v : Json) : Except ManifestFault (List DeviceEntry) :=
  if v.isTruthy then
    match v with
    | .arr items => readDeviceList items
    | .obj _ | .table _ | .text _ => .error .noObject
    | _ => .error .wrongType
  else .ok []

/-- A label given as a pair, by the items that it can be gone through as; lists and objects cannot
be its key. -/
def labelOfPair (place : Nat) (v : Json) : Except ManifestFault (Json × Json) :=
  let parts : Option (List Json) := match v with
    | .arr items => some items
    | .obj fields => some (fields.map fun f => .text f.1)
    | .table entries => some (entries.map (·.1))
    | .text s => some (s.toList.map fun c => .text (String.singleton c))
    | _ => none
  match parts with
  | some [k, w] => if k.isKey then .ok (k, w) else .error .wrongType
  | some ps => .error (.labelParts place ps.length)
  | none => .error .wrongType

/-- Labels given as a list of pairs, of which the last one of a key counts. -/
def labelsOfPairs (place : Nat) (found : List (Json × Json)) :
    List Json → Except ManifestFault (List (Json × Json))
  | [] => .ok found
  | v :: r => do
    let (key, w) ← labelOfPair place v
    labelsOfPairs (place + 1) (Slice.setLabel key w found) r

/-- The labels of a slice. -/
def readLabels (v : Json) : Except ManifestFault (List (Json × Json)) :=
  if v.isTruthy then
    match v with
    | .obj fields => .ok (fields.map fun (name, w) => (.text name, w))
    | .table entries => .ok entries
    | .arr items => labelsOfPairs 0 [] items
    | .text s => labelsOfPairs 0 [] (s.toList.map fun c => .text (String.singleton c))
    | _ => .error .wrongType
  else .ok []

end Manifest

open Manifest in
/-- The slice that a stored object describes. -/
def Slice.ofManifest (m : Json) : Except ManifestFault Slice := do
  let top ← fields m
  let metadata := fieldD "metadata" top (.obj [])
  let spec ← fields (fieldD "spec" top (.obj []))
  let pool := fieldD "pool" spec (.obj [])
  let devices ← readDevices (fieldD "devices" spec .null)
  let name ← required "name" metadata
  let poolFields ← fields pool
  let metadataFields ← fields metadata
  let labels ← readLabels (fieldD "labels" metadataFields .null)
  return {
    name
    driver := fieldD "driver" spec (.text "")
    nodeName := fieldD "nodeName" spec (.text "")
    pool :=
      { name := fieldD "name" poolFields (.text "")
        generation := fieldD "generation" poolFields (.int 0)
        sliceCount := fieldD "resourceSliceCount" poolFields (.int 1) }
    devices
    labels
    version := fieldD "resourceVersion" metadataFields .null }

end SliceAgent
