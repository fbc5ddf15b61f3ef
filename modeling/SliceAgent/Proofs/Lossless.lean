import SliceAgent.Slice
import SliceAgent.Proofs.Advertise
import SliceAgent.Proofs.Lookup

/-!
# Advertising loses nothing

The manifest of an advertised device shows it in full: driver, node and name have their places in
the specification, and everything else is an attribute under the name of the driver (`IsShownBy`).
So the advertisement can be read back (`Advertisement.ofManifest?`), and two advertisements whose
manifests count as the same are the same.

The name of an attribute is that of the driver, a slash and a name of its own. On one manifest the
driver is the same for all, so the names differ whatever the driver is called (`qualifiedName_inj`).
-/

namespace SliceAgent

open Json (Step)

/-! ### Attributes of a device -/

/-- The names of attributes; the last one is that of virtual functions. -/
def attributeNames : List String :=
  ["uuid", "memory", "deviceType", "pciAddress", "numaNode", "capabilities", "physfn"]

theorem qualifiedName_inj {driver a b : String} :
    qualifiedName driver a = qualifiedName driver b ↔ a = b := by
  simp only [qualifiedName, String.append_right_inj]

theorem qualifiedName_injective (driver : String) : Function.Injective (qualifiedName driver) :=
  fun _ _ => qualifiedName_inj.mp

theorem DeviceKind.token_eq_vf_iff (kind : DeviceKind) :
    kind.token = "vf" ↔ kind.isVirtual = true := by
  cases kind <;> simp [token, isVirtual]

namespace Device

/-- The attributes of a device under their own names. -/
def facts (d : Device) : List (String × Attribute) :=
  [("uuid", .string d.uuid), ("memory", .int d.memorySize), ("deviceType", .string d.kind.token),
   ("pciAddress", .string d.busAddress), ("numaNode", .int d.numaNode),
   ("capabilities", .int d.capabilities)] ++
  if d.kind.isVirtual then [("physfn", .string d.kind.parentName)] else []

theorem attributes_eq (driver : String) (d : Device) :
    d.attributes driver = d.facts.map fun f => (qualifiedName driver f.1, f.2) := by
  unfold attributes facts
  cases d.kind.isVirtual <;> rfl

theorem names_facts_prefix (d : Device) : d.facts.map (·.1) <+: attributeNames := by
  unfold facts attributeNames
  cases d.kind.isVirtual
  · exact ⟨["physfn"], rfl⟩
  · exact ⟨[], rfl⟩

theorem nodup_names_facts (d : Device) : (d.facts.map (·.1)).Nodup :=
  List.Nodup.sublist d.names_facts_prefix.sublist (by decide)

/-- The attribute of a name. -/
def fact? (d : Device) (name : String) : Option Attribute :=
  (d.facts.find? (·.1 == name)).map (·.2)

theorem fact?_physfn (d : Device) :
    d.fact? "physfn" = if d.kind.isVirtual then some (.string d.kind.parentName) else none := by
  unfold fact? facts
  cases d.kind.isVirtual <;> rfl

/-- The fields that the attributes of a device are written as. -/
def attributeFields (driver : String) (d : Device) : List (String × Json) :=
  (Json.sortFields (d.attributes driver)).map fun e => (e.1, e.2.manifest)

theorem attributeFields_perm (driver : String) (d : Device) :
    (d.attributeFields driver).Perm
      (d.facts.map fun f => (qualifiedName driver f.1, f.2.manifest)) := by
  have heq : d.facts.map (fun f => (qualifiedName driver f.1, f.2.manifest)) =
      (d.attributes driver).map fun e => (e.1, e.2.manifest) := by
    rw [attributes_eq, List.map_map]
    rfl
  rw [heq]
  exact (Json.sortFields_perm (d.attributes driver)).map _

theorem nodup_names_attributeFields (driver : String) (d : Device) :
    ((d.attributeFields driver).map (·.1)).Nodup := by
  rw [((d.attributeFields_perm driver).map _).nodup_iff, List.map_map]
  have h := d.nodup_names_facts.map (qualifiedName_injective driver)
  rwa [List.map_map] at h

/-- An attribute is found under its qualified name. -/
theorem field?_attributeFields (driver : String) (d : Device) (name : String) :
    Json.field? (qualifiedName driver name) (d.attributeFields driver) =
      (d.fact? name).map Attribute.manifest := by
  have hsame (f : String × Attribute) :
      (qualifiedName driver f.1 == qualifiedName driver name) = (f.1 == name) := by
    rw [Bool.eq_iff_iff, beq_iff_eq, beq_iff_eq, qualifiedName_inj]
  rw [Json.field?_of_perm (d.attributeFields_perm driver) (d.nodup_names_attributeFields driver),
    Json.field?, List.find?_map, fact?, Option.map_map, Option.map_map]
  simp only [Function.comp_def, hsame]

/-- The attributes of a device are named after the driver. -/
theorem exists_name_of_mem_attributeFields {driver key : String} {d : Device}
    (h : key ∈ (d.attributeFields driver).map (·.1)) :
    ∃ name ∈ attributeNames, key = qualifiedName driver name := by
  rw [((d.attributeFields_perm driver).map _).mem_iff, List.map_map] at h
  obtain ⟨f, hf, rfl⟩ := List.mem_map.mp h
  exact ⟨f.1, d.names_facts_prefix.subset (List.mem_map_of_mem hf), rfl⟩

/-- A parent is shown just for virtual functions. -/
theorem physfn_mem_attributeFields_iff {driver : String} {d : Device} :
    qualifiedName driver "physfn" ∈ (d.attributeFields driver).map (·.1) ↔
      d.kind.isVirtual = true := by
  rw [← not_iff_not, ← Json.field?_eq_none_iff, field?_attributeFields,
    Option.map_eq_none_iff, fact?_physfn]
  cases d.kind.isVirtual <;> simp

/-- The facts of a device are texts and whole numbers. -/
theorem isString_or_isInt_of_mem_facts {d : Device} {f : String × Attribute} (hf : f ∈ d.facts) :
    (∃ text, f.2 = .string text) ∨ ∃ n, f.2 = .int n := by
  rw [facts, List.mem_append] at hf
  obtain hf | hf := hf
  · simp only [List.mem_cons, List.not_mem_nil, or_false] at hf
    rcases hf with rfl | rfl | rfl | rfl | rfl | rfl
    all_goals first | exact .inl ⟨_, rfl⟩ | exact .inr ⟨_, rfl⟩
  · split at hf
    · rw [List.mem_singleton.mp hf]
      exact .inl ⟨_, rfl⟩
    · cases hf

/-- The facts of a device are written in their normal form. -/
theorem normal_manifest_of_fact? {d : Device} {name : String} {f : Attribute}
    (hf : d.fact? name = some f) : f.manifest.normal = f.manifest := by
  obtain ⟨e, hfind, rfl⟩ := Option.map_eq_some_iff.mp hf
  obtain ⟨text, htext⟩ | ⟨n, hn⟩ := isString_or_isInt_of_mem_facts (List.mem_of_find?_eq_some hfind)
  · rw [htext]
    simp [Attribute.manifest, Attribute.string, Json.normal, Json.normalFields]
  · rw [hn]
    simp [Attribute.manifest, Attribute.int, Json.normal, Json.normalFields]

theorem hasDistinctNames_attributes (driver : String) (d : Device) :
    (Json.obj (d.attributeFields driver)).hasDistinctNames = true := by
  refine Json.hasDistinctNames_obj.mpr ⟨d.nodup_names_attributeFields driver, fun f hf => ?_⟩
  obtain ⟨e, he, rfl⟩ := List.mem_map.mp ((d.attributeFields_perm driver).mem_iff.mp hf)
  obtain ⟨text, htext⟩ | ⟨n, hn⟩ := isString_or_isInt_of_mem_facts he
  · rw [htext]; rfl
  · rw [hn]; rfl

end Device

/-! ### Advertisements -/

/-- What is advertised: a device, by a driver on a node. -/
structure Advertisement where
  driver : String
  node : String
  device : Device
  deriving DecidableEq

/-- The whole number that a value is. -/
def Json.int? : Json → Option Int
  | .int n => some n
  | _ => none

namespace Advertisement

/-- The slice of an advertisement. -/
def slice (a : Advertisement) : Slice :=
  a.device.slice a.driver a.node

/-- Where the entry of the device stands. -/
def entryPath : List Step :=
  [.field "spec", .field "devices", .item 0]

/-- Where the attributes of the device stand. -/
def attributesPath : List Step :=
  entryPath ++ [.field "attributes"]

/-- Where an attribute stands. -/
def attributePath (driver name : String) : List Step :=
  attributesPath ++ [.field (qualifiedName driver name)]

/-- Where the text of the memory capacity stands. -/
def capacityPath (driver : String) : List Step :=
  entryPath ++ [.field "capacity", .field (qualifiedName driver "memory"), .field "value"]

/-- A manifest shows an advertisement: the driver, the node and the name of the device in their
places, and the attributes of the device under their qualified names. -/
structure IsShownBy (a : Advertisement) (m : Json) : Prop where
  driver : Json.at? [.field "spec", .field "driver"] m = some (.text a.driver)
  node : Json.at? [.field "spec", .field "nodeName"] m = some (.text a.node)
  name : Json.at? (entryPath ++ [.field "name"]) m = some (.text a.device.name)
  fact : ∀ name, Json.at? (attributePath a.driver name) m =
    (a.device.fact? name).map Attribute.manifest

/-! ### Reading an advertisement -/

/-- The text at a place. -/
def textAt? (path : List Step) (m : Json) : Option String :=
  (Json.at? path m).bind Json.text?

/-- The whole number at a place. -/
def intAt? (path : List Step) (m : Json) : Option Int :=
  (Json.at? path m).bind Json.int?

/-- The text of an attribute. -/
def textOf? (driver name : String) (m : Json) : Option String :=
  textAt? (attributePath driver name ++ [.field "string"]) m

/-- The whole number of an attribute. -/
def intOf? (driver name : String) (m : Json) : Option Int :=
  intAt? (attributePath driver name ++ [.field "int"]) m

/-- The kind of device that the name of a parent, if there is one, tells. -/
def kindOf? : Option String → Option DeviceKind
  | none => some .primary
  | some parent => (DeviceKind.virtual? parent).toOption

/-- The advertisement that a manifest shows. -/
def ofManifest? (m : Json) : Option Advertisement := do
  let driver ← textAt? [.field "spec", .field "driver"] m
  let node ← textAt? [.field "spec", .field "nodeName"] m
  let name ← textAt? (entryPath ++ [.field "name"]) m
  let uuid ← textOf? driver "uuid" m
  let memorySize ← intOf? driver "memory" m
  let numaNode ← intOf? driver "numaNode" m
  let kind ← kindOf? (textOf? driver "physfn" m)
  let busAddress ← textOf? driver "pciAddress" m
  let capabilities ← intOf? driver "capabilities" m
  let device ← (Device.make? name uuid memorySize numaNode kind busAddress capabilities).toOption
  return ⟨driver, node, device⟩

namespace IsShownBy

variable {a : Advertisement} {m : Json}

/-- A fact is found by its kind. -/
theorem at?_fact (h : a.IsShownBy m) (name : String) {f : Attribute}
    (hf : a.device.fact? name = some f) :
    Json.at? (attributePath a.driver name ++ [.field f.kind.name]) m = some f.value := by
  have hmanifest : Json.at? (attributePath a.driver name) m = some f.manifest := by
    rw [h.fact, hf, Option.map_some]
  rw [Json.at?_append_of_eq hmanifest]
  simp [Json.at?, Json.step?, Attribute.manifest, Json.field?]

theorem textOf?_eq (h : a.IsShownBy m) (name : String) {text : String}
    (hf : a.device.fact? name = some (.string text)) : textOf? a.driver name m = some text :=
  congrArg (·.bind Json.text?) (h.at?_fact name hf)

theorem intOf?_eq (h : a.IsShownBy m) (name : String) {n : Int}
    (hf : a.device.fact? name = some (.int n)) : intOf? a.driver name m = some n :=
  congrArg (·.bind Json.int?) (h.at?_fact name hf)

/-- Only a virtual function shows a parent. -/
theorem textOf?_physfn (h : a.IsShownBy m) :
    textOf? a.driver "physfn" m =
      if a.device.kind.isVirtual then some a.device.kind.parentName else none := by
  have hf := a.device.fact?_physfn
  split at hf
  · rw [if_pos ‹_›, h.textOf?_eq _ hf]
  · rw [if_neg ‹_›, textOf?, textAt?, Json.at?_append, h.fact, hf]
    rfl

theorem kindOf?_eq (h : a.IsShownBy m) :
    kindOf? (textOf? a.driver "physfn" m) = some a.device.kind := by
  rw [h.textOf?_physfn]
  cases a.device.kind with
  | primary => rfl
  | virtual parent hparent =>
    change (DeviceKind.virtual? parent).toOption = _
    rw [DeviceKind.virtual?, dif_neg hparent]
    rfl

/-- **Reading what is shown.** -/
theorem ofManifest?_eq (h : a.IsShownBy m) : ofManifest? m = some a := by
  have hdriver : textAt? [.field "spec", .field "driver"] m = some a.driver := by
    rw [textAt?, h.driver]; rfl
  have hnode : textAt? [.field "spec", .field "nodeName"] m = some a.node := by
    rw [textAt?, h.node]; rfl
  have hname : textAt? (entryPath ++ [.field "name"]) m = some a.device.name := by
    rw [textAt?, h.name]; rfl
  have hmake : Device.make? a.device.name a.device.uuid a.device.memorySize a.device.numaNode
      a.device.kind a.device.busAddress a.device.capabilities = .ok a.device := by
    rw [Device.make?, if_neg (by omega), Int.toNat_natCast]
  simp only [ofManifest?, bind, hdriver, hnode, hname, Option.bind_some, h.kindOf?_eq,
    h.textOf?_eq "uuid" rfl, h.intOf?_eq "memory" rfl,
    h.intOf?_eq "numaNode" rfl, h.textOf?_eq "pciAddress" rfl,
    h.intOf?_eq "capabilities" rfl, hmake]
  rfl

end IsShownBy

/-! ### The manifest of an advertisement -/

variable (a : Advertisement)

theorem at?_attributesPath :
    Json.at? attributesPath a.slice.manifest =
      some (.obj (a.device.attributeFields a.driver)) := rfl

theorem at?_capacityPath :
    Json.at? (capacityPath a.driver) a.slice.manifest =
      some (.text (Quantity.text { value := a.device.memorySize })) := by
  have hcapacity : Json.at? (entryPath ++ [.field "capacity"]) a.slice.manifest =
      some (.obj ((Json.sortFields (a.device.entry a.driver).capacity).map fun c =>
        (c.1, .obj [("value", .text c.2.text)]))) := rfl
  have hpath : capacityPath a.driver = (entryPath ++ [.field "capacity"]) ++
      [.field (qualifiedName a.driver "memory"), .field "value"] := rfl
  rw [hpath, Json.at?_append_of_eq hcapacity, Device.entry, Json.sortFields_singleton]
  simp [Json.at?, Json.step?, Json.field?]

/-- The manifest of an advertisement shows it. -/
theorem isShownBy_manifest : a.IsShownBy a.slice.manifest where
  driver := rfl
  node := rfl
  name := rfl
  fact name := by
    rw [attributePath, Json.at?_append_of_eq a.at?_attributesPath, Json.at?, Json.step?,
      Device.field?_attributeFields]
    cases a.device.fact? name <;> rfl

theorem hasDistinctNames_manifest : a.slice.manifest.hasDistinctNames = true := by
  have hentry : (a.device.entry a.driver).manifest.hasDistinctNames = true := by
    refine Json.hasDistinctNames_obj.mpr ⟨by simp, ?_⟩
    simp only [List.forall_mem_cons]
    refine ⟨rfl, a.device.hasDistinctNames_attributes a.driver, ?_, by simp⟩
    rw [Device.entry, Json.sortFields_singleton]
    rfl
  have hspec : a.slice.spec.hasDistinctNames = true := by
    refine Json.hasDistinctNames_obj.mpr ⟨by simp, ?_⟩
    simp only [List.forall_mem_cons]
    refine ⟨rfl, rfl, rfl, ?_, by simp⟩
    exact Json.allHaveDistinctNames_iff.mpr fun v hv => by
      obtain rfl := List.mem_singleton.mp hv
      exact hentry
  have hmetadata : a.slice.metadata.hasDistinctNames = true := rfl
  refine Json.hasDistinctNames_obj.mpr ⟨by simp, ?_⟩
  simp only [List.forall_mem_cons]
  exact ⟨rfl, rfl, hmetadata, hspec, by simp⟩

variable {a} in
/-- What a manifest shows its normal form shows. -/
theorem IsShownBy.normal {m : Json} (h : a.IsShownBy m) (hm : m.hasDistinctNames = true) :
    a.IsShownBy m.normal where
  driver := by rw [Json.at?_normal _ hm, h.driver, Option.map_some, Json.normal_text]
  node := by rw [Json.at?_normal _ hm, h.node, Option.map_some, Json.normal_text]
  name := by rw [Json.at?_normal _ hm, h.name, Option.map_some, Json.normal_text]
  fact name := by
    rw [Json.at?_normal _ hm, h.fact]
    cases hf : a.device.fact? name with
    | none => rfl
    | some f => exact congrArg some (Device.normal_manifest_of_fact? hf)

/-- Advertisements with manifests that count as the same are the same. -/
theorem eq_of_same {a b : Advertisement}
    (h : a.slice.manifest.same b.slice.manifest = true) : a = b := by
  -- The two manifests have one normal form, and it shows both advertisements.
  have ha := a.isShownBy_manifest.normal a.hasDistinctNames_manifest
  have hb := b.isShownBy_manifest.normal b.hasDistinctNames_manifest
  rw [of_decide_eq_true h] at ha
  exact Option.some.inj (ha.ofManifest?_eq.symm.trans hb.ofManifest?_eq)

theorem buildSlices_singleton :
    buildSlices a.driver a.node [(a.device.name, a.device)] = [a.slice] := by
  rw [buildSlices, sortByKey, List.mergeSort_singleton]
  rfl

theorem isWritable_slice (h : a.device.memorySize < 10 ^ digitLimit) :
    a.slice.isWritable = true := by
  have hquantity : Quantity.isWritable { value := a.device.memorySize } = true :=
    Quantity.isWritable_of_lt h
  simpa [Slice.isWritable, slice, Device.slice, Device.entry] using hquantity

end Advertisement

open Advertisement in
/-- **Advertising loses nothing.** The one slice that is built of a device can be written if the
memory of the device is within the digit limit, and what was advertised, the driver, the node and
the whole device, can be read from its manifest. So advertisements with manifests that count as the
same are the same.

The attributes have distinct names, each of which is that of the driver, a slash and one of the
known names. The name of a parent is there exactly for virtual functions, and exactly these are told
to be `vf`. The text of the memory capacity denotes the number of the memory attribute and no
other. -/
theorem advertising_loses_nothing (a : Advertisement) :
    buildSlices a.driver a.node [(a.device.name, a.device)] = [a.slice] ∧
      (a.device.memorySize < 10 ^ digitLimit → a.slice.isWritable = true) ∧
      ofManifest? a.slice.manifest = some a ∧
      (∀ b : Advertisement, a.slice.manifest.same b.slice.manifest = true ↔ a = b) ∧
      (∃ attributes,
        Json.at? attributesPath a.slice.manifest = some (.obj attributes) ∧
        (attributes.map (·.1)).Nodup ∧
        (∀ key ∈ attributes.map (·.1),
          ∃ name ∈ ["uuid", "memory", "deviceType", "pciAddress", "numaNode", "capabilities",
            "physfn"], key = a.driver ++ "/" ++ name) ∧
        (a.driver ++ "/physfn" ∈ attributes.map (·.1) ↔ a.device.kind.isVirtual = true)) ∧
      (textOf? a.driver "deviceType" a.slice.manifest = some "vf" ↔
        a.device.kind.isVirtual = true) ∧
      ∃ text,
        Json.at? (capacityPath a.driver) a.slice.manifest = some (.text text) ∧
        intOf? a.driver "memory" a.slice.manifest = some a.device.memorySize ∧
        ∀ v : Int, Quantity.Denotes text v ↔ v = a.device.memorySize := by
  have hshown := a.isShownBy_manifest
  have hphysfn : a.driver ++ "/physfn" = qualifiedName a.driver "physfn" := by
    rw [qualifiedName, String.append_assoc]
    rfl
  refine ⟨a.buildSlices_singleton, a.isWritable_slice, hshown.ofManifest?_eq, fun b => ?_,
    ⟨_, a.at?_attributesPath, a.device.nodup_names_attributeFields a.driver,
      fun key hkey => Device.exists_name_of_mem_attributeFields hkey, ?_⟩, ?_,
    _, a.at?_capacityPath, hshown.intOf?_eq _ rfl, fun v => ?_⟩
  · refine ⟨eq_of_same, ?_⟩
    rintro rfl
    exact Json.same_self _
  · rw [hphysfn]
    exact Device.physfn_mem_attributeFields_iff
  · rw [hshown.textOf?_eq "deviceType" rfl, Option.some_inj]
    exact a.device.kind.token_eq_vf_iff
  · refine ⟨fun hv => hv.unique (Quantity.denotes_text _), ?_⟩
    rintro rfl
    exact Quantity.denotes_text _

/-- A virtual function with two tebibytes of memory, of a driver with a name that looks like one of
its attributes. -/
theorem advertising_loses_nothing_of_slashes :
    let d : Device :=
      ⟨"a_vf0", "", 2 ^ 41, -1, .virtual "a" (by decide), "0000:11:00.1", 2 ^ 32 - 1⟩
    let a : Advertisement := ⟨"x/physfn", "node/1", d⟩
    a.device.memorySize < 10 ^ digitLimit ∧ a.slice.isWritable = true ∧
      Advertisement.ofManifest? a.slice.manifest = some a ∧
      Advertisement.textOf? "x/physfn" "physfn" a.slice.manifest = some "a" ∧
      Json.at? (Advertisement.capacityPath "x/physfn") a.slice.manifest = some "2Ti" := by
  intro d a
  have hmemory : a.device.memorySize < 10 ^ digitLimit :=
    (show 2 ^ 41 < 10 ^ 13 by decide).trans_le (Nat.pow_le_pow_right (by decide) (by decide))
  obtain ⟨-, hwritable, hread, -⟩ := advertising_loses_nothing a
  refine ⟨hmemory, hwritable hmemory, hread, ?_, ?_⟩
  · exact a.isShownBy_manifest.textOf?_eq "physfn" rfl
  · rw [a.at?_capacityPath]
    decide +kernel

end SliceAgent
