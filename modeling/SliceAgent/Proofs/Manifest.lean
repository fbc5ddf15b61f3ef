import SliceAgent.Proofs.Quantity
import SliceAgent.Proofs.MemoryStore
import Mathlib.Data.List.Forall2
import Mathlib.Data.List.Nodup

/-!
# Reading a manifest undoes writing it

Each part of a slice has a form in the manifest and a reader, and for each part reading its form
gives it back: attributes whatever their value, and capacities that are not too large
(`Quantity.IsExact`). Only the order of attributes and capacities is not kept, since they are
written sorted by name; they are maps, so this makes no difference. Labels are written under their
keys, whatever these are, and come back under them.

`Slice.reread` is what comes back of a slice as a whole (`ofManifest_manifest`). Slices that were
read have quantities of the binary family, so writing and reading them once more changes nothing
(`reading_undoes_writing`).
-/

namespace SliceAgent

/-! ### Objects as maps -/

namespace Json

theorem sortFields_perm {α : Type} (fields : List (String × α)) :
    (sortFields fields).Perm fields :=
  List.mergeSort_perm fields _

end Json

/-! ### Slices that are the same -/

/-- Two devices that are the same but for the order of their attributes and capacities. -/
structure DeviceEntry.IsSame (d e : DeviceEntry) : Prop where
  name : d.name = e.name
  attributes : d.attributes.Perm e.attributes
  capacity : d.capacity.Perm e.capacity

/-- Two slices that are the same but for the order in which maps list their entries: the devices are
the same in the same order, and all other fields are equal. -/
structure Slice.IsSame (s t : Slice) : Prop where
  name : s.name = t.name
  driver : s.driver = t.driver
  nodeName : s.nodeName = t.nodeName
  pool : s.pool = t.pool
  devices : List.Forall₂ DeviceEntry.IsSame s.devices t.devices
  labels : s.labels.Perm t.labels
  version : s.version = t.version

/-- A quantity that has the same text only as quantities of the same value do: of the binary family
and no larger than a power of ten with as many zeros as a product has digits. -/
structure Quantity.IsExact (q : Quantity) : Prop where
  format : q.format = .binary
  le : q.value.natAbs ≤ 10 ^ precision

namespace Slice

/-- All capacities can be read back. -/
def HasExactCapacities (s : Slice) : Prop :=
  ∀ d ∈ s.devices, ∀ c ∈ d.capacity, c.2.IsExact

end Slice

/-! ### Parts of a manifest -/

theorem exists_of_forall₂ {α β : Type} {R : α → β → Prop} {xs : List α} {ys : List β}
    (h : List.Forall₂ R xs ys) : ∀ y ∈ ys, ∃ x, R x y := by
  induction h with
  | nil => simp
  | cons hxy _ ih => exact List.forall_mem_cons.mpr ⟨⟨_, hxy⟩, ih⟩

namespace Attribute

theorem ofFields?_manifest (a : Attribute) : ofFields? [(a.kind.name, a.value)] = some a := by
  obtain ⟨kind, value, hvalue⟩ := a
  cases kind <;>
    simp [ofFields?, ofField?, AttributeKind.all, AttributeKind.name, Json.field?, hvalue]

theorem readAttribute_manifest (a : Attribute) : Manifest.readAttribute a.manifest = .ok a := by
  change (ofFields? [(a.kind.name, a.value)]).elim (Except.error ManifestFault.attributeValues)
    Except.ok = _
  rw [ofFields?_manifest]
  rfl

end Attribute

/-- A reading of two steps gives a result if both do. -/
theorem bind_eq_ok_iff {ε α β : Type} {x : Except ε α} {f : α → Except ε β} {b : β} :
    x >>= f = .ok b ↔ ∃ a, x = .ok a ∧ f a = .ok b := by
  cases x with
  | error e => simp [bind, Except.bind]
  | ok a => simp [bind, Except.bind]

namespace Manifest

theorem fields_eq_ok_iff {v : Json} {fs : List (String × Json)} :
    fields v = .ok fs ↔ v = .obj fs := by
  cases v <;> simp [fields]

theorem required_eq_ok_iff {name : String} {v w : Json} :
    required name v = .ok w ↔ ∃ fs, v = .obj fs ∧ Json.field? name fs = some w := by
  cases v with
  | obj fs => cases h : Json.field? name fs <;> simp [required, h]
  | _ => simp [required]

/-- A map that is written is found, also if it is empty. -/
theorem mapFields_obj {name : String} {part fields : List (String × Json)}
    (h : Json.field? name part = some (.obj fields)) : mapFields name part = .ok fields := by
  rw [mapFields, fieldD, h]
  cases fields <;> rfl

section MapValues

variable {α : Type} {read : Json → Except ManifestFault α}

/-- A map is read entry by entry. -/
theorem mapValues_map (write : α → Json) {entries : List (String × α)}
    (h : ∀ e ∈ entries, read (write e.2) = .ok e.2) :
    mapValues read (entries.map fun e => (e.1, write e.2)) = .ok entries := by
  induction entries with
  | nil => rfl
  | cons e rest ih =>
    have hrest := ih fun e he => h e (List.mem_cons_of_mem _ he)
    rw [List.map_cons, mapValues, h e (by simp), hrest]
    rfl

/-- What is read of a map was read of its values, each under its name. -/
theorem forall₂_of_mapValues {fields : List (String × Json)} {entries : List (String × α)}
    (h : mapValues read fields = .ok entries) :
    List.Forall₂ (fun f e => f.1 = e.1 ∧ read f.2 = .ok e.2) fields entries := by
  induction fields generalizing entries with
  | nil =>
    obtain rfl : [] = entries := Except.ok.inj h
    exact .nil
  | cons f rest ih =>
    obtain ⟨key, v⟩ := f
    simp only [mapValues, bind_eq_ok_iff] at h
    obtain ⟨a, hv, others, hothers, heq⟩ := h
    obtain rfl : (key, a) :: others = entries := Except.ok.inj heq
    exact .cons ⟨rfl, hv⟩ (ih hothers)

end MapValues

theorem format_of_readCapacity {v : Json} {q : Quantity} (h : readCapacity v = .ok q) :
    q.format = .binary := by
  obtain ⟨value, -, hread⟩ := bind_eq_ok_iff.mp h
  cases hn : (readQuantity value).mapError ManifestFault.quantity with
  | error fault => rw [hn] at hread; cases hread
  | ok n =>
    rw [hn] at hread
    obtain rfl := Except.ok.inj hread
    rfl

end Manifest

/-! ### Devices -/

namespace DeviceEntry

/-- A device as it comes back from a manifest. -/
def reread (d : DeviceEntry) : DeviceEntry :=
  { d with
    attributes := Json.sortFields d.attributes
    capacity := Json.sortFields d.capacity }

theorem reread_isSame (d : DeviceEntry) : d.reread.IsSame d :=
  ⟨rfl, Json.sortFields_perm _, Json.sortFields_perm _⟩

theorem readDevice_obj {name : Json} {attributeFields capacityFields : List (String × Json)}
    {attributes : List (String × Attribute)} {capacity : List (String × Quantity)}
    (hattributes : Manifest.mapValues Manifest.readAttribute attributeFields = .ok attributes)
    (hcapacity : Manifest.mapValues Manifest.readCapacity capacityFields = .ok capacity) :
    Manifest.readDevice (.obj
        [("name", name), ("attributes", .obj attributeFields), ("capacity", .obj capacityFields)]) =
      .ok ⟨name, attributes, capacity⟩ := by
  simp only [Manifest.readDevice, Manifest.fields, bind, Except.bind]
  rw [Manifest.mapFields_obj rfl]
  simp only [hattributes]
  rw [Manifest.mapFields_obj rfl]
  simp only [hcapacity]
  rfl

/-- A device that is written is read as it comes back. -/
theorem readDevice_manifest {d : DeviceEntry} (h : ∀ c ∈ d.capacity, c.2.IsExact) :
    Manifest.readDevice d.manifest = .ok d.reread := by
  refine readDevice_obj
    (Manifest.mapValues_map Attribute.manifest fun e _ => e.2.readAttribute_manifest)
    (Manifest.mapValues_map (fun q : Quantity => .obj [("value", .text q.text)]) fun e he => ?_)
  have hexact := h e ((Json.sortFields_perm _).mem_iff.mp he)
  exact Quantity.readCapacity_text_of_le hexact.format hexact.le

/-- The quantities of a device that was read are of the binary family. -/
theorem format_of_readDevice {v : Json} {d : DeviceEntry} (h : Manifest.readDevice v = .ok d) :
    ∀ c ∈ d.capacity, c.2.format = .binary := by
  simp only [Manifest.readDevice, bind_eq_ok_iff] at h
  obtain ⟨part, -, _, -, attributes, -, _, -, capacity, hcapacity, name, -, heq⟩ := h
  obtain rfl : ⟨name, attributes, capacity⟩ = d := Except.ok.inj heq
  intro c hc
  obtain ⟨f, -, hf⟩ := exists_of_forall₂ (Manifest.forall₂_of_mapValues hcapacity) c hc
  exact Manifest.format_of_readCapacity hf

theorem readDeviceList_manifest {ds : List DeviceEntry}
    (h : ∀ d ∈ ds, ∀ c ∈ d.capacity, c.2.IsExact) :
    Manifest.readDeviceList (ds.map manifest) = .ok (ds.map reread) := by
  induction ds with
  | nil => rfl
  | cons d rest ih =>
    have hrest := ih fun d hd => h d (List.mem_cons_of_mem _ hd)
    rw [List.map_cons, Manifest.readDeviceList, readDevice_manifest (h d (by simp)), hrest]
    rfl

theorem forall₂_of_readDeviceList {items : List Json} {ds : List DeviceEntry}
    (h : Manifest.readDeviceList items = .ok ds) :
    List.Forall₂ (fun v d => Manifest.readDevice v = .ok d) items ds := by
  induction items generalizing ds with
  | nil =>
    obtain rfl : [] = ds := Except.ok.inj h
    exact .nil
  | cons v rest ih =>
    simp only [Manifest.readDeviceList, bind_eq_ok_iff] at h
    obtain ⟨d, hd, others, hothers, heq⟩ := h
    obtain rfl : d :: others = ds := Except.ok.inj heq
    exact .cons hd (ih hothers)

theorem exists_of_readDevices {v : Json} {ds : List DeviceEntry}
    (h : Manifest.readDevices v = .ok ds) : ∀ d ∈ ds, ∃ v, Manifest.readDevice v = .ok d := by
  unfold Manifest.readDevices at h
  split at h
  · split at h
    · exact exists_of_forall₂ (forall₂_of_readDeviceList h)
    all_goals cases h
  · obtain rfl : [] = ds := Except.ok.inj h
    simp

end DeviceEntry

/-! ### Labels -/

namespace Slice

theorem readLabels_obj (fields : List (String × Json)) :
    Manifest.readLabels (.obj fields) = .ok (fields.map fun f => (.text f.1, f.2)) := by
  cases fields <;> rfl

/-- The labels of a map are its entries. -/
theorem readLabels_of_entries? {v : Json} {labels : List (Json × Json)}
    (h : v.entries? = some labels) : Manifest.readLabels v = .ok labels := by
  cases v with
  | obj fields =>
    obtain rfl := Option.some.inj h
    exact readLabels_obj fields
  | table entries =>
    obtain rfl := Option.some.inj h
    cases entries <;> rfl
  | _ => cases h

end Slice

/-! ### Slices -/

namespace Slice

/-- A slice as it comes back from its manifest. -/
def reread (s : Slice) : Slice :=
  { s with devices := s.devices.map DeviceEntry.reread }

theorem reread_isSame (s : Slice) : s.reread.IsSame s where
  name := rfl
  driver := rfl
  nodeName := rfl
  pool := rfl
  devices := by
    change List.Forall₂ _ (s.devices.map DeviceEntry.reread) s.devices
    rw [List.forall₂_map_left_iff]
    exact List.forall₂_same.mpr fun d _ => d.reread_isSame
  labels := .refl _
  version := rfl

theorem readDevices_manifest {s : Slice} (h : s.HasExactCapacities) :
    Manifest.readDevices (.arr (s.devices.map DeviceEntry.manifest)) =
      .ok (s.devices.map DeviceEntry.reread) := by
  have hlist := DeviceEntry.readDeviceList_manifest h
  cases hdevices : s.devices with
  | nil => rfl
  | cons d rest => rwa [hdevices] at hlist

/-- The metadata of a slice can be looked into. -/
theorem metadata_eq (s : Slice) :
    ∃ fields, s.metadata = .obj fields ∧ Json.field? "name" fields = some s.name ∧
      Json.field? "labels" fields = some (.ofEntries s.labels) ∧
      Manifest.fieldD "resourceVersion" fields .null = s.version := by
  refine ⟨_, rfl, rfl, rfl, ?_⟩
  by_cases hversion : s.version = .null
  · simp [hversion, Manifest.fieldD, Json.field?]
  · simp [hversion, Manifest.fieldD, Json.field?]

open Manifest in
/-- The parts of an object that a slice is read from. -/
theorem ofManifest_eq_ok_iff {m : Json} {s : Slice} :
    ofManifest m = .ok s ↔
      ∃ top metadata spec pool,
        m = .obj top ∧
        fieldD "metadata" top (.obj []) = .obj metadata ∧
        fieldD "spec" top (.obj []) = .obj spec ∧
        fieldD "pool" spec (.obj []) = .obj pool ∧
        Json.field? "name" metadata = some s.name ∧
        s.driver = fieldD "driver" spec (.text "") ∧
        s.nodeName = fieldD "nodeName" spec (.text "") ∧
        s.pool = ⟨fieldD "name" pool (.text ""), fieldD "generation" pool (.int 0),
          fieldD "resourceSliceCount" pool (.int 1)⟩ ∧
        readDevices (fieldD "devices" spec .null) = .ok s.devices ∧
        readLabels (fieldD "labels" metadata .null) = .ok s.labels ∧
        s.version = fieldD "resourceVersion" metadata .null := by
  simp only [ofManifest, bind_eq_ok_iff, fields_eq_ok_iff, required_eq_ok_iff]
  constructor
  · rintro ⟨top, rfl, spec, hspec, devices, hdevices, name, ⟨metadata, hmetadata, hname⟩, pool,
      hpool, metadata', hmetadata', labels, hlabels, heq⟩
    obtain rfl : metadata = metadata' := Json.obj.inj (hmetadata.symm.trans hmetadata')
    obtain rfl := Except.ok.inj heq
    exact ⟨top, metadata, spec, pool, rfl, hmetadata, hspec, hpool, hname, rfl, rfl, rfl, hdevices,
      hlabels, rfl⟩
  · rintro ⟨top, metadata, spec, pool, rfl, hmetadata, hspec, hpool, hname, hdriver, hnode, hpools,
      hdevices, hlabels, hversion⟩
    refine ⟨top, rfl, spec, hspec, _, hdevices, _, ⟨metadata, hmetadata, hname⟩, pool, hpool,
      metadata, hmetadata, _, hlabels, ?_⟩
    rw [← hdriver, ← hnode, ← hpools, ← hversion]
    rfl

/-- **Reading a manifest.** A slice with capacities that can be read back is read from its manifest
as it comes back. -/
theorem ofManifest_manifest {s : Slice} (h : s.HasExactCapacities) :
    ofManifest s.manifest = .ok s.reread := by
  obtain ⟨metadata, hmetadata, hname, hlabels, hversion⟩ := s.metadata_eq
  refine ofManifest_eq_ok_iff.mpr ⟨_, metadata, _, _, rfl, hmetadata, rfl, rfl, hname, rfl, rfl,
    rfl, readDevices_manifest h, ?_, hversion.symm⟩
  rw [Manifest.fieldD, hlabels]
  exact readLabels_of_entries? (Json.entries?_ofEntries s.labels)

/-- A slice with capacities that can be read back can be written. -/
theorem isWritable_of_hasExactCapacities {s : Slice} (h : s.HasExactCapacities) :
    s.isWritable = true := by
  refine List.all_eq_true.mpr fun d hd => List.all_eq_true.mpr fun c hc => ?_
  have hlimit : 10 ^ Quantity.precision < 10 ^ digitLimit :=
    Nat.pow_lt_pow_right (by decide) (by decide)
  exact Quantity.isWritable_of_lt ((h d hd c hc).le.trans_lt hlimit)

/-- The capacities of a slice that was read can be read back if they are not too large. -/
theorem hasExactCapacities_of_ofManifest {m : Json} {s : Slice} (h : ofManifest m = .ok s)
    (hle : ∀ d ∈ s.devices, ∀ c ∈ d.capacity, c.2.value.natAbs ≤ 10 ^ Quantity.precision) :
    s.HasExactCapacities := by
  obtain ⟨_, _, _, _, -, -, -, -, -, -, -, -, hdevices, -⟩ := ofManifest_eq_ok_iff.mp h
  intro d hd c hc
  obtain ⟨v, hv⟩ := DeviceEntry.exists_of_readDevices hdevices d hd
  exact ⟨DeviceEntry.format_of_readDevice hv c hc, hle d hd c hc⟩

end Slice

/-- **Reading undoes writing.** Every slice whose capacities are quantities of the binary family up
to the power of ten with 28 zeros can be written, and is read from its manifest as the same slice.
So is every slice that was itself read from an object, however that was written and whatever the
keys of its labels, if its capacities are within that bound. -/
theorem reading_undoes_writing :
    (∀ s : Slice, s.HasExactCapacities →
      s.isWritable = true ∧ ∃ t, Slice.ofManifest s.manifest = .ok t ∧ t.IsSame s) ∧
    ∀ (m : Json) (s : Slice), Slice.ofManifest m = .ok s →
      (∀ d ∈ s.devices, ∀ c ∈ d.capacity, c.2.value.natAbs ≤ 10 ^ 28) →
      s.isWritable = true ∧ ∃ t, Slice.ofManifest s.manifest = .ok t ∧ t.IsSame s := by
  have hundoes (s : Slice) (hexact : s.HasExactCapacities) :
      s.isWritable = true ∧ ∃ t, Slice.ofManifest s.manifest = .ok t ∧ t.IsSame s :=
    ⟨Slice.isWritable_of_hasExactCapacities hexact, s.reread, Slice.ofManifest_manifest hexact,
      s.reread_isSame⟩
  exact ⟨hundoes, fun m s hread hle =>
    hundoes s (Slice.hasExactCapacities_of_ofManifest hread hle)⟩

/-- A slice whose attributes have an empty text, zero and false for values, and one that was read
from an object with labels in pairs, a number and its text among their keys, come back as they
are. -/
theorem reading_undoes_writing_of_falsy :
    let s : Slice :=
      ⟨"n", "driver", "node", ⟨"p", .int 2, .int 3⟩,
        [⟨"d", [("s", .string ""), ("n", .int 0), ("b", ⟨.bool, .bool false, by simp⟩),
          ("v", ⟨.version, "1.2", by simp⟩)], [("memory", { value := -2048 })]⟩],
        [("b", "2"), ("a", "1")], "7"⟩
    let m : Json := .obj
      [("metadata", .obj [("name", "n"), ("labels", .arr [.arr [.int 1, "a"], .arr ["1", "b"]])]),
       ("spec", .obj [("devices", .arr [.obj [("name", "d"),
         ("attributes", .obj [("b", .obj [("bool", .bool false), ("int", .null)])]),
         ("capacity", .obj [("memory", .obj [("value", "2Gi")])])]])])]
    let r : Slice :=
      ⟨"n", "", "", ⟨"", .int 0, .int 1⟩,
        [⟨"d", [("b", ⟨.bool, .bool false, by simp⟩)], [("memory", { value := 2 ^ 31 })]⟩],
        [(.int 1, "a"), ("1", "b")], .null⟩
    (∃ t, Slice.ofManifest s.manifest = .ok t ∧ t.IsSame s) ∧
      Slice.ofManifest m = .ok r ∧ ∃ t, Slice.ofManifest r.manifest = .ok t ∧ t.IsSame r := by
  intro s m r
  have hs := reading_undoes_writing.1 s (by
    intro d hd c hc
    obtain rfl := List.mem_singleton.mp hd
    obtain rfl := List.mem_singleton.mp hc
    exact ⟨rfl, by decide⟩)
  have hread : Slice.ofManifest m = .ok r := by decide +kernel
  have hr := reading_undoes_writing.2 m r hread (by
    intro d hd c hc
    obtain rfl := List.mem_singleton.mp hd
    obtain rfl := List.mem_singleton.mp hc
    decide)
  exact ⟨hs.2, hread, hr.2⟩

end SliceAgent
