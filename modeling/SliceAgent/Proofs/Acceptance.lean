import SliceAgent.Proofs.Lookup
import SliceAgent.Proofs.Truncation

/-!
# Which objects describe slices

A manifest is read part by part, and a reading ends at the first fault. So all faults of a manifest
can be listed in the order of reading (`Manifest.faults`), each part giving its own. Then the
reading fails with the first one of them, and it gives a slice exactly if there are none
(`Manifest.failsFirst_ofManifest`). The list of a part does not depend on the parts before it, which
is why the lists can be joined (`FailsFirst.bind`).

Manifests without faults are the well-formed ones (`Manifest.IsWellFormed`), and of these nothing is
lost (`Manifest.Describes`).
-/

namespace SliceAgent

open Json (Step)

/-! ### The first fault -/

/-- A reading fails with the first one of some faults, and gives a result if there are none. -/
def FailsFirst {ε α : Type} (faults : List ε) : Except ε α → Prop
  | .ok _ => faults = []
  | .error e => faults.head? = some e

namespace FailsFirst

variable {ε α β : Type} {faults later : List ε} {x : Except ε α} {f : α → Except ε β}

theorem pure (a : α) : FailsFirst ([] : List ε) (.ok a : Except ε α) := rfl

/-- One reading after another: the faults of the second one count only if the first one has none. -/
theorem bind (hx : FailsFirst faults x) (hf : ∀ a, x = .ok a → FailsFirst later (f a)) :
    FailsFirst (faults ++ later) (x >>= f) := by
  cases x with
  | error e =>
    change (faults ++ later).head? = some e
    rw [List.head?_append, show faults.head? = some e from hx]
    rfl
  | ok a =>
    obtain rfl : faults = [] := hx
    exact hf a rfl

/-- A result that is put to use gives no new faults. -/
theorem bind_ok (hx : FailsFirst faults x) (g : α → β) :
    FailsFirst faults (x >>= fun a => .ok (g a)) := by
  rw [← List.append_nil faults]
  exact hx.bind fun a _ => pure (g a)

theorem exists_ok_iff (h : FailsFirst faults x) : (∃ a, x = .ok a) ↔ faults = [] := by
  cases x with
  | error e =>
    refine iff_of_false (by simp) ?_
    rintro rfl
    cases h
  | ok a => exact iff_of_true ⟨a, rfl⟩ h

theorem eq_error_iff (h : FailsFirst faults x) {e : ε} : x = .error e ↔ faults.head? = some e := by
  cases x with
  | error e' => rw [show faults.head? = some e' from h, Option.some_inj, Except.error.injEq]
  | ok a =>
    obtain rfl : faults = [] := h
    simp

end FailsFirst

/-! ### Parts of a manifest -/

namespace Json

/-- A part that is missing, null or an object. -/
inductive IsOptionalObject : Option Json → Prop
  | missing : IsOptionalObject none
  | null : IsOptionalObject (some .null)
  | object (fields : List (String × Json)) : IsOptionalObject (some (.obj fields))

/-- A part that is missing, null or a list. -/
inductive IsOptionalList : Option Json → Prop
  | missing : IsOptionalList none
  | null : IsOptionalList (some .null)
  | list (items : List Json) : IsOptionalList (some (.arr items))

/-- The fields of the object at a place; there are none if there is no object. -/
def fieldsAt (path : List Step) (v : Json) : List (String × Json) :=
  match at? path v with
  | some (.obj fields) => fields
  | _ => []

/-- The items of the list at a place; there are none if there is no list. -/
def itemsAt (path : List Step) (v : Json) : List Json :=
  match at? path v with
  | some (.arr items) => items
  | _ => []

theorem fieldsAt_congr {path path' : List Step} {v w : Json} (h : at? path v = at? path' w) :
    fieldsAt path v = fieldsAt path' w := by
  rw [fieldsAt, h, fieldsAt]

theorem itemsAt_congr {path path' : List Step} {v w : Json} (h : at? path v = at? path' w) :
    itemsAt path v = itemsAt path' w := by
  rw [itemsAt, h, itemsAt]

end Json

namespace Manifest

/-- The kinds of attribute that a value has something under which is not null. -/
def givenKinds (v : Json) : List AttributeKind :=
  AttributeKind.all.filter fun kind => (Json.at? [.field kind.name] v).getD .null ≠ .null

/-- A device as far as its parts have the types that they can have. -/
structure IsShapedDevice (d : Json) : Prop where
  object : ∃ fields, d = .obj fields
  attributes : Json.IsOptionalObject (Json.at? [.field "attributes"] d)
  capacity : Json.IsOptionalObject (Json.at? [.field "capacity"] d)
  attributeParts : ∀ f ∈ Json.fieldsAt [.field "attributes"] d, Json.IsOptionalObject (some f.2)
  capacityParts : ∀ f ∈ Json.fieldsAt [.field "capacity"] d, Json.IsOptionalObject (some f.2)

/-- A manifest as far as its parts have the types that they can have. -/
structure IsShaped (m : Json) : Prop where
  object : ∃ fields, m = .obj fields
  spec : Json.IsOptionalObject (Json.at? [.field "spec"] m)
  metadata : Json.IsOptionalObject (Json.at? [.field "metadata"] m)
  pool : Json.IsOptionalObject (Json.at? [.field "spec", .field "pool"] m)
  labels : Json.IsOptionalObject (Json.at? [.field "metadata", .field "labels"] m)
  devices : Json.IsOptionalList (Json.at? [.field "spec", .field "devices"] m)
  deviceParts : ∀ d ∈ Json.itemsAt [.field "spec", .field "devices"] m, IsShapedDevice d

/-- A device that can be read: it has a name, each attribute has one value, and each capacity is a
finite number. -/
structure IsWellFormedDevice (d : Json) : Prop where
  attributes : ∀ f ∈ Json.fieldsAt [.field "attributes"] d, ∃ kind, givenKinds f.2 = [kind]
  capacity : ∀ f ∈ Json.fieldsAt [.field "capacity"] d,
    ∃ value q, Json.at? [.field "value"] f.2 = some value ∧ Quantity.valueOf? value = some q
  name : ∃ name, Json.at? [.field "name"] d = some name

/-- A manifest that can be read: neither its specification nor its pool is null, it has a name, and
its devices can be read. -/
structure IsWellFormed (m : Json) : Prop where
  spec : Json.at? [.field "spec"] m ≠ some .null
  devices : ∀ d ∈ Json.itemsAt [.field "spec", .field "devices"] m, IsWellFormedDevice d
  name : ∃ name, Json.at? [.field "metadata", .field "name"] m = some name
  pool : Json.at? [.field "spec", .field "pool"] m ≠ some .null

/-- An attribute with its name, as a field tells it. -/
structure TellsAttribute (f : String × Json) (e : String × Attribute) : Prop where
  name : f.1 = e.1
  kind : givenKinds f.2 = [e.2.kind]
  value : Json.at? [.field e.2.kind.name] f.2 = some e.2.value

/-- A capacity with its name, as a field tells it: the number without the part behind the point. -/
structure TellsCapacity (f : String × Json) (e : String × Quantity) : Prop where
  name : f.1 = e.1
  value : ∃ value q, Json.at? [.field "value"] f.2 = some value ∧
    Quantity.valueOf? value = some q ∧ e.2 = { value := towardZero q }

/-- A device as an object tells it. -/
structure DescribesDevice (d : Json) (e : DeviceEntry) : Prop where
  name : Json.at? [.field "name"] d = some e.name
  attributes : List.Forall₂ TellsAttribute (Json.fieldsAt [.field "attributes"] d) e.attributes
  capacity : List.Forall₂ TellsCapacity (Json.fieldsAt [.field "capacity"] d) e.capacity

/-- A slice as a manifest tells it, with defaults for what is missing. -/
structure Describes (m : Json) (s : Slice) : Prop where
  name : Json.at? [.field "metadata", .field "name"] m = some s.name
  driver : s.driver = (Json.at? [.field "spec", .field "driver"] m).getD (.text "")
  nodeName : s.nodeName = (Json.at? [.field "spec", .field "nodeName"] m).getD (.text "")
  poolName : s.pool.name =
    (Json.at? [.field "spec", .field "pool", .field "name"] m).getD (.text "")
  generation : s.pool.generation =
    (Json.at? [.field "spec", .field "pool", .field "generation"] m).getD (.int 0)
  sliceCount : s.pool.sliceCount =
    (Json.at? [.field "spec", .field "pool", .field "resourceSliceCount"] m).getD (.int 1)
  devices : List.Forall₂ DescribesDevice
    (Json.itemsAt [.field "spec", .field "devices"] m) s.devices
  labels : s.labels =
    (Json.fieldsAt [.field "metadata", .field "labels"] m).map fun l => (.text l.1, l.2)
  version : s.version =
    (Json.at? [.field "metadata", .field "resourceVersion"] m).getD .null

/-! ### Faults in the order of reading -/

/-- The fault of a part that must not be null. -/
def nullFaults (fault : ManifestFault) (part? : Option Json) : List ManifestFault :=
  if part? = some .null then [fault] else []

/-- The fault of a field that must not be missing. -/
def missingFaults (name : String) (part? : Option Json) : List ManifestFault :=
  if part?.isSome then [] else [.missing name]

/-- The faults of an attribute. -/
def attributeFaults (v : Json) : List ManifestFault :=
  if v = .null then [.noObject]
  else if (givenKinds v).length = 1 then [] else [.attributeValues]

/-- The faults of a capacity. -/
def capacityFaults (v : Json) : List ManifestFault :=
  if v = .null then [.wrongType]
  else match Json.at? [.field "value"] v with
    | none => [.missing "value"]
    | some value => match readQuantity value with
      | .error fault => [.quantity fault]
      | .ok _ => []

/-- The faults of a device: those of its attributes, those of its capacities, and that it has no
name. -/
def deviceFaults (d : Json) : List ManifestFault :=
  (Json.fieldsAt [.field "attributes"] d).flatMap (attributeFaults ·.2) ++
    (Json.fieldsAt [.field "capacity"] d).flatMap (capacityFaults ·.2) ++
    missingFaults "name" (Json.at? [.field "name"] d)

/-- The faults of the metadata. -/
def nameFaults (m : Json) : List ManifestFault :=
  if Json.at? [.field "metadata"] m = some .null then [.wrongType]
  else missingFaults "name" (Json.at? [.field "metadata", .field "name"] m)

/-- The faults of a manifest: that its specification is null, those of its devices, that it has no
name, and that its pool is null. -/
def faults (m : Json) : List ManifestFault :=
  nullFaults .noObject (Json.at? [.field "spec"] m) ++
    (Json.itemsAt [.field "spec", .field "devices"] m).flatMap deviceFaults ++
    nameFaults m ++
    nullFaults .noObject (Json.at? [.field "spec", .field "pool"] m)

/-! ### Reading the parts of a device -/

section Attributes

variable {fields : List (String × Json)}

/-- What an attribute is made of: the value under the one kind that has any. -/
theorem ofField?_eq_some_iff {kind : AttributeKind} {a : Attribute} :
    Attribute.ofField? fields kind = some a ↔
      a.kind = kind ∧ Json.field? kind.name fields = some a.value := by
  rw [Attribute.ofField?]
  cases hvalue : Json.field? kind.name fields with
  | none => simp
  | some v =>
    obtain ⟨kind', value, hne⟩ := a
    simp only [Option.dite_none_left_eq_some, Option.some_inj, Attribute.mk.injEq]
    constructor
    · rintro ⟨-, rfl, rfl⟩
      exact ⟨rfl, rfl⟩
    · rintro ⟨rfl, rfl⟩
      exact ⟨hne, rfl, rfl⟩

theorem ofField?_eq_none_iff {kind : AttributeKind} :
    Attribute.ofField? fields kind = none ↔
      (Json.field? kind.name fields).getD .null = .null := by
  rw [Attribute.ofField?]
  cases Json.field? kind.name fields with
  | none => simp
  | some v => by_cases hv : v = .null <;> simp [hv]

/-- The kinds of the attributes that the fields of an object give. -/
theorem map_kind_filterMap (fields : List (String × Json)) :
    (AttributeKind.all.filterMap (Attribute.ofField? fields)).map (·.kind) =
      givenKinds (.obj fields) := by
  rw [givenKinds]
  induction AttributeKind.all with
  | nil => rfl
  | cons kind rest ih =>
    rw [List.filterMap_cons, List.filter_cons, Json.at?_singleton, Json.step?]
    cases hread : Attribute.ofField? fields kind with
    | none => simp [ofField?_eq_none_iff.mp hread, ih]
    | some a =>
      obtain ⟨hkind, hvalue⟩ := ofField?_eq_some_iff.mp hread
      simp [hvalue, a.value_ne_null, hkind, ih]

theorem readAttribute_obj (fields : List (String × Json)) :
    readAttribute (.obj fields) =
      (Attribute.ofFields? fields).elim (.error .attributeValues) .ok := rfl

theorem failsFirst_readAttribute {v : Json} (hv : Json.IsOptionalObject (some v)) :
    FailsFirst (attributeFaults v) (readAttribute v) := by
  cases hv with
  | null => rfl
  | object fields =>
    rw [readAttribute_obj, attributeFaults, if_neg (by simp), ← map_kind_filterMap,
      Attribute.ofFields?]
    rcases AttributeKind.all.filterMap (Attribute.ofField? fields) with _ | ⟨a, _ | ⟨b, rest⟩⟩
    · rfl
    · rfl
    · simp [FailsFirst]

/-- An attribute that was read is the one value of its object. -/
theorem tellsAttribute_of_readAttribute {f : String × Json} {e : String × Attribute}
    (hname : f.1 = e.1) (h : readAttribute f.2 = .ok e.2) : TellsAttribute f e := by
  obtain ⟨name, v⟩ := f
  obtain ⟨_, a⟩ := e
  obtain ⟨fields, hfields, hread⟩ := bind_eq_ok_iff.mp h
  obtain rfl := fields_eq_ok_iff.mp hfields
  have hlist : AttributeKind.all.filterMap (Attribute.ofField? fields) = [a] := by
    rw [Attribute.ofFields?] at hread
    split at hread
    · rename_i b hb
      rw [hb, Except.ok.inj hread]
    · cases hread
  have hmem : a ∈ AttributeKind.all.filterMap (Attribute.ofField? fields) := by
    rw [hlist]
    exact List.mem_singleton_self a
  obtain ⟨kind, -, hkind⟩ := List.mem_filterMap.mp hmem
  obtain ⟨rfl, hvalue⟩ := ofField?_eq_some_iff.mp hkind
  exact ⟨hname, by rw [← map_kind_filterMap, hlist]; rfl, by rwa [Json.at?_singleton]⟩

end Attributes

section Capacities

theorem failsFirst_readCapacity {v : Json} (hv : Json.IsOptionalObject (some v)) :
    FailsFirst (capacityFaults v) (readCapacity v) := by
  cases hv with
  | null => rfl
  | object fields =>
    rw [readCapacity, required, capacityFaults, if_neg (by simp), Json.at?_singleton, Json.step?]
    cases Json.field? "value" fields with
    | none => rfl
    | some value =>
      change FailsFirst _ (((readQuantity value).mapError ManifestFault.quantity).map _)
      cases hread : readQuantity value <;> simp [hread, FailsFirst, Except.mapError, Except.map]

/-- A capacity that was read is the finite number of its object. -/
theorem tellsCapacity_of_readCapacity {f : String × Json} {e : String × Quantity}
    (hname : f.1 = e.1) (h : readCapacity f.2 = .ok e.2) : TellsCapacity f e := by
  obtain ⟨value, hvalue, hread⟩ := bind_eq_ok_iff.mp h
  obtain ⟨fields, hobject, hfield⟩ := required_eq_ok_iff.mp hvalue
  cases hn : readQuantity value with
  | error fault =>
    rw [hn] at hread
    cases hread
  | ok n =>
    rw [hn] at hread
    obtain ⟨x, hx, rfl⟩ := Quantity.readQuantity_eq_ok_iff.mp hn
    exact ⟨hname, value, x, by rwa [hobject, Json.at?_singleton], hx, (Except.ok.inj hread).symm⟩

end Capacities

section MapValues

variable {α : Type} {read : Json → Except ManifestFault α} {fields : List (String × Json)}

/-- The faults of a map are those of its values, one after another. -/
theorem failsFirst_mapValues {part : Json → List ManifestFault}
    (h : ∀ f ∈ fields, FailsFirst (part f.2) (read f.2)) :
    FailsFirst (fields.flatMap (part ·.2)) (mapValues read fields) := by
  induction fields with
  | nil => exact .pure _
  | cons f rest ih =>
    obtain ⟨hf, hrest⟩ := List.forall_mem_cons.mp h
    rw [List.flatMap_cons, mapValues]
    exact hf.bind fun a _ => (ih hrest).bind_ok _

/-- The fields of a map that may be missing or null. -/
theorem mapFields_eq {name : String} (h : Json.IsOptionalObject (Json.field? name fields)) :
    mapFields name fields = .ok (Json.fieldsAt [.field name] (.obj fields)) := by
  rw [mapFields, fieldD, Json.fieldsAt, Json.at?_singleton, Json.step?]
  generalize Json.field? name fields = part at h ⊢
  cases h with
  | missing => rfl
  | null => rfl
  | object inner => cases inner <;> rfl

end MapValues

/-! ### Reading devices -/

theorem failsFirst_required (name : String) {v : Json} (hv : ∃ fields, v = .obj fields) :
    FailsFirst (missingFaults name (Json.at? [.field name] v)) (required name v) := by
  obtain ⟨fields, rfl⟩ := hv
  rw [required, Json.at?_singleton, Json.step?]
  cases Json.field? name fields <;> rfl

/-- The parts of a device are read one after another. -/
theorem readDevice_eq {d : Json} (hd : IsShapedDevice d) :
    readDevice d = (do
      let attributes ← mapValues readAttribute (Json.fieldsAt [.field "attributes"] d)
      let capacity ← mapValues readCapacity (Json.fieldsAt [.field "capacity"] d)
      let name ← required "name" d
      return { name, attributes, capacity }) := by
  obtain ⟨part, rfl⟩ := hd.object
  have hattributes := hd.attributes
  have hcapacity := hd.capacity
  rw [Json.at?_singleton, Json.step?] at hattributes hcapacity
  change (mapFields "attributes" part >>= fun fields => mapValues readAttribute fields >>=
    fun attributes => mapFields "capacity" part >>= fun fields => mapValues readCapacity fields >>=
    fun capacity => required "name" (.obj part) >>= fun name =>
    Except.ok (⟨name, attributes, capacity⟩ : DeviceEntry)) = _
  rw [mapFields_eq hattributes, mapFields_eq hcapacity]
  rfl

theorem failsFirst_readDevice {d : Json} (hd : IsShapedDevice d) :
    FailsFirst (deviceFaults d) (readDevice d) := by
  have hattributes := failsFirst_mapValues fun f hf =>
    failsFirst_readAttribute (hd.attributeParts f hf)
  have hcapacity := failsFirst_mapValues fun f hf =>
    failsFirst_readCapacity (hd.capacityParts f hf)
  rw [readDevice_eq hd, deviceFaults, List.append_assoc]
  exact hattributes.bind fun _ _ => hcapacity.bind fun _ _ =>
    (failsFirst_required "name" hd.object).bind_ok _

theorem describesDevice_of_readDevice {d : Json} (hd : IsShapedDevice d) {e : DeviceEntry}
    (h : readDevice d = .ok e) : DescribesDevice d e := by
  rw [readDevice_eq hd] at h
  simp only [bind_eq_ok_iff, required_eq_ok_iff] at h
  obtain ⟨attributes, hattributes, capacity, hcapacity, name, ⟨fields, rfl, hname⟩, heq⟩ := h
  obtain rfl : ⟨name, attributes, capacity⟩ = e := Except.ok.inj heq
  exact ⟨by rwa [Json.at?_singleton],
    (forall₂_of_mapValues hattributes).imp fun _ _ h => tellsAttribute_of_readAttribute h.1 h.2,
    (forall₂_of_mapValues hcapacity).imp fun _ _ h => tellsCapacity_of_readCapacity h.1 h.2⟩

section Devices

variable {items : List Json}

theorem failsFirst_readDeviceList (h : ∀ d ∈ items, IsShapedDevice d) :
    FailsFirst (items.flatMap deviceFaults) (readDeviceList items) := by
  induction items with
  | nil => exact .pure _
  | cons d rest ih =>
    obtain ⟨hd, hrest⟩ := List.forall_mem_cons.mp h
    rw [List.flatMap_cons, readDeviceList]
    exact (failsFirst_readDevice hd).bind fun _ _ => (ih hrest).bind_ok _

theorem forall₂_describesDevice (hshaped : ∀ d ∈ items, IsShapedDevice d)
    {ds : List DeviceEntry} (h : readDeviceList items = .ok ds) :
    List.Forall₂ DescribesDevice items ds := by
  have hread := (List.forall₂_and_left items ds).mpr
    ⟨hshaped, DeviceEntry.forall₂_of_readDeviceList h⟩
  exact hread.imp fun _ _ h => describesDevice_of_readDevice h.1 h.2

/-- The devices of a specification that may be missing or null. -/
theorem readDevices_eq {spec : List (String × Json)}
    (h : Json.IsOptionalList (Json.field? "devices" spec)) :
    readDevices (fieldD "devices" spec .null) =
      readDeviceList (Json.itemsAt [.field "devices"] (.obj spec)) := by
  rw [fieldD, Json.itemsAt, Json.at?_singleton, Json.step?]
  generalize Json.field? "devices" spec = part at h ⊢
  cases h with
  | missing => rfl
  | null => rfl
  | list items => cases items <;> rfl

/-- The labels of metadata that may be missing or null. -/
theorem readLabels_eq {metadata : List (String × Json)}
    (h : Json.IsOptionalObject (Json.field? "labels" metadata)) :
    readLabels (fieldD "labels" metadata .null) =
      .ok ((Json.fieldsAt [.field "labels"] (.obj metadata)).map fun l => (.text l.1, l.2)) := by
  rw [fieldD, Json.fieldsAt, Json.at?_singleton, Json.step?]
  generalize Json.field? "labels" metadata = part at h ⊢
  cases h with
  | missing => rfl
  | null => rfl
  | object fields => exact Slice.readLabels_obj fields

end Devices

/-! ### Parts without faults -/

theorem nullFaults_eq_nil_iff {fault : ManifestFault} {part? : Option Json} :
    nullFaults fault part? = [] ↔ part? ≠ some .null := by
  simp [nullFaults]

theorem missingFaults_eq_nil_iff {name : String} {part? : Option Json} :
    missingFaults name part? = [] ↔ ∃ v, part? = some v := by
  cases part? <;> simp [missingFaults]

theorem attributeFaults_eq_nil_iff {v : Json} :
    attributeFaults v = [] ↔ ∃ kind, givenKinds v = [kind] := by
  rw [← List.length_eq_one_iff, attributeFaults]
  by_cases hv : v = .null
  · subst hv
    exact iff_of_false (by simp) (by decide)
  · by_cases hkinds : (givenKinds v).length = 1 <;> simp [hv, hkinds]

theorem capacityFaults_eq_nil_iff {v : Json} :
    capacityFaults v = [] ↔
      ∃ value q, Json.at? [.field "value"] v = some value ∧ Quantity.valueOf? value = some q := by
  rw [capacityFaults]
  by_cases hv : v = .null
  · subst hv
    exact iff_of_false (by simp) (by rintro ⟨_, _, h, -⟩; cases h)
  · rw [if_neg hv]
    cases Json.at? [.field "value"] v with
    | none => simp
    | some value =>
      have hok : (∃ n, readQuantity value = .ok n) ↔ ∃ q, Quantity.valueOf? value = some q := by
        simp only [Quantity.readQuantity_eq_ok_iff]
        exact ⟨fun ⟨_, q, hq, _⟩ => ⟨q, hq⟩, fun ⟨q, hq⟩ => ⟨_, q, hq, rfl⟩⟩
      simp only [Option.some_inj, exists_and_left, exists_eq_left', ← hok]
      cases readQuantity value <;> simp

theorem deviceFaults_eq_nil_iff {d : Json} : deviceFaults d = [] ↔ IsWellFormedDevice d := by
  simp only [deviceFaults, List.append_eq_nil_iff, List.flatMap_eq_nil_iff,
    attributeFaults_eq_nil_iff, capacityFaults_eq_nil_iff, missingFaults_eq_nil_iff]
  exact ⟨fun ⟨⟨ha, hc⟩, hn⟩ => ⟨ha, hc, hn⟩, fun ⟨ha, hc, hn⟩ => ⟨⟨ha, hc⟩, hn⟩⟩

theorem nameFaults_eq_nil_iff {m : Json} :
    nameFaults m = [] ↔ ∃ name, Json.at? [.field "metadata", .field "name"] m = some name := by
  rw [nameFaults]
  split
  · rename_i hnull
    have hname : Json.at? [.field "metadata", .field "name"] m = none :=
      Json.at?_append_of_eq hnull [.field "name"]
    simp [hname]
  · exact missingFaults_eq_nil_iff

/-- A manifest without faults is well formed. -/
theorem faults_eq_nil_iff {m : Json} : faults m = [] ↔ IsWellFormed m := by
  simp only [faults, List.append_eq_nil_iff, List.flatMap_eq_nil_iff, deviceFaults_eq_nil_iff,
    nameFaults_eq_nil_iff, nullFaults_eq_nil_iff]
  exact ⟨fun ⟨⟨⟨hs, hd⟩, hn⟩, hp⟩ => ⟨hs, hd, hn, hp⟩,
    fun ⟨hs, hd, hn, hp⟩ => ⟨⟨⟨hs, hd⟩, hn⟩, hp⟩⟩

/-! ### Reading manifests -/

section Top

variable {name : String} {top inner : List (String × Json)}

/-- Looking into a part that may be missing. -/
theorem at?_of_fieldD (h : fieldD name top (.obj []) = .obj inner) (n : String)
    (rest : List Step) :
    Json.at? (.field name :: .field n :: rest) (.obj top) =
      Json.at? (.field n :: rest) (.obj inner) := by
  rw [fieldD] at h
  rw [Json.at?, Json.step?]
  cases hfound : Json.field? name top with
  | none =>
    rw [hfound] at h
    obtain rfl := Json.obj.inj h
    rfl
  | some v =>
    rw [hfound] at h
    obtain rfl : v = .obj inner := h
    rfl

theorem failsFirst_fields (h : Json.IsOptionalObject (Json.at? [.field name] (.obj top))) :
    FailsFirst (nullFaults .noObject (Json.at? [.field name] (.obj top)))
      (fields (fieldD name top (.obj []))) := by
  rw [Json.at?_singleton, Json.step?] at h ⊢
  rw [fieldD]
  generalize Json.field? name top = part at h ⊢
  cases h <;> rfl

theorem failsFirst_name (h : Json.IsOptionalObject (Json.at? [.field "metadata"] (.obj top))) :
    FailsFirst (nameFaults (.obj top)) (required "name" (fieldD "metadata" top (.obj []))) := by
  rw [nameFaults, fieldD, Json.at?_singleton, Json.at?, Json.step?]
  rw [Json.at?_singleton, Json.step?] at h
  generalize Json.field? "metadata" top = part at h ⊢
  cases h with
  | missing => rfl
  | null => rfl
  | object metadata =>
    rw [if_neg (by simp)]
    exact failsFirst_required "name" ⟨metadata, rfl⟩

end Top

/-- **Reading a manifest fails with its first fault**, and gives a slice if it has none. -/
theorem failsFirst_ofManifest {m : Json} (hm : IsShaped m) :
    FailsFirst (faults m) (Slice.ofManifest m) := by
  obtain ⟨top, rfl⟩ := hm.object
  have hlist : faults (.obj top) =
      nullFaults .noObject (Json.at? [.field "spec"] (.obj top)) ++
        ((Json.itemsAt [.field "spec", .field "devices"] (.obj top)).flatMap deviceFaults ++
          (nameFaults (.obj top) ++
            (nullFaults .noObject (Json.at? [.field "spec", .field "pool"] (.obj top)) ++
              ([] ++ [])))) := by
    simp only [faults, List.append_assoc, List.append_nil]
  rw [hlist]
  refine (failsFirst_fields hm.spec).bind fun spec hspec => ?_
  have hspec := at?_of_fieldD (fields_eq_ok_iff.mp hspec)
  have hitems := Json.itemsAt_congr (hspec "devices" [])
  have hdevices : Json.IsOptionalList (Json.field? "devices" spec) := by
    have hlist := hm.devices
    rwa [hspec, Json.at?_singleton] at hlist
  have hpool := hm.pool
  rw [hspec] at hpool ⊢
  refine FailsFirst.bind ?_ fun devices _ => ?_
  · rw [readDevices_eq hdevices, hitems]
    exact failsFirst_readDeviceList (hitems ▸ hm.deviceParts)
  refine (failsFirst_name hm.metadata).bind fun name hname =>
    (failsFirst_fields hpool).bind fun pool _ => ?_
  -- A name has been found, so the metadata is an object, and nothing can fail any more.
  obtain ⟨metadata, hmetadata, -⟩ := required_eq_ok_iff.mp hname
  have hlabels := hm.labels
  rw [at?_of_fieldD hmetadata, Json.at?_singleton] at hlabels
  rw [hmetadata]
  refine (FailsFirst.pure metadata).bind fun fields hfields => ?_
  obtain rfl := Except.ok.inj hfields
  rw [readLabels_eq hlabels]
  exact (FailsFirst.pure _).bind_ok _

/-- What was read of a manifest is what it tells. -/
theorem describes_of_ofManifest {m : Json} (hm : IsShaped m) {s : Slice}
    (h : Slice.ofManifest m = .ok s) : Describes m s := by
  obtain ⟨top, metadata, spec, pool, rfl, hmetadata, hspec, hpool, hname, hdriver, hnode, hpools,
    hdevices, hlabels, hversion⟩ := Slice.ofManifest_eq_ok_iff.mp h
  have hinMetadata := at?_of_fieldD hmetadata
  have hinSpec := at?_of_fieldD hspec
  have hinPool := at?_of_fieldD hpool
  have hlist := hm.devices
  have hlabelsPart := hm.labels
  rw [hinSpec, Json.at?_singleton] at hlist
  rw [hinMetadata, Json.at?_singleton] at hlabelsPart
  rw [readDevices_eq hlist] at hdevices
  rw [readLabels_eq hlabelsPart] at hlabels
  have hitems := Json.itemsAt_congr (hinSpec "devices" [])
  have hfields := Json.fieldsAt_congr (hinMetadata "labels" [])
  constructor
  · rwa [hinMetadata, Json.at?_singleton]
  · rwa [hinSpec, Json.at?_singleton]
  · rwa [hinSpec, Json.at?_singleton]
  · rw [hinSpec, hinPool, Json.at?_singleton, hpools]
    rfl
  · rw [hinSpec, hinPool, Json.at?_singleton, hpools]
    rfl
  · rw [hinSpec, hinPool, Json.at?_singleton, hpools]
    rfl
  · rw [hitems]
    exact forall₂_describesDevice (hitems ▸ hm.deviceParts) hdevices
  · rw [hfields]
    exact (Except.ok.inj hlabels).symm
  · rwa [hinMetadata, Json.at?_singleton]

end Manifest

open Manifest in
/-- **What is accepted, and what is kept of it.** A manifest whose parts have the types that they
can have describes a slice exactly if it is well formed, and the slice has everything that it tells:
each device in its place with all its attributes and capacities, these without the part behind the
point, and all other fields or their defaults.

Otherwise the fault is the first one in the order of reading: first that of the specification, then
those of each device, of its attributes before its capacities and its name, then that of the
metadata and last that of the pool. -/
theorem manifest_accepted_iff {m : Json} (hm : IsShaped m) :
    ((∃ s, Slice.ofManifest m = .ok s) ↔ IsWellFormed m) ∧
      (∀ s, Slice.ofManifest m = .ok s → Describes m s) ∧
      ∀ fault, Slice.ofManifest m = .error fault ↔ (faults m).head? = some fault := by
  have hfirst := failsFirst_ofManifest hm
  exact ⟨hfirst.exists_ok_iff.trans faults_eq_nil_iff, fun s => describes_of_ofManifest hm,
    fun fault => hfirst.eq_error_iff⟩

open Manifest in
/-- A device is read whose name is null and whose capacity is a negative fraction. A manifest with
several faults is refused for the first of them, which is an attribute without a value. -/
theorem manifest_accepted_iff_of_fraction :
    let value : Json := .obj [("string", ""), ("int", .null), ("other", .int 1)]
    let m : Json := .obj
      [("metadata", .obj [("name", "n"), ("labels", .null)]),
       ("spec", .obj [("devices", .arr [.obj [("name", .null),
         ("attributes", .obj [("a", value)]),
         ("capacity", .obj [("memory", .obj [("value", "-1.5")])])]])])]
    let broken : Json := .obj
      [("metadata", .null),
       ("spec", .obj [("pool", .null), ("devices", .arr [.obj
         [("attributes", .obj [("a", .obj [("other", .int 1)])]),
          ("capacity", .obj [("memory", .null)])]])])]
    (∃ s, Slice.ofManifest m = .ok s ∧ Describes m s ∧
        s.devices = [⟨.null, [("a", .string "")], [("memory", { value := -1 })]⟩]) ∧
      faults broken =
        [.attributeValues, .wrongType, .missing "name", .wrongType, .noObject] ∧
      Slice.ofManifest broken = .error .attributeValues := by
  intro value m broken
  have hm : IsShaped m := by
    refine ⟨⟨_, rfl⟩, .object _, .object _, .missing, .null, .list _, fun d hd => ?_⟩
    obtain rfl := List.mem_singleton.mp hd
    refine ⟨⟨_, rfl⟩, .object _, .object _, fun f hf => ?_, fun f hf => ?_⟩
    all_goals
      obtain rfl := List.mem_singleton.mp hf
      exact .object _
  have hbroken : IsShaped broken := by
    refine ⟨⟨_, rfl⟩, .object _, .null, .null, .missing, .list _, fun d hd => ?_⟩
    obtain rfl := List.mem_singleton.mp hd
    refine ⟨⟨_, rfl⟩, .object _, .object _, fun f hf => ?_, fun f hf => ?_⟩
    · obtain rfl := List.mem_singleton.mp hf
      exact .object _
    · obtain rfl := List.mem_singleton.mp hf
      exact .null
  have hread : Slice.ofManifest m = .ok
      ⟨"n", "", "", ⟨"", .int 0, .int 1⟩,
        [⟨.null, [("a", .string "")], [("memory", { value := -1 })]⟩], [], .null⟩ := by
    decide +kernel
  have hfaults : faults broken =
      [.attributeValues, .wrongType, .missing "name", .wrongType, .noObject] := by
    decide +kernel
  obtain ⟨-, hdescribes, -⟩ := manifest_accepted_iff hm
  obtain ⟨-, -, hfault⟩ := manifest_accepted_iff hbroken
  exact ⟨⟨_, hread, hdescribes _ hread, rfl⟩, hfaults, (hfault _).mpr (by rw [hfaults]; rfl)⟩

end SliceAgent
