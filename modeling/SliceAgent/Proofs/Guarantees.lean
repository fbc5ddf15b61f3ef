import SliceAgent.Proofs.BusAddress
import SliceAgent.Proofs.Classification
import SliceAgent.Proofs.SignedNumerals
import SliceAgent.Proofs.DryRun
import SliceAgent.Proofs.Lookup
import SliceAgent.Proofs.Partition

/-!
# What a scan guarantees

A device that is shown by its directory is within bounds: its numbers are of 32 or 64 bits, its
texts are trimmed, its bus address is the name of an entry and its kind follows its own name
(`Device.IsWithinBounds`). Each reader gives one of these facts, whatever the files hold, so they
hold of every device that a scan returns.

What comes after a scan checks some of them again. A device whose memory size is negative and a
virtual function whose parent has no name are refused, and so are attributes without a value.
Reading and building with these checks have the same results as without (`readCheckedDevice_eq`,
`checkedSlices_eq`), so no check ever fails. And the memory size is small enough to be read back
from the manifest of a slice (`Device.IsWithinBounds.readsBackAs`).
-/

namespace SliceAgent

/-! ### Texts without blanks at their ends -/

/-- A text has no blank at its beginning and none at its end. -/
def Text.HasBareEnds (s : String) : Prop :=
  (∀ c, s.toList.head? = some c → Text.isBlank c = false) ∧
    ∀ c, s.toList.getLast? = some c → Text.isBlank c = false

theorem Text.hasBareEnds_trim (s : String) : Text.HasBareEnds (Text.trim s) := by
  set rest := s.toList.dropWhile Text.isBlank with hrest
  have htrim : (Text.trim s).toList = rest.rdropWhile Text.isBlank := by
    rw [Text.trim, String.toList_ofList]
    rfl
  rw [Text.HasBareEnds, htrim]
  constructor
  · intro c hc
    obtain ⟨after, hafter⟩ := List.rdropWhile_prefix Text.isBlank (l := rest)
    have hhead : rest.head? = some c := by
      rw [← hafter, List.head?_append, hc]
      rfl
    have hnot := List.head?_dropWhile_not Text.isBlank s.toList
    rwa [← hrest, hhead] at hnot
  · intro c hc
    obtain ⟨hne, rfl⟩ := List.mem_getLast?_eq_getLast hc
    simpa using List.rdropWhile_last_not Text.isBlank rest hne

/-! ### Devices within bounds -/

/-- A device has what a scan guarantees of it. -/
structure Device.IsWithinBounds (d : Device) : Prop where
  memorySize : 0 ≤ (d.memorySize : Int) ∧ (d.memorySize : Int) < 2 ^ 63
  numaNode : -2 ^ 63 ≤ d.numaNode ∧ d.numaNode < 2 ^ 63
  capabilities : 0 ≤ d.capabilities ∧ d.capabilities < 2 ^ 32
  uuid : Text.HasBareEnds d.uuid
  busAddress : d.busAddress ≠ "" ∧ d.busAddress ≠ "." ∧ d.busAddress ≠ ".." ∧
    '/' ∉ d.busAddress.toList
  isVirtual_iff : d.kind.isVirtual = true ↔ d.kind.parentName ≠ ""
  /-- The name of a virtual function is that of its parent, the marker and digits. -/
  isFunctionName : d.kind.isVirtual = true → IsFunctionName d.name d.kind.parentName

namespace Sysfs

variable {t : FileTree} {directory attr : String}

theorem hasBareEnds_of_readText {text : String} (h : readText t directory attr = .ok text) :
    Text.HasBareEnds text := by
  obtain ⟨octets, hread⟩ := read?_of_readText h
  unfold readText at h
  rw [hread] at h
  have htext := mapError_eq_ok_iff.mp h
  rw [textOfOctets] at htext
  cases hdecode : Text.Utf8.decode octets with
  | error fault => rw [hdecode] at htext; cases htext
  | ok content =>
    rw [hdecode] at htext
    obtain rfl := Except.ok.inj htext
    exact Text.hasBareEnds_trim _

theorem lt_of_readUInt32 {n : Nat} (h : readUInt32 t directory attr = .ok n) : n < 2 ^ 32 := by
  obtain ⟨text, -, htext⟩ := bind_eq_ok.mp h
  exact (uint32OfText_eq_ok_iff.mp (mapError_eq_ok_iff.mp htext)).2

theorem bounds_of_readInt64 {n : Int} (h : readInt64 t directory attr = .ok n) :
    -2 ^ 63 ≤ n ∧ n < 2 ^ 63 := by
  obtain ⟨text, -, htext⟩ := bind_eq_ok.mp h
  obtain ⟨-, hmin, hmax⟩ := int64OfText_eq_ok_iff.mp (mapError_eq_ok_iff.mp htext)
  exact ⟨hmin, by omega⟩

/-- An address is only read from a link that can be read. -/
theorem isComponent_of_readBusAddress {c : String} (h : readBusAddress t directory = .ok c) :
    IsComponent c ∧ c ≠ ".." := by
  cases hlink : t.readLink? (linkPath directory) with
  | ok target => exact isComponent_of_linkAddress? ((readBusAddress_eq_ok_iff hlink).mp h)
  | error fault =>
    unfold readBusAddress at h
    change t.readLink? ((Path.ofText directory).child linkName) = _ at hlink
    cases fault <;> simp [hlink] at h

end Sysfs

/-- A function is virtual only if its name is that of one. -/
theorem DeviceKind.isFunctionName_of_ofName {name : String}
    (h : (ofName name).isVirtual = true) : IsFunctionName name (ofName name).parentName := by
  cases hkind : ofName name with
  | primary => rw [hkind] at h; cases h
  | virtual parent hparent => exact ofName_eq_virtual_iff.mp ⟨hparent, hkind⟩

/-- **A device that is shown is within bounds.** -/
theorem ShowsDevice.isWithinBounds {t : FileTree} {name directory : String} {d : Device}
    (h : ShowsDevice t name directory d) : d.IsWithinBounds where
  memorySize := ⟨Int.natCast_nonneg _, (Sysfs.bounds_of_readInt64 h.memorySize).2⟩
  numaNode := Sysfs.bounds_of_readInt64 h.numaNode
  capabilities := by
    rw [h.capabilities]
    refine ⟨Int.natCast_nonneg _, ?_⟩
    cases hread : Sysfs.readUInt32 t directory "capabilities" with
    | error i =>
      change ((0 : Nat) : Int) < 2 ^ 32
      decide
    | ok n => exact_mod_cast Sysfs.lt_of_readUInt32 hread
  uuid := Sysfs.hasBareEnds_of_readText h.uuid
  busAddress := by
    obtain ⟨hcomponent, hdots⟩ := Sysfs.isComponent_of_readBusAddress h.busAddress
    exact ⟨hcomponent.ne_empty, hcomponent.ne_dot, hdots, hcomponent.no_slash⟩
  isVirtual_iff := d.kind.isVirtual_iff
  isFunctionName := by
    rw [h.kind_eq, h.name_eq]
    exact DeviceKind.isFunctionName_of_ofName

section Scans

variable {t : FileTree} {devices : List (String × Device)}

/-- A cycle is given the devices that a scan returns. -/
theorem ScanReport.result_eq_devices_iff (root : Path) (node : String) {o : ScanOutcome} :
    (ofOutcome root node o).result = .devices devices ↔ o.returned? = some devices := by
  cases o with
  | absent => simp [ofOutcome, ScanOutcome.returned?]
  | unlistable fault => simp [ofOutcome, ScanOutcome.returned?]
  | scanned scan =>
    cases hhalt : scan.halt <;> simp [ofOutcome, ScanOutcome.returned?, hhalt]

/-- A device that a scan returns was shown by its directory. -/
theorem Scanner.showsDevice_of_scan {s : Scanner} (h : (s.scan t).1 = some devices)
    {e : String × Device} (he : e ∈ devices) :
    ShowsDevice t e.1 (s.root.child e.1).text e.2 := by
  have hresult := (ScanReport.result_eq_devices_iff s.root "").mpr h
  obtain ⟨lacks, hfinding⟩ := findingOf_of_scanClass hresult he
  exact (findingOf_eq_device_iff.mp ⟨lacks, hfinding⟩).2

end Scans

/-! ### Checks of devices -/

/-- What ends a reading that checks the device that it makes: what ends a reading anyway, or a check
that fails. -/
inductive CheckedEnd where
  | ended (e : DeviceEnd)
  | invalid (fault : DeviceFault)

/-- Reads a device from its directory, with a memory size that is any whole number and a kind that
is told by the last marker in the name, and makes a device of them as far as the checks allow. -/
def readCheckedDevice (t : FileTree) (name directory : String) : Except CheckedEnd Device := do
  let ended {α : Type} (outcome : Except Sysfs.Interruption α) : Except CheckedEnd α :=
    outcome.mapError fun i => .ended (.ofInterruption i)
  let uuid ← ended (Sysfs.readText t directory "uuid")
  let memorySize ← ended (Sysfs.readInt64 t directory "memory_size")
  if memorySize < 0 then throw (.ended (.dropped (.negativeMemory memorySize)))
  let capabilities := (Sysfs.readUInt32 t directory "capabilities").toOption.getD 0
  let numaNode ← ended (Sysfs.readNumaNode t directory)
  let busAddress ← ended (Sysfs.readBusAddress t directory)
  let kind ← (DeviceKind.ofLastMarker? name).mapError .invalid
  (Device.make? name uuid memorySize numaNode kind busAddress capabilities).mapError .invalid

/-- **No check of a device fails** when it is read: the memory size was found not to be negative
before, and the parent of a virtual function has a name. -/
theorem readCheckedDevice_eq (t : FileTree) (name directory : String) :
    readCheckedDevice t name directory =
      (readDevice t name directory).outcome.mapError .ended := by
  rewrite [outcome_readDevice]
  unfold readCheckedDevice readMemorySize
  rewrite [DeviceKind.ofLastMarker?_eq]
  cases Sysfs.readText t directory "uuid" with
  | error i => rfl
  | ok uuid =>
    cases Sysfs.readInt64 t directory "memory_size" with
    | error i => rfl
    | ok memorySize =>
      -- The size is refused here already, so the check of the device is never reached with it.
      by_cases hsize : memorySize < 0
      · simp [hsize, Except.mapError, Except.bind, bind, throw, throwThe, MonadExceptOf.throw]
      · cases Sysfs.readNumaNode t directory with
        | error i => simp [hsize, Except.mapError, Except.bind, bind]
        | ok numaNode =>
          cases Sysfs.readBusAddress t directory with
          | error i => simp [hsize, Except.mapError, Except.bind, bind]
          | ok busAddress =>
            simp [hsize, Except.mapError, Except.bind, bind, Device.make?]

/-! ### Checks of attributes -/

/-- The fields that the attributes of a device are made of, one for each. -/
def Device.attributeArguments (driver : String) (d : Device) : List (String × Json) :=
  let key := qualifiedName driver
  [(key "uuid", .obj [("string", .text d.uuid)]),
   (key "memory", .obj [("int", .int d.memorySize)]),
   (key "deviceType", .obj [("string", .text d.kind.token)]),
   (key "pciAddress", .obj [("string", .text d.busAddress)]),
   (key "numaNode", .obj [("int", .int d.numaNode)]),
   (key "capabilities", .obj [("int", .int d.capabilities)])] ++
  if d.kind.isVirtual then [(key "physfn", .obj [("string", .text d.kind.parentName)])] else []

/-- The slice of a device, each attribute of which is checked to have one value. -/
def Device.checkedSlice (driver node : String) (d : Device) : Except ManifestFault Slice :=
  (Manifest.mapValues Manifest.readAttribute (d.attributeArguments driver)).map fun attributes =>
    { d.slice driver node with devices := [{ d.entry driver with attributes }] }

/-- The slices of devices with their attributes checked, in the order of their keys. -/
def checkedSlices (driver node : String) (devices : List (String × Device)) :
    Except ManifestFault (List Slice) :=
  (sortByKey devices).mapM fun e => e.2.checkedSlice driver node

theorem Device.attributeArguments_eq (driver : String) (d : Device) :
    d.attributeArguments driver = (d.attributes driver).map fun e => (e.1, e.2.manifest) := by
  unfold attributeArguments attributes
  cases d.kind.isVirtual <;> rfl

theorem Device.checkedSlice_eq (driver node : String) (d : Device) :
    d.checkedSlice driver node = .ok (d.slice driver node) := by
  have hattributes : Manifest.mapValues Manifest.readAttribute (d.attributeArguments driver) =
      .ok (d.attributes driver) := by
    rw [attributeArguments_eq]
    exact Manifest.mapValues_map Attribute.manifest fun e _ => e.2.readAttribute_manifest
  rw [checkedSlice, hattributes]
  rfl

/-- **No check of an attribute fails** when slices are built. -/
theorem checkedSlices_eq (driver node : String) (devices : List (String × Device)) :
    checkedSlices driver node devices = .ok (buildSlices driver node devices) := by
  simp only [checkedSlices, Device.checkedSlice_eq]
  exact List.mapM_pure

/-! ### Capacities of published slices -/

/-- A slice can be written under any version, and one quantity is read back from its manifest, the
capacity of a name. -/
def Slice.ReadsBackAs (s : Slice) (name : String) (size : Int) : Prop :=
  ∀ version : Json,
    { s with version }.isWritable = true ∧
      ∃ r, Slice.ofManifest { s with version }.manifest = .ok r ∧
        r.devices.map (·.capacity) = [[(name, { value := size })]]

/-- The memory size of a device within bounds is read back from the manifest of its slice. -/
theorem Device.IsWithinBounds.readsBackAs {d : Device} (h : d.IsWithinBounds)
    (driver node : String) :
    (d.slice driver node).ReadsBackAs (qualifiedName driver "memory") d.memorySize := by
  intro version
  have hle : d.memorySize ≤ 10 ^ Quantity.precision := by
    have hlt := h.memorySize.2
    have hpow : (2 : Int) ^ 63 ≤ 10 ^ Quantity.precision := by decide
    exact_mod_cast hlt.le.trans hpow
  -- The version is no part of the capacities.
  have hbuilt : (d.slice driver node).HasExactCapacities :=
    Slice.IsBuilt.hasExactCapacities ⟨driver, node, d, rfl, hle⟩
  have hexact : { d.slice driver node with version }.HasExactCapacities := hbuilt
  refine ⟨Slice.isWritable_of_hasExactCapacities hexact, _, Slice.ofManifest_manifest hexact, ?_⟩
  exact congrArg (fun fields => [fields]) (Json.sortFields_singleton _)

/-- A cycle only tries slices of devices that its scan found. -/
theorem exists_of_mem_attempts {σ : Type} {store : Store σ} {id : Identity} {duration : Binary64}
    {p : Progress} {state : σ} {scan : ScanReport} {a : Attempt}
    (ha : a ∈ (runCycle store id duration p state scan).attempts) :
    ∃ devices, scan.result = .devices devices ∧
      ∃ e ∈ devices, a.slice = e.2.slice id.driver id.node := by
  cases hscan : scan.result with
  | failed message => simp [runCycle, hscan] at ha
  | crashed crash => simp [runCycle, hscan] at ha
  | devices devices =>
    obtain ⟨hbegins, -⟩ := runCycle_prefix hscan store id duration p state
    have hslice := hbegins.subset (List.mem_map_of_mem ha)
    obtain ⟨e, he, heq⟩ := List.mem_map.mp ((slicesInOrder_perm id devices).mem_iff.mp hslice)
    exact ⟨devices, rfl, e, he, heq.symm⟩

/-- A cycle over an orderly store tries one slice for each device. -/
theorem length_attempts_of_isOrderly {σ : Type} {store : Store σ} {id : Identity}
    {scan : ScanReport} {devices : List (String × Device)} (hscan : scan.result = .devices devices)
    (hstore : store.IsOrderly (slicesInOrder id devices)) (duration : Binary64) (p : Progress)
    (s : σ) : (runCycle store id duration p s scan).attempts.length = devices.length := by
  rw [(runCycle_of_isOrderly hscan hstore duration p s).1, ← List.length_map (·.slice),
    (publish_of_isOrderly hstore s).2.1, (slicesInOrder_perm id devices).length_eq, List.length_map]

/-- **What a scan guarantees.** Whatever the file system holds, every device that a scan returns is
within bounds: the numbers are of 63, 64 and 32 bits, the identifier has no blank at its ends, the
bus address is the name of an entry, and just a function whose parent has a name is virtual, with a
name that continues that of the parent. So the checks of devices never fail within a scan, nor those
of attributes when slices are built, and the capacity of every slice that a cycle tries to store is
read back from its manifest as the memory size of the device. -/
theorem scan_guarantees_bounds :
    (∀ (s : Scanner) (t : FileTree) (devices : List (String × Device)),
      (s.scan t).1 = some devices → ∀ e ∈ devices, e.2.IsWithinBounds) ∧
    (∀ (t : FileTree) (name directory : String),
      readCheckedDevice t name directory =
        (readDevice t name directory).outcome.mapError .ended) ∧
    (∀ (driver node : String) (devices : List (String × Device)),
      checkedSlices driver node devices = .ok (buildSlices driver node devices)) ∧
    ∀ (σ : Type) (store : Store σ) (id : Identity) (duration : Binary64) (p : Progress) (state : σ)
      (s : Scanner) (node : String) (t : FileTree),
      ∀ a ∈ (runCycle store id duration p state
          (.ofOutcome s.root node (scanClass t s.root))).attempts,
        ∃ devices, (s.scan t).1 = some devices ∧ ∃ e ∈ devices,
          a.slice = e.2.slice id.driver id.node ∧
          a.slice.ReadsBackAs (qualifiedName id.driver "memory") e.2.memorySize := by
  have hbounds : ∀ (s : Scanner) (t : FileTree) (devices : List (String × Device)),
      (s.scan t).1 = some devices → ∀ e ∈ devices, e.2.IsWithinBounds :=
    fun _ _ _ h _ he => (Scanner.showsDevice_of_scan h he).isWithinBounds
  refine ⟨hbounds, readCheckedDevice_eq, checkedSlices_eq, ?_⟩
  intro σ store id duration p state s node t a ha
  obtain ⟨devices, hresult, e, he, hslice⟩ := exists_of_mem_attempts ha
  have hreturned : (s.scan t).1 = some devices :=
    (ScanReport.result_eq_devices_iff s.root node).mp hresult
  refine ⟨devices, hreturned, e, he, hslice, ?_⟩
  rw [hslice]
  exact (hbounds s t devices hreturned e he).readsBackAs id.driver id.node

/-- A primary function and a virtual one that was carved out of it, found by a scan and published by
a cycle. -/
theorem scan_guarantees_bounds_of_two :
    let s : Scanner := { root := .ofText "class" }
    let t := (FileTree.empty ["w"]).applyAll (deviceFiles "a" "U1" ++ deviceFiles "a_vf0" " U2\n")
    let id : Identity := ⟨defaultDriver, "node-1"⟩
    let report := runCycle MemoryStore.asStore id (.ofInt 1) {} {}
      (.ofOutcome s.root "node-1" (scanClass t s.root))
    ∃ devices, (s.scan t).1 = some devices ∧
      devices.map (fun e => (e.1, e.2.uuid, e.2.kind.parentName)) =
        [("a", "U1", ""), ("a_vf0", "U2", "a")] ∧
      (∀ e ∈ devices, e.2.IsWithinBounds) ∧
      report.attempts.length = 2 ∧
      ∀ a ∈ report.attempts, ∃ e ∈ devices,
        a.slice.ReadsBackAs (qualifiedName id.driver "memory") e.2.memorySize := by
  intro s t id report
  have hexists : t.exists? s.root = .ok true := by decide +kernel
  have hlist : t.list? s.root = .ok ["a", "a_vf0"] := by decide +kernel
  have hnames : listClass t s.root = .ok (some ["a", "a_vf0"]) :=
    listClass_eq_of_perm _ hexists hlist (by decide) (by decide)
  have hok : ∀ name ∈ ["a", "a_vf0"], (findingOf t s.root name).isOk = true := by decide +kernel
  have hreturned := congrArg Prod.fst (Scanner.scan_of_listClass hnames hok)
  have hresult := (ScanReport.result_eq_devices_iff s.root "node-1").mpr hreturned
  obtain ⟨hbounds, -, -, hpublished⟩ := scan_guarantees_bounds
  refine ⟨_, hreturned, by decide +kernel, hbounds s t _ hreturned, ?_, ?_⟩
  · have hstore := MemoryStore.isOrderly_asStore id
      (inKeyOrder (Scan.ofNames (findingOf t s.root) ["a", "a_vf0"]).devices)
    exact (length_attempts_of_isOrderly hresult hstore _ _ _).trans (by decide +kernel)
  intro a ha
  obtain ⟨devices, hdevices, e, he, -, hcapacity⟩ := hpublished _ _ id _ _ _ s "node-1" t a ha
  obtain rfl := Option.some.inj (hreturned.symm.trans hdevices)
  exact ⟨e, he, hcapacity⟩

end SliceAgent
