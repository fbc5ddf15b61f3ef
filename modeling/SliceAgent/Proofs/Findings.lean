import SliceAgent.Proofs.Scan
import SliceAgent.Proofs.Path

/-!
# What a scan finds

What becomes of an entry of the class directory is told by the files of its directory alone. It is a
device if its directory shows everything that a device has to show (`ShowsDevice`), and else its
reading ends with the first thing that cannot be read, in the order in which they are looked at
(`FirstFailure`). Each is equivalent to what the reading of a device does
(`outcome_readDevice_eq_ok_iff`, `outcome_readDevice_eq_error_iff`).

The finding of an entry depends on few places of the file tree, those that its reading looks at
(`findingOf_congr`).
-/

namespace SliceAgent

/-! ### Reading a device -/

section Reading

variable {t : FileTree} {name directory : String}

/-- The path of the device link of a directory. -/
def linkPath (directory : String) : Path :=
  (Path.ofText directory).child Sysfs.linkName

/-- What a directory has to show for a device of a name. -/
structure ShowsDevice (t : FileTree) (name directory : String) (d : Device) : Prop where
  name_eq : d.name = name
  kind_eq : d.kind = .ofName name
  uuid : Sysfs.readText t directory "uuid" = .ok d.uuid
  memorySize : Sysfs.readInt64 t directory "memory_size" = .ok (d.memorySize : Int)
  numaNode : Sysfs.readInt64 t (linkPath directory).text Sysfs.numaAttribute = .ok d.numaNode
  busAddress : Sysfs.readBusAddress t directory = .ok d.busAddress
  /-- The capabilities count as none if they cannot be read. -/
  capabilities : d.capabilities =
    ((Sysfs.readUInt32 t directory "capabilities").toOption.getD 0 : Nat)

/-- The reading of a directory ends with the first of what is required that cannot be read, or is a
negative memory size. -/
inductive FirstFailure (t : FileTree) (directory : String) : DeviceEnd → Prop
  | uuid {i : Sysfs.Interruption} (h : Sysfs.readText t directory "uuid" = .error i) :
    FirstFailure t directory (.ofInterruption i)
  | memorySize {uuid : String} {i : Sysfs.Interruption}
    (huuid : Sysfs.readText t directory "uuid" = .ok uuid)
    (h : Sysfs.readInt64 t directory "memory_size" = .error i) :
    FirstFailure t directory (.ofInterruption i)
  | negativeMemory {uuid : String} {n : Int}
    (huuid : Sysfs.readText t directory "uuid" = .ok uuid)
    (h : Sysfs.readInt64 t directory "memory_size" = .ok n) (hn : n < 0) :
    FirstFailure t directory (.dropped (.negativeMemory n))
  | numaNode {uuid : String} {n : Int} {i : Sysfs.Interruption}
    (huuid : Sysfs.readText t directory "uuid" = .ok uuid)
    (hsize : Sysfs.readInt64 t directory "memory_size" = .ok n) (hn : 0 ≤ n)
    (h : Sysfs.readNumaNode t directory = .error i) :
    FirstFailure t directory (.ofInterruption i)
  | busAddress {uuid : String} {n node : Int} {i : Sysfs.Interruption}
    (huuid : Sysfs.readText t directory "uuid" = .ok uuid)
    (hsize : Sysfs.readInt64 t directory "memory_size" = .ok n) (hn : 0 ≤ n)
    (hnode : Sysfs.readNumaNode t directory = .ok node)
    (h : Sysfs.readBusAddress t directory = .error i) :
    FirstFailure t directory (.ofInterruption i)

theorem mapError_eq_error_iff {ε ε' α : Type} {f : ε → ε'} {outcome : Except ε α} {e : ε'} :
    outcome.mapError f = .error e ↔ ∃ i, outcome = .error i ∧ f i = e := by
  cases outcome <;> simp [Except.mapError]

theorem mapError_eq_ok_iff {ε ε' α : Type} {f : ε → ε'} {outcome : Except ε α} {a : α} :
    outcome.mapError f = .ok a ↔ outcome = .ok a := by
  cases outcome <;> simp [Except.mapError]

theorem bind_eq_ok {ε α β : Type} {x : Except ε α} {f : α → Except ε β} {b : β} :
    x.bind f = .ok b ↔ ∃ a, x = .ok a ∧ f a = .ok b := by
  cases x <;> simp [Except.bind]

theorem bind_eq_error {ε α β : Type} {x : Except ε α} {f : α → Except ε β} {e : ε} :
    x.bind f = .error e ↔ x = .error e ∨ ∃ a, x = .ok a ∧ f a = .error e := by
  cases x <;> simp [Except.bind]

theorem readMemorySize_eq_ok_iff {size : Nat} :
    readMemorySize t directory = .ok size ↔
      Sysfs.readInt64 t directory "memory_size" = .ok (size : Int) := by
  unfold readMemorySize
  cases Sysfs.readInt64 t directory "memory_size" with
  | error i => simp
  | ok n =>
    by_cases hn : n < 0
    · simp only [hn, if_true, reduceCtorEq, Except.ok.injEq, false_iff]
      omega
    · simp only [hn, if_false, Except.ok.injEq]
      omega

theorem readMemorySize_eq_error_iff {e : DeviceEnd} :
    readMemorySize t directory = .error e ↔
      (∃ i, Sysfs.readInt64 t directory "memory_size" = .error i ∧ .ofInterruption i = e) ∨
      ∃ n : Int, Sysfs.readInt64 t directory "memory_size" = .ok n ∧ n < 0 ∧
        .dropped (.negativeMemory n) = e := by
  unfold readMemorySize
  cases Sysfs.readInt64 t directory "memory_size" with
  | error i => simp
  | ok n => by_cases hn : n < 0 <;> simp [hn]

theorem isComponent_linkName : IsComponent Sysfs.linkName :=
  ⟨by decide, by decide, by decide⟩

theorem isComponent_numaAttribute : IsComponent Sysfs.numaAttribute :=
  ⟨by decide, by decide, by decide⟩

theorem read?_of_readText {attr text : String} (h : Sysfs.readText t directory attr = .ok text) :
    ∃ octets, t.read? ((Path.ofText directory).child attr) = .ok octets := by
  unfold Sysfs.readText at h
  cases hread : t.read? ((Path.ofText directory).child attr) with
  | ok octets => exact ⟨octets, rfl⟩
  | error fault =>
    rw [hread] at h
    cases fault <;> cases h

/-- What is behind the device link is read only if the link leads to a directory. -/
theorem isDirectory?_linkPath_of_readInt64 {node : Int}
    (h : Sysfs.readInt64 t (linkPath directory).text Sysfs.numaAttribute = .ok node) :
    t.isDirectory? (linkPath directory) = .ok true := by
  have hproper : (linkPath directory).IsProper := (Path.isProper_ofText _).child _
  have hparts : (linkPath directory).parts ≠ [] := by
    simp [linkPath, Path.child_of_isComponent isComponent_linkName]
  obtain ⟨text, htext, -⟩ := bind_eq_ok.mp h
  obtain ⟨octets, hread⟩ := read?_of_readText htext
  rw [hproper.ofText_text hparts] at hread
  exact FileTree.isDirectory?_of_access_child hproper hparts isComponent_numaAttribute hread

theorem readNumaNode_eq : Sysfs.readNumaNode t directory =
    match t.isDirectory? (linkPath directory) with
    | .error f => .error (.system f)
    | .ok false => .error (.fault ⟨.dangling, Sysfs.numaAttribute, directory⟩)
    | .ok true => (Sysfs.readInt64 t (linkPath directory).text Sysfs.numaAttribute).mapError
        (.throughLink directory) := by
  unfold Sysfs.readNumaNode linkPath
  rfl

/-- The NUMA node is what is read behind the device link. -/
theorem readNumaNode_eq_ok_iff {node : Int} :
    Sysfs.readNumaNode t directory = .ok node ↔
      Sysfs.readInt64 t (linkPath directory).text Sysfs.numaAttribute = .ok node := by
  rw [readNumaNode_eq]
  constructor
  · intro h
    split at h
    · cases h
    · cases h
    · exact mapError_eq_ok_iff.mp h
  · intro h
    rw [isDirectory?_linkPath_of_readInt64 h]
    exact mapError_eq_ok_iff.mpr h

/-- The outcome of reading a device, step by step. The capabilities are no step. -/
theorem outcome_readDevice : (readDevice t name directory).outcome =
    ((Sysfs.readText t directory "uuid").mapError .ofInterruption).bind fun uuid =>
    (readMemorySize t directory).bind fun memorySize =>
    ((Sysfs.readNumaNode t directory).mapError .ofInterruption).bind fun numaNode =>
    ((Sysfs.readBusAddress t directory).mapError .ofInterruption).bind fun busAddress =>
    .ok {
      name, uuid, memorySize, numaNode, busAddress
      kind := .ofName name
      capabilities :=
        ((Sysfs.readUInt32 t directory "capabilities").toOption.getD 0 : Nat) } := by
  unfold readDevice
  cases (Sysfs.readText t directory "uuid").mapError DeviceEnd.ofInterruption with
  | error e => rfl
  | ok uuid =>
    cases readMemorySize t directory with
    | error e => rfl
    | ok memorySize => rfl

/-- **A device** is read exactly where a directory shows it. -/
theorem outcome_readDevice_eq_ok_iff {d : Device} :
    (readDevice t name directory).outcome = .ok d ↔ ShowsDevice t name directory d := by
  rw [outcome_readDevice]
  simp only [bind_eq_ok, mapError_eq_ok_iff, readMemorySize_eq_ok_iff, readNumaNode_eq_ok_iff,
    Except.ok.injEq]
  constructor
  · rintro ⟨uuid, huuid, size, hsize, node, hnode, address, haddress, rfl⟩
    exact ⟨rfl, rfl, huuid, hsize, hnode, haddress, rfl⟩
  · intro h
    refine ⟨_, h.uuid, _, h.memorySize, _, h.numaNode, _, h.busAddress, ?_⟩
    obtain rfl := h.name_eq
    rw [← h.kind_eq, ← h.capabilities]

/-- **A reading that fails** ends with the first failure. -/
theorem outcome_readDevice_eq_error_iff (name : String) {e : DeviceEnd} :
    (readDevice t name directory).outcome = .error e ↔ FirstFailure t directory e := by
  rw [outcome_readDevice]
  simp only [bind_eq_error, mapError_eq_error_iff, mapError_eq_ok_iff, readMemorySize_eq_ok_iff,
    readMemorySize_eq_error_iff, reduceCtorEq, and_false, exists_false, or_false]
  constructor
  · rintro (⟨i, h, rfl⟩ | ⟨uuid, huuid, (⟨i, h, rfl⟩ | ⟨n, h, hn, rfl⟩) | ⟨size, hsize,
      ⟨i, h, rfl⟩ | ⟨node, hnode, i, h, rfl⟩⟩⟩)
    · exact .uuid h
    · exact .memorySize huuid h
    · exact .negativeMemory huuid h hn
    · exact .numaNode huuid hsize (Int.natCast_nonneg size) h
    · exact .busAddress huuid hsize (Int.natCast_nonneg size) hnode h
  · intro h
    have hcast {n : Int} (hn : 0 ≤ n) : ((n.toNat : Nat) : Int) = n := Int.toNat_of_nonneg hn
    cases h with
    | uuid h => exact .inl ⟨_, h, rfl⟩
    | memorySize huuid h => exact .inr ⟨_, huuid, .inl (.inl ⟨_, h, rfl⟩)⟩
    | negativeMemory huuid h hn => exact .inr ⟨_, huuid, .inl (.inr ⟨_, h, hn, rfl⟩)⟩
    | numaNode huuid hsize hn h =>
      exact .inr ⟨_, huuid, .inr ⟨_, (hcast hn).symm ▸ hsize, .inl ⟨_, h, rfl⟩⟩⟩
    | busAddress huuid hsize hn hnode h =>
      exact .inr ⟨_, huuid, .inr ⟨_, (hcast hn).symm ▸ hsize, .inr ⟨_, hnode, _, h, rfl⟩⟩⟩

end Reading

/-! ### Findings -/

section Entries

variable {t : FileTree} {root : Path} {name : String}

theorem findingOf_of_isDirectory? (h : t.isDirectory? (root.child name) = .ok true) :
    findingOf t root name = match (readDevice t name (root.child name).text).outcome with
      | .ok d => .ok (.device d (readDevice t name (root.child name).text).lacksCapabilities)
      | .error (.dropped reason) =>
        .ok (.dropped reason (readDevice t name (root.child name).text).lacksCapabilities)
      | .error (.halted f) =>
        .error ⟨name, (readDevice t name (root.child name).text).lacksCapabilities, f⟩ := by
  unfold findingOf
  dsimp only
  generalize readDevice t name (root.child name).text = reading
  rcases reading with ⟨(reason | f) | d, lacks⟩ <;> simp only [h]

/-- An entry that is no directory, or cannot be told to be one, is passed over. -/
theorem findingOf_of_not_isDirectory? (h : t.isDirectory? (root.child name) ≠ .ok true) :
    findingOf t root name = .ok .noDirectory ∨
      ∃ f, findingOf t root name = .ok (.untestable f) := by
  unfold findingOf
  dsimp only
  rcases hdirectory : t.isDirectory? (root.child name) with f | (_ | _)
  · exact .inr ⟨f, rfl⟩
  · exact .inl rfl
  · exact absurd hdirectory h

theorem findingOf_eq_device_iff {d : Device} :
    (∃ lacks, findingOf t root name = .ok (.device d lacks)) ↔
      t.isDirectory? (root.child name) = .ok true ∧
        ShowsDevice t name (root.child name).text d := by
  rw [← outcome_readDevice_eq_ok_iff]
  by_cases h : t.isDirectory? (root.child name) = .ok true
  · rw [findingOf_of_isDirectory? h]
    generalize readDevice t name (root.child name).text = reading
    rcases reading with ⟨(reason | f) | d', lacks⟩ <;> simp [h]
  · rcases findingOf_of_not_isDirectory? h with hfinding | ⟨f, hfinding⟩ <;> simp [hfinding, h]

theorem findingOf_eq_dropped_iff {reason : DropReason} :
    (∃ lacks, findingOf t root name = .ok (.dropped reason lacks)) ↔
      t.isDirectory? (root.child name) = .ok true ∧
        FirstFailure t (root.child name).text (.dropped reason) := by
  rw [← outcome_readDevice_eq_error_iff name]
  by_cases h : t.isDirectory? (root.child name) = .ok true
  · rw [findingOf_of_isDirectory? h]
    generalize readDevice t name (root.child name).text = reading
    rcases reading with ⟨(reason | f) | d', lacks⟩ <;> simp [h]
  · rcases findingOf_of_not_isDirectory? h with hfinding | ⟨f, hfinding⟩ <;> simp [hfinding, h]

/-- An entry ends a scan early if its reading ends with an error that nothing expects. -/
theorem isOk_findingOf_eq_false_iff :
    (findingOf t root name).isOk = false ↔
      t.isDirectory? (root.child name) = .ok true ∧
        ∃ f, FirstFailure t (root.child name).text (.halted f) := by
  simp only [← outcome_readDevice_eq_error_iff name]
  by_cases h : t.isDirectory? (root.child name) = .ok true
  · rw [findingOf_of_isDirectory? h]
    generalize readDevice t name (root.child name).text = reading
    rcases reading with ⟨(reason | f) | d', lacks⟩ <;> simp [h, Except.isOk, Except.toBool]
  · rcases findingOf_of_not_isDirectory? h with hfinding | ⟨f, hfinding⟩ <;>
      simp [hfinding, h, Except.isOk, Except.toBool]

/-- A directory that does not end a scan is a device or left out. -/
theorem device_or_dropped_of_isOk (h : t.isDirectory? (root.child name) = .ok true)
    (hok : (findingOf t root name).isOk = true) :
    (∃ d lacks, findingOf t root name = .ok (.device d lacks)) ∨
      ∃ reason lacks, findingOf t root name = .ok (.dropped reason lacks) := by
  rw [findingOf_of_isDirectory? h] at hok ⊢
  generalize readDevice t name (root.child name).text = reading at hok ⊢
  rcases reading with ⟨(reason | f) | d, lacks⟩
  · exact .inr ⟨reason, lacks, rfl⟩
  · cases hok
  · exact .inl ⟨d, lacks, rfl⟩

end Entries

/-! ### What a finding depends on -/

/-- The paths that the reading of a device follows to their ends: its attributes, the device link
and the attribute behind it. -/
def followedPaths (directory : String) : List Path :=
  ["uuid", "memory_size", "capabilities"].map (Path.ofText directory).child ++
    [linkPath directory, (Path.ofText (linkPath directory).text).child Sysfs.numaAttribute]

/-- The places that the reading of an entry looks at. -/
def entryLooks (t : FileTree) (root : Path) (name : String) : List Place :=
  let directory := (root.child name).text
  t.accessLooks true (root.child name) ++ (followedPaths directory).flatMap (t.accessLooks true) ++
    t.accessLooks false (linkPath directory)

section Dependence

variable {t t' : FileTree} {root : Path} {name directory : String}

theorem readText_congr {attr : String}
    (h : t'.read? ((Path.ofText directory).child attr) =
      t.read? ((Path.ofText directory).child attr)) :
    Sysfs.readText t' directory attr = Sysfs.readText t directory attr := by
  unfold Sysfs.readText
  rw [h]

theorem readNumaNode_congr
    (hlink : t'.isDirectory? (linkPath directory) = t.isDirectory? (linkPath directory))
    (hnode : Sysfs.readText t' (linkPath directory).text Sysfs.numaAttribute =
      Sysfs.readText t (linkPath directory).text Sysfs.numaAttribute) :
    Sysfs.readNumaNode t' directory = Sysfs.readNumaNode t directory := by
  rw [readNumaNode_eq, readNumaNode_eq, hlink, Sysfs.readInt64, Sysfs.readInt64, hnode]

theorem readBusAddress_congr
    (h : t'.readLink? (linkPath directory) = t.readLink? (linkPath directory)) :
    Sysfs.readBusAddress t' directory = Sysfs.readBusAddress t directory := by
  unfold Sysfs.readBusAddress
  change t'.readLink? ((Path.ofText directory).child Sysfs.linkName) = _ at h
  simp only [h]
  rfl

theorem readDevice_congr (hworking : t'.working = t.working)
    (hfollowed : ∀ path ∈ followedPaths directory, t.AgreeAt t' (t.accessLooks true path))
    (hlink : t.AgreeAt t' (t.accessLooks false (linkPath directory))) :
    readDevice t' name directory = readDevice t name directory := by
  have htext : ∀ path attr, (Path.ofText path).child attr ∈ followedPaths directory →
      Sysfs.readText t' path attr = Sysfs.readText t path attr := fun path attr hpath =>
    readText_congr (FileTree.read?_congr hworking (hfollowed _ hpath))
  have huuid := htext directory "uuid" (by simp [followedPaths])
  have hsize := htext directory "memory_size" (by simp [followedPaths])
  have hcapabilities := htext directory "capabilities" (by simp [followedPaths])
  have hnode := readNumaNode_congr
    (FileTree.isDirectory?_congr hworking
      (hfollowed (linkPath directory) (by simp [followedPaths])))
    (htext (linkPath directory).text Sysfs.numaAttribute (by simp [followedPaths]))
  have haddress := readBusAddress_congr (FileTree.readLink?_congr hworking hlink)
  unfold readDevice readMemorySize
  rw [huuid, hnode, haddress, Sysfs.readInt64, Sysfs.readInt64, hsize, Sysfs.readUInt32,
    Sysfs.readUInt32, hcapabilities]

/-- **What is found under a name** depends on the places that its reading looks at. -/
theorem findingOf_congr (hworking : t'.working = t.working)
    (h : t.AgreeAt t' (entryLooks t root name)) :
    findingOf t' root name = findingOf t root name := by
  obtain ⟨hrest, hlink⟩ := FileTree.agreeAt_append.mp h
  obtain ⟨hentry, hfollowed⟩ := FileTree.agreeAt_append.mp hrest
  rw [FileTree.AgreeAt, List.forall_mem_flatMap] at hfollowed
  unfold findingOf
  dsimp only
  rw [FileTree.isDirectory?_congr hworking hentry, readDevice_congr hworking hfollowed hlink]

end Dependence

end SliceAgent
