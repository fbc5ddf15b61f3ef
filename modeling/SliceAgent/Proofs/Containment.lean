import SliceAgent.Proofs.Partition

/-!
# What a broken device can do to a scan

Whatever the directory of a device holds, its reading ends with a device or with a reason to leave
it out, but for one thing: the system may refuse to follow the device link of a device that has
shown its identifier and its memory size. If the error is none of those that say that a path leads
nowhere, as for a name that is too long or a directory without the right to search it, the test
whether the link leads to a directory fails, and nothing expects this (`HasUntestableLink`). A scan
returns exactly if no entry has such a link (`isOk_findingOf_iff`).

A scan that returns is not touched by what it leaves out: if an entry is removed from the class
directory, the scan still returns, and every other entry whose walks do not pass through the removed
one is read as before (`scan_contains_failures`).
-/

namespace SliceAgent

/-! ### Paths that cannot be tested -/

namespace FileTree

variable {t : FileTree} {path : Path}

/-- The system refuses to follow a path, and not because the path leads nowhere. -/
structure RefusesToFollow (t : FileTree) (path : Path) : Prop where
  no_null : Char.ofNat 0 ∉ path.text.toList
  errno : ∃ errno, t.follow true path.text = .error errno ∧ errno.saysAbsent = false

/-- A test fails by itself exactly on the paths that the system refuses to follow. -/
theorem isDirectory?_eq_error_iff :
    (∃ f, t.isDirectory? path = .error f) ↔ t.RefusesToFollow path := by
  rw [isDirectory?, access]
  by_cases hnull : path.text.toList.contains (Char.ofNat 0) = true
  · rw [if_pos hnull]
    constructor
    · rintro ⟨f, hf⟩
      cases hf
    · exact fun h => absurd (List.contains_iff_mem.mp hnull) h.no_null
  · rw [if_neg hnull]
    have hnone : Char.ofNat 0 ∉ path.text.toList := fun h => hnull (List.contains_iff_mem.mpr h)
    cases hfollow : t.follow true path.text with
    | error errno =>
      change (∃ f, (if errno.saysAbsent then _ else _) = _) ↔ _
      cases habsent : errno.saysAbsent with
      | false => exact iff_of_true ⟨_, rfl⟩ ⟨hnone, errno, hfollow, habsent⟩
      | true =>
        refine iff_of_false (by simp) fun h => ?_
        obtain ⟨errno', herrno', htelling⟩ := h.errno
        obtain rfl := Except.error.inj (hfollow.symm.trans herrno')
        rw [habsent] at htelling
        cases htelling
    | ok place =>
      -- What a path leads to can be told, whatever it is.
      refine iff_of_false ?_ fun h => ?_
      · cases hnode : t.node? place <;>
          simp [Except.bind, hnode, Except.mapError, orAbsent, FileErrno.saysAbsent,
            FileErrno.absentNumbers, FileErrno.number]
      · obtain ⟨errno, herrno, -⟩ := h.errno
        rw [hfollow] at herrno
        cases herrno

end FileTree

/-! ### What ends a scan early -/

section Halts

variable {t : FileTree} {root : Path} {name directory attr : String}

/-- A device that shows its identifier and its memory size has a link that the system refuses to
follow. -/
structure HasUntestableLink (t : FileTree) (root : Path) (name : String) : Prop where
  directory : t.isDirectory? (root.child name) = .ok true
  uuid : ∃ uuid, Sysfs.readText t (root.child name).text "uuid" = .ok uuid
  memorySize : ∃ n, Sysfs.readInt64 t (root.child name).text "memory_size" = .ok n ∧ 0 ≤ n
  link : t.RefusesToFollow (linkPath (root.child name).text)

theorem readText_ne_system (f : FileFault) :
    Sysfs.readText t directory attr ≠ .error (.system f) := by
  unfold Sysfs.readText
  intro h
  split at h
  · cases h
  · cases h
  · obtain ⟨fault, -, hfault⟩ := mapError_eq_error_iff.mp h
    cases hfault

theorem readInt64_ne_system (f : FileFault) :
    Sysfs.readInt64 t directory attr ≠ .error (.system f) := by
  unfold Sysfs.readInt64
  intro h
  rcases bind_eq_error.mp h with htext | ⟨text, -, hvalue⟩
  · exact readText_ne_system f htext
  · obtain ⟨cause, -, hcause⟩ := mapError_eq_error_iff.mp hvalue
    cases hcause

theorem readBusAddress_ne_system (f : FileFault) :
    Sysfs.readBusAddress t directory ≠ .error (.system f) := by
  unfold Sysfs.readBusAddress
  intro h
  split at h
  · cases h
  · cases h
  · rename_i target hlink
    cases haddress : Sysfs.linkAddress? target <;> rw [haddress] at h <;> cases h

theorem throughLink_eq_system {i : Sysfs.Interruption} {f : FileFault}
    (h : i.throughLink directory = .system f) : i = .system f := by
  cases i with
  | fault fault =>
    obtain ⟨cause, attr, path⟩ := fault
    cases cause <;> cases h
  | _ => exact h

theorem ofInterruption_eq_halted_iff {i : Sysfs.Interruption} {f : FileFault} :
    DeviceEnd.ofInterruption i = .halted f ↔ i = .system f := by
  cases i <;> simp [DeviceEnd.ofInterruption]

/-- Only the test of the device link fails in a way that nothing expects. -/
theorem readNumaNode_eq_system_iff {f : FileFault} :
    Sysfs.readNumaNode t directory = .error (.system f) ↔
      t.isDirectory? (linkPath directory) = .error f := by
  rw [readNumaNode_eq]
  split
  · rename_i fault hfault
    simp [hfault]
  · rename_i hno
    simp [hno]
  · rename_i hyes
    simp only [hyes, reduceCtorEq, iff_false]
    intro h
    obtain ⟨i, hi, hthrough⟩ := mapError_eq_error_iff.mp h
    exact readInt64_ne_system f (throughLink_eq_system hthrough ▸ hi)

/-- A reading is ended by the device link alone, once the identifier and the memory size have been
read. -/
theorem firstFailure_halted_iff {f : FileFault} :
    FirstFailure t directory (.halted f) ↔
      (∃ uuid, Sysfs.readText t directory "uuid" = .ok uuid) ∧
      (∃ n, Sysfs.readInt64 t directory "memory_size" = .ok n ∧ 0 ≤ n) ∧
      t.isDirectory? (linkPath directory) = .error f := by
  constructor
  · intro h
    -- The other readers end with a fault that is expected, whatever they meet.
    generalize hend : DeviceEnd.halted f = e at h
    cases h with
    | uuid h =>
      rw [ofInterruption_eq_halted_iff.mp hend.symm] at h
      exact absurd h (readText_ne_system f)
    | memorySize _ h =>
      rw [ofInterruption_eq_halted_iff.mp hend.symm] at h
      exact absurd h (readInt64_ne_system f)
    | negativeMemory => cases hend
    | numaNode huuid hsize hn h =>
      rw [ofInterruption_eq_halted_iff.mp hend.symm] at h
      exact ⟨⟨_, huuid⟩, ⟨_, hsize, hn⟩, readNumaNode_eq_system_iff.mp h⟩
    | busAddress _ _ _ _ h =>
      rw [ofInterruption_eq_halted_iff.mp hend.symm] at h
      exact absurd h (readBusAddress_ne_system f)
  · rintro ⟨⟨uuid, huuid⟩, ⟨n, hsize, hn⟩, hlink⟩
    exact .numaNode huuid hsize hn (readNumaNode_eq_system_iff.mpr hlink)

/-- **An entry ends a scan early exactly if the system refuses to follow its device link.** -/
theorem isOk_findingOf_iff :
    (findingOf t root name).isOk = true ↔ ¬HasUntestableLink t root name := by
  rw [← Bool.not_eq_false, not_iff_not, isOk_findingOf_eq_false_iff]
  simp only [firstFailure_halted_iff, exists_and_left, FileTree.isDirectory?_eq_error_iff]
  constructor
  · rintro ⟨hdirectory, huuid, hsize, hlink⟩
    exact ⟨hdirectory, huuid, hsize, hlink⟩
  · rintro ⟨hdirectory, huuid, hsize, hlink⟩
    exact ⟨hdirectory, huuid, hsize, hlink⟩

/-- A link through a directory that may not be searched ends a scan, an attribute that the device
fails to deliver does not. -/
example :
    let t := (FileTree.empty ["w"]).applyAll (deviceFiles "a" "U1")
    let closed := t.put ["w", "bus"] (.directory (some .permissionDenied))
    let failing := t.put ["w", "class", "a", "uuid"] (.file [] (some (.other 5 "I/O error")))
    (findingOf closed (.ofText "class") "a").isOk = false ∧
      (findingOf failing (.ofText "class") "a").isOk = true := by
  decide +kernel

end Halts

/-! ### Removing an entry -/

section Removal

variable {t t' : FileTree} {root : Path} {name directory attr : String}

theorem readText_of_extends (h : t.Extends t') {text : String}
    (hok : Sysfs.readText t' directory attr = .ok text) :
    Sysfs.readText t directory attr = .ok text := by
  obtain ⟨octets, hread⟩ := read?_of_readText hok
  have hsame : t.read? ((Path.ofText directory).child attr) = .ok octets :=
    FileTree.access_eq_ok_of_extends h hread
  rw [readText_congr (hsame.trans hread.symm), hok]

theorem readInt64_of_extends (h : t.Extends t') {n : Int}
    (hok : Sysfs.readInt64 t' directory attr = .ok n) :
    Sysfs.readInt64 t directory attr = .ok n := by
  obtain ⟨text, htext, -⟩ := bind_eq_ok.mp hok
  rw [Sysfs.readInt64, readText_of_extends h htext, ← htext]
  exact hok

/-- A link that the system refuses to follow is refused in a larger tree, too. -/
theorem HasUntestableLink.of_extends (hlink : HasUntestableLink t' root name) (h : t.Extends t') :
    HasUntestableLink t root name := by
  obtain ⟨hdirectory, ⟨uuid, huuid⟩, ⟨n, hsize, hn⟩, hrefuses⟩ := hlink
  constructor
  case directory =>
    rw [FileTree.isDirectory?_of_extends h (by simp [hdirectory]), hdirectory]
  case uuid => exact ⟨uuid, readText_of_extends h huuid⟩
  case memorySize => exact ⟨n, readInt64_of_extends h hsize, hn⟩
  case link =>
    obtain ⟨f, hf⟩ := FileTree.isDirectory?_eq_error_iff.mpr hrefuses
    refine FileTree.isDirectory?_eq_error_iff.mp ⟨f, ?_⟩
    rw [FileTree.isDirectory?_of_extends h (by simp [hf]), hf]

/-- Once an entry has been removed the class directory lists all others. -/
theorem listClass_erase {names : List String} (hnames : listClass t root = .ok (some names))
    {place : Place} (hplace : t.directory? root = .ok place) {removed : String}
    (havoids : FileTree.Avoids (t.accessLooks true root) (place ++ [removed])) :
    listClass (t.erase (place ++ [removed])) root =
      .ok (some (names.filter fun name => name ≠ removed)) := by
  have hremoved : place ++ [removed] ≠ [] := by simp
  have hworking := (t.extends_erase hremoved).working
  have hagree := FileTree.agreeAt_erase (t := t) hremoved havoids
  have hascend := pairwise_lt_of_listClass hnames
  obtain ⟨hexists, -⟩ := listClass_eq_some_iff.mp hnames
  obtain ⟨listed, hlist, hperm, hnodup⟩ := listClass_eq_some hnames
  obtain rfl : t.namesIn place = listed := by
    rw [FileTree.list?_eq_map, hplace] at hlist
    exact Except.ok.inj hlist
  refine listClass_eq_of_perm ((t.erase (place ++ [removed])).namesIn place) ?_ ?_ ?_ ?_
  · rw [FileTree.exists?_congr hworking hagree, hexists]
  · rw [FileTree.list?_eq_map, FileTree.directory?_congr hworking hagree, hplace,
      Except.map]
  · refine (List.perm_ext_iff_of_nodup (FileTree.nodup_namesIn _ _) (hnodup.filter _)).mpr ?_
    intro name
    rw [FileTree.mem_namesIn_erase, List.mem_filter, hperm.mem_iff, decide_eq_true_eq]
  · exact (hascend.filter _).imp fun h => (String.le_total _ _).resolve_right (String.not_le.mpr h)

end Removal

/-! ### Containment -/

section Scanners

variable {t : FileTree} {names : List String}

open Scanner

/-- **A scan contains what is broken.** Let the class directory be listed. A scan returns exactly
if the system refuses to follow no device link, and then it has every directory as a device or as
one that was left out. If an entry is removed the scan still returns, and every other entry that is
not read through the removed one is the same device or left out for the same reason. -/
theorem scan_contains_failures (s : Scanner) (hnames : listClass t s.root = .ok (some names)) :
    ((s.scan t).1.isSome = true ↔ ∀ name ∈ names, ¬HasUntestableLink t s.root name) ∧
      ∀ devices, (s.scan t).1 = some devices →
        (∀ name ∈ names, t.isDirectory? (s.root.child name) = .ok true →
          name ∈ devices.map (·.1) ∨ name ∈ (s.scan t).2.lastErrors.map (·.1)) ∧
        ∀ place broken, t.directory? s.root = .ok place →
          FileTree.Avoids (t.accessLooks true s.root) (place ++ [broken]) →
          ∃ others, (s.scan (t.erase (place ++ [broken]))).1 = some others ∧
            broken ∉ others.map (·.1) ∧
            ∀ sibling ∈ names, sibling ≠ broken →
              FileTree.Avoids (entryLooks t s.root sibling) (place ++ [broken]) →
              (∀ d, (sibling, d) ∈ devices ↔ (sibling, d) ∈ others) ∧
              ∀ reason, (sibling, reason) ∈ (s.scan t).2.lastErrors ↔
                (sibling, reason) ∈ (s.scan (t.erase (place ++ [broken]))).2.lastErrors := by
  have hreturns : (s.scan t).1.isSome = true ↔
      ∀ name ∈ names, ¬HasUntestableLink t s.root name := by
    simp only [isSome_scan_iff hnames, isOk_findingOf_iff]
  refine ⟨hreturns, fun devices hdevices => ?_⟩
  have hlinks := hreturns.mp (by rw [hdevices]; rfl)
  have hok : ∀ name ∈ names, (findingOf t s.root name).isOk = true :=
    fun name hname => isOk_findingOf_iff.mpr (hlinks name hname)
  rw [scan_of_listClass hnames hok] at hdevices ⊢
  obtain rfl := Option.some.inj hdevices
  constructor
  · intro name hname hdirectory
    exact ((isPartition_of_listClass hnames hok).split name).mp
      ⟨(mem_of_listClass hnames).mp hname, hdirectory⟩
  · intro place broken hplace havoids
    have hremoved : place ++ [broken] ≠ [] := by simp
    have hextends := t.extends_erase hremoved
    have hothers := listClass_erase hnames hplace havoids
    -- A walk of the smaller tree that fails can only fail for a missing file, unless it fails in
    -- the larger tree too; so no link is refused that was not refused before.
    have hrest : ∀ name ∈ names.filter fun name => name ≠ broken,
        (findingOf (t.erase (place ++ [broken])) s.root name).isOk = true := by
      intro name hname
      refine isOk_findingOf_iff.mpr fun hlong => ?_
      exact hlinks name (List.mem_of_mem_filter hname) (hlong.of_extends hextends)
    rw [scan_of_listClass hothers hrest]
    refine ⟨_, rfl, ?_, fun sibling hsibling hne hlooks => ?_⟩
    · rw [mem_map_fst]
      rintro ⟨d, hd⟩
      have hlisted := ((Scan.mem_devices_ofNames hrest).mp hd).1
      simp at hlisted
    · have hsame := findingOf_congr hextends.working (FileTree.agreeAt_erase hremoved hlooks)
      simp only [Scan.mem_devices_ofNames hok, Scan.mem_devices_ofNames hrest,
        Scan.mem_drops_ofNames hok, Scan.mem_drops_ofNames hrest, hsame]
      simp [hsibling, hne]

/-- A device that shows all but what its link leads to is left out, and the other one is returned
with it and without it. -/
theorem scan_contains_failures_of_dangling :
    let s : Scanner := { root := .ofText "class" }
    let dangling : List FileChange :=
      [.file "class/b/uuid" "U2".toUTF8.toList, .file "class/b/memory_size" "1024".toUTF8.toList,
       .link "class/b/device" "../../bus/0000:12:00.0"]
    let t := (FileTree.empty ["w"]).applyAll (deviceFiles "a" "U1" ++ dangling)
    listClass t s.root = .ok (some ["a", "b"]) ∧
      ∃ devices others, (s.scan t).1 = some devices ∧
        (s.scan (t.erase ["w", "class", "b"])).1 = some others ∧
        ∀ d, ("a", d) ∈ devices ↔ ("a", d) ∈ others := by
  intro s dangling t
  have hnames : listClass t s.root = .ok (some ["a", "b"]) :=
    listClass_eq_of_perm ["a", "b"] (by decide +kernel) (by decide +kernel) (.refl _)
      (by decide)
  have hok : ∀ name ∈ ["a", "b"], (findingOf t s.root name).isOk = true := by decide +kernel
  obtain ⟨hreturns, hcontains⟩ := scan_contains_failures s hnames
  have hsome := hreturns.mpr fun name hname => isOk_findingOf_iff.mp (hok name hname)
  obtain ⟨devices, hdevices⟩ := Option.isSome_iff_exists.mp hsome
  obtain ⟨-, hothers⟩ := hcontains devices hdevices
  obtain ⟨others, hscan, -, hsiblings⟩ := hothers ["w", "class"] "b" (by decide +kernel)
    (by unfold FileTree.Avoids; decide +kernel)
  exact ⟨hnames, devices, others, hdevices, hscan, (hsiblings "a" (by decide) (by decide)
    (by unfold FileTree.Avoids; decide +kernel)).1⟩

/-- Two devices that show all they have to, but for the link of the first one, whose target is a
name of 256 characters. -/
def overlongLinkTree : FileTree where
  working := ["w"]
  nodes := [
    (["w"], .directory), (["w", "class"], .directory), (["w", "class", "mock-accel"], .directory),
    (["w", "class", "mock-accel", "mock0"], .directory),
    (["w", "class", "mock-accel", "mock0", "uuid"], .file "U0".toUTF8.toList),
    (["w", "class", "mock-accel", "mock0", "memory_size"], .file "1024".toUTF8.toList),
    (["w", "class", "mock-accel", "mock0", "device"], .link (.ofList (List.replicate 256 'x'))),
    (["w", "class", "mock-accel", "mock1"], .directory),
    (["w", "class", "mock-accel", "mock1", "uuid"], .file "U1".toUTF8.toList),
    (["w", "class", "mock-accel", "mock1", "memory_size"], .file "1024".toUTF8.toList),
    (["w", "class", "mock-accel", "mock1", "device"], .link "../../../devices/0000:11:00.0"),
    (["w", "devices"], .directory), (["w", "devices", "0000:11:00.0"], .directory),
    (["w", "devices", "0000:11:00.0", "numa_node"], .file "0".toUTF8.toList)]

theorem isOk_findingOf_overlongLinkTree :
    (findingOf overlongLinkTree (.ofText "class/mock-accel") "mock0").isOk = false := by
  decide +kernel

/-- A link along a name that is too long ends a scan, and the sibling is not returned though it is a
device. It is once the broken device has been removed. -/
theorem scan_ended_by_overlong_link :
    let s : Scanner := { root := .ofText "class/mock-accel" }
    let without := overlongLinkTree.erase ["w", "class", "mock-accel", "mock0"]
    listClass overlongLinkTree s.root = .ok (some ["mock0", "mock1"]) ∧
      (s.scan overlongLinkTree).1 = none ∧
      (s.scan without).1 =
        some [("mock1", ⟨"mock1", "U1", 1024, 0, .primary, "0000:11:00.0", 0⟩)] := by
  intro s without
  have hnames : listClass overlongLinkTree s.root = .ok (some ["mock0", "mock1"]) :=
    listClass_eq_of_perm ["mock0", "mock1"] (by decide +kernel) (by decide +kernel)
      (.refl _) (by decide)
  have hothers : listClass without s.root = .ok (some ["mock1"]) :=
    listClass_eq_of_perm ["mock1"] (by decide +kernel) (by decide +kernel)
      (.refl _) (by decide)
  refine ⟨hnames, ?_, ?_⟩
  · rw [← Option.not_isSome_iff_eq_none, isSome_scan_iff hnames]
    intro hok
    have hfirst := hok "mock0" (by simp)
    rw [isOk_findingOf_overlongLinkTree] at hfirst
    cases hfirst
  · rw [scan_of_listClass hothers (by decide +kernel)]
    decide +kernel

end Scanners

end SliceAgent
