import SliceAgent.Cycle
import SliceAgent.Proofs.Advertise

/-!
# The devices of a scan

A directory holds each name once, and a scan reads each name once and finds a device under its own
name only. So the devices that a scan returns are kept under their own names, each name once
(`isKeyedByName_of_scanClass`), which is what a cycle asks of them.

A scan returns its devices unless one of the entries ends it early (`scanClass_not_crashed`).
-/

namespace SliceAgent

/-! ### Names in a directory -/

/-- Of values that are listed more than once one is left. -/
theorem nodup_eraseDups {α : Type} [DecidableEq α] (l : List α) : l.eraseDups.Nodup := by
  -- The values that are left of the tail are those of a list that may be shorter than it.
  induction hn : l.length using Nat.strongRecOn generalizing l with
  | ind n ih =>
    subst hn
    cases l with
    | nil => simp
    | cons a rest =>
      have hlt : (rest.filter fun b => !b == a).length < (a :: rest).length :=
        Nat.lt_succ_of_le (List.length_filter_le _ rest)
      have hrest := ih _ hlt _ rfl
      rw [List.eraseDups_cons]
      exact List.nodup_cons.mpr ⟨by simp [List.mem_eraseDups], hrest⟩

namespace FileTree

theorem nodup_namesIn (t : FileTree) (directory : Place) : (t.namesIn directory).Nodup :=
  nodup_eraseDups _

/-- Rewording errors gives no result where there was none. -/
theorem eq_ok_of_mapError {ε ε' α : Type} {f : ε → ε'} {outcome : Except ε α} {result : α}
    (h : outcome.mapError f = .ok result) : outcome = .ok result := by
  cases outcome with
  | error e => cases h
  | ok a => exact congrArg Except.ok (Except.ok.inj h)

/-- What a call gives is what it makes of the entry that its path leads to. -/
theorem access_eq_ok {α : Type} {t : FileTree} {followLast : Bool} {path : Path}
    {call : Place → FileNode → Except FileErrno α} {result : α}
    (h : t.access followLast path call = .ok result) :
    ∃ place node, call place node = .ok result := by
  rw [access] at h
  split at h
  · cases h
  · have houtcome := eq_ok_of_mapError h
    cases hfollow : t.follow followLast path.text with
    | error errno => rw [hfollow] at houtcome; cases houtcome
    | ok place =>
      rw [hfollow] at houtcome
      change (t.node? place).elim (.error .notFound) (call place) = .ok result at houtcome
      cases hnode : t.node? place with
      | none => rw [hnode] at houtcome; cases houtcome
      | some node =>
        rw [hnode] at houtcome
        exact ⟨place, node, houtcome⟩

theorem nodup_of_list? {t : FileTree} {path : Path} {names : List String}
    (h : t.list? path = .ok names) : names.Nodup := by
  obtain ⟨place, node, hnames⟩ := access_eq_ok h
  cases node with
  | directory searching listing =>
    cases listing with
    | none =>
      obtain rfl : t.namesIn place = names := Except.ok.inj hnames
      exact t.nodup_namesIn place
    | some errno => cases hnames
  | _ => cases hnames

end FileTree

/-- A scan goes through the names of the class directory, each once. -/
theorem listClass_eq_some {t : FileTree} {root : Path} {names : List String}
    (h : listClass t root = .ok (some names)) :
    ∃ listed, t.list? root = .ok listed ∧ names.Perm listed ∧ names.Nodup := by
  rw [listClass] at h
  split at h
  · cases h
  · cases h
  · cases hlist : t.list? root with
    | error fault => cases fault <;> simp [hlist] at h
    | ok listed =>
      obtain rfl : (listed.mergeSort fun a b => decide (a ≤ b)) = names := by
        simpa [hlist] using h
      have hperm := List.mergeSort_perm listed fun a b => decide (a ≤ b)
      exact ⟨listed, rfl, hperm, hperm.nodup_iff.mpr (FileTree.nodup_of_list? hlist)⟩

/-! ### Findings -/

/-- A device is read under the name of its directory. -/
theorem name_of_readDevice {t : FileTree} {name directory : String} {d : Device}
    (h : (readDevice t name directory).outcome = .ok d) : d.name = name := by
  unfold readDevice at h
  dsimp only at h
  split at h
  · cases h
  · cases hnode : (Sysfs.readNumaNode t directory).mapError DeviceEnd.ofInterruption with
    | error e => simp [hnode, bind, Except.bind] at h
    | ok numaNode =>
      cases haddress : (Sysfs.readBusAddress t directory).mapError DeviceEnd.ofInterruption with
      | error e => simp [hnode, haddress, bind, Except.bind] at h
      | ok busAddress =>
        simp only [hnode, haddress, bind, Except.bind, pure, Except.pure, Except.ok.injEq] at h
        rw [← h]

/-- What is read as a signed number of 64 bits is one. -/
theorem int64_of_readInt64 {t : FileTree} {directory attr : String} {n : Int}
    (h : Sysfs.readInt64 t directory attr = .ok n) :
    Sysfs.int64Min ≤ n ∧ n ≤ Sysfs.int64Max := by
  rw [Sysfs.readInt64] at h
  cases htext : Sysfs.readText t directory attr with
  | error e => rw [htext] at h; cases h
  | ok text =>
    rw [htext] at h
    have hvalue := FileTree.eq_ok_of_mapError h
    rw [Sysfs.int64OfText] at hvalue
    split at hvalue
    · cases hvalue
    · split at hvalue
      · rename_i hrange
        rw [← Except.ok.inj hvalue]
        exact hrange
      · cases hvalue

theorem le_int64Max_of_readMemorySize {t : FileTree} {directory : String} {size : Nat}
    (h : readMemorySize t directory = .ok size) : (size : Int) ≤ Sysfs.int64Max := by
  unfold readMemorySize at h
  split at h
  · cases h
  · rename_i n hread
    split at h
    · cases h
    · rename_i hn
      rw [← Except.ok.inj h, Int.toNat_of_nonneg (Int.not_lt.mp hn)]
      exact (int64_of_readInt64 hread).2

theorem readMemorySize_of_readDevice {t : FileTree} {name directory : String} {d : Device}
    (h : (readDevice t name directory).outcome = .ok d) :
    readMemorySize t directory = .ok d.memorySize := by
  unfold readDevice at h
  dsimp only at h
  cases huuid : (Sysfs.readText t directory "uuid").mapError DeviceEnd.ofInterruption with
  | error e => simp [huuid, bind, Except.bind] at h
  | ok uuid =>
    cases hsize : readMemorySize t directory with
    | error e => simp [huuid, hsize, bind, Except.bind] at h
    | ok size =>
      simp only [huuid, hsize, bind, Except.bind, pure, Except.pure] at h
      split at h
      · cases h
      · split at h
        · cases h
        · rw [← Except.ok.inj h]

/-- A device that is found was read from its directory. -/
theorem readDevice_of_findingOf {t : FileTree} {root : Path} {name : String} {d : Device}
    {lacks : Bool} (h : findingOf t root name = .ok (.device d lacks)) :
    (readDevice t name (root.child name).text).outcome = .ok d := by
  unfold findingOf at h
  cases hdirectory : t.isDirectory? (root.child name) with
  | error fault => simp [hdirectory] at h
  | ok isDirectory =>
    cases isDirectory with
    | false => simp [hdirectory] at h
    | true =>
      cases houtcome : (readDevice t name (root.child name).text).outcome with
      | error e => cases e <;> simp [hdirectory, houtcome] at h
      | ok d' =>
        obtain ⟨rfl, -⟩ : d' = d ∧ (readDevice t name (root.child name).text).lacksCapabilities =
            lacks := by simpa [hdirectory, houtcome] using h
        rfl

theorem name_of_findingOf {t : FileTree} {root : Path} {name : String} {d : Device} {lacks : Bool}
    (h : findingOf t root name = .ok (.device d lacks)) : d.name = name :=
  name_of_readDevice (readDevice_of_findingOf h)

namespace Scan

variable {find : String → Except ScanHalt Finding}

/-- A scan has the finding of each name, up to the one that ends it. -/
theorem ofNames_spec (find : String → Except ScanHalt Finding) (names : List String) :
    (ofNames find names).findings.map (·.1) <+: names ∧
      ∀ e ∈ (ofNames find names).findings, find e.1 = .ok e.2 := by
  induction names with
  | nil => simp [ofNames]
  | cons name rest ih =>
    obtain ⟨hkeys, hfindings⟩ := ih
    rw [ofNames]
    split
    · simp
    · rename_i finding hfind
      refine ⟨?_, ?_⟩
      · simpa using hkeys
      · simpa [hfind] using hfindings

/-- Only an entry ends a scan early. -/
theorem ofNames_halt_eq_none {names : List String}
    (h : ∀ name ∈ names, (find name).isOk = true) : (ofNames find names).halt = none := by
  induction names with
  | nil => rfl
  | cons name rest ih =>
    have hname := h name (by simp)
    rw [ofNames]
    split
    · rename_i halt hfind
      simp [hfind, Except.isOk, Except.toBool] at hname
    · exact ih fun n hn => h n (List.mem_cons_of_mem _ hn)

theorem mem_devices {s : Scan} {e : String × Device} :
    e ∈ s.devices ↔ ∃ lacks, (e.1, Finding.device e.2 lacks) ∈ s.findings := by
  rw [devices, List.mem_filterMap]
  constructor
  · rintro ⟨⟨name, finding⟩, hmem, he⟩
    cases finding with
    | device d lacks =>
      obtain rfl : (name, d) = e := by simpa using he
      exact ⟨lacks, hmem⟩
    | _ => cases he
  · rintro ⟨lacks, hmem⟩
    exact ⟨_, hmem, rfl⟩

/-- What is kept of entries under their keys comes in the order of the entries. -/
theorem map_fst_filterMap_sublist {α β : Type} {keep : String × α → Option (String × β)}
    (hkey : ∀ e kept, keep e = some kept → kept.1 = e.1) (l : List (String × α)) :
    List.Sublist ((l.filterMap keep).map (·.1)) (l.map (·.1)) := by
  induction l with
  | nil => simp
  | cons e rest ih =>
    rw [List.filterMap_cons]
    cases hkeep : keep e with
    | none => exact ih.cons e.1
    | some kept =>
      rw [List.map_cons, List.map_cons, hkey e kept hkeep]
      exact ih.cons_cons e.1

/-- The devices come in the order of the findings. -/
theorem devices_sublist (s : Scan) :
    List.Sublist (s.devices.map (·.1)) (s.findings.map (·.1)) := by
  refine map_fst_filterMap_sublist (fun e kept hkept => ?_) s.findings
  obtain ⟨name, finding⟩ := e
  cases finding with
  | device d lacks => exact congrArg Prod.fst (Option.some.inj hkept).symm
  | _ => cases hkept

/-- A scan that goes through each name once and finds devices under their own names keeps them
so. -/
theorem isKeyedByName_devices {names : List String} (hnodup : names.Nodup)
    (hname : ∀ name d lacks, find name = .ok (.device d lacks) → d.name = name) :
    IsKeyedByName (ofNames find names).devices := by
  obtain ⟨hkeys, hfindings⟩ := ofNames_spec find names
  refine ⟨fun e he => ?_, ?_⟩
  · obtain ⟨lacks, hmem⟩ := mem_devices.mp he
    exact (hname e.1 e.2 lacks (hfindings _ hmem)).symm
  · exact hnodup.sublist ((devices_sublist _).trans hkeys.sublist)

end Scan

/-! ### Scans -/

variable {t : FileTree} {root : Path} {node : String}

/-- **The devices of a scan are kept under their own names**, each name once. -/
theorem isKeyedByName_of_scanClass {devices : List (String × Device)}
    (h : (ScanReport.ofOutcome root node (scanClass t root)).result = .devices devices) :
    IsKeyedByName devices := by
  cases hnames : listClass t root with
  | error fault => simp [scanClass, hnames, ScanReport.ofOutcome] at h
  | ok found =>
    cases found with
    | none =>
      obtain rfl : [] = devices := by simpa [scanClass, hnames, ScanReport.ofOutcome] using h
      exact ⟨by simp, by simp⟩
    | some names =>
      obtain ⟨-, -, -, hnodup⟩ := listClass_eq_some hnames
      simp only [scanClass, hnames, ScanReport.ofOutcome] at h
      split at h
      · obtain rfl := ScanResult.devices.inj h
        exact Scan.isKeyedByName_devices hnodup fun _ _ _ => name_of_findingOf
      · cases h

/-- A device of a scan was found in the class directory. -/
theorem findingOf_of_scanClass {devices : List (String × Device)}
    (h : (ScanReport.ofOutcome root node (scanClass t root)).result = .devices devices)
    {e : String × Device} (he : e ∈ devices) :
    ∃ lacks, findingOf t root e.1 = .ok (.device e.2 lacks) := by
  cases hnames : listClass t root with
  | error fault => simp [scanClass, hnames, ScanReport.ofOutcome] at h
  | ok found =>
    cases found with
    | none =>
      obtain rfl : [] = devices := by simpa [scanClass, hnames, ScanReport.ofOutcome] using h
      cases he
    | some names =>
      simp only [scanClass, hnames, ScanReport.ofOutcome] at h
      split at h
      · obtain rfl := ScanResult.devices.inj h
        obtain ⟨lacks, hmem⟩ := Scan.mem_devices.mp he
        exact ⟨lacks, (Scan.ofNames_spec _ names).2 _ hmem⟩
      · cases h

/-- The memory of every device of a scan fits into 64 bits. -/
theorem memorySize_le_of_scanClass {devices : List (String × Device)}
    (h : (ScanReport.ofOutcome root node (scanClass t root)).result = .devices devices)
    {e : String × Device} (he : e ∈ devices) : (e.2.memorySize : Int) ≤ Sysfs.int64Max := by
  obtain ⟨lacks, hfinding⟩ := findingOf_of_scanClass h he
  exact le_int64Max_of_readMemorySize
    (readMemorySize_of_readDevice (readDevice_of_findingOf hfinding))

/-- A scan none of whose entries ends it early does not crash. -/
theorem scanClass_not_crashed
    (h : ∀ names, t.list? root = .ok names → ∀ name ∈ names, (findingOf t root name).isOk = true)
    (crash : Crash) :
    (ScanReport.ofOutcome root node (scanClass t root)).result ≠ .crashed crash := by
  cases hnames : listClass t root with
  | error fault => simp [scanClass, hnames, ScanReport.ofOutcome]
  | ok found =>
    cases found with
    | none => simp [scanClass, hnames, ScanReport.ofOutcome]
    | some names =>
      obtain ⟨listed, hlist, hperm, -⟩ := listClass_eq_some hnames
      have hhalt := Scan.ofNames_halt_eq_none fun name hname =>
        h listed hlist name (hperm.mem_iff.mp hname)
      simp [scanClass, hnames, ScanReport.ofOutcome, hhalt]

end SliceAgent
