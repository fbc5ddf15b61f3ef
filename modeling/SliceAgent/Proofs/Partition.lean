import SliceAgent.Proofs.Findings
import SliceAgent.Proofs.Convergence

/-!
# The partition of the class directory

A scan that is not ended early has a finding for every name in the class directory. So it splits the
entries that are directories: each is a device or was left out, never both, and nothing else is
either (`IsPartition`). What becomes of an entry is decided by the files of its directory alone, and
the first thing that cannot be read is the reason to leave it out.

Neither earlier scans of the same scanner count nor the order in which the directory is listed
(`scan_partitions`): names are sorted before they are looked at, so trees that have the same entries
are scanned alike (`FileTree.SameEntries.scanClass_eq`).
-/

namespace SliceAgent

/-! ### Scans that are not ended early -/

namespace Scan

variable {find : String → Except ScanHalt Finding} {names : List String}

/-- A scan is ended early exactly if it meets an entry that ends it. -/
theorem ofNames_halt_eq_none_iff :
    (ofNames find names).halt = none ↔ ∀ name ∈ names, (find name).isOk = true := by
  refine ⟨fun h => ?_, ofNames_halt_eq_none⟩
  induction names with
  | nil => simp
  | cons name rest ih =>
    rw [ofNames] at h
    split at h
    · cases h
    · rename_i finding hfind
      rw [List.forall_mem_cons]
      exact ⟨by simp [hfind, Except.isOk, Except.toBool], ih h⟩

/-- A scan that is not ended early has the finding of every name. -/
theorem mem_findings_ofNames (hhalt : (ofNames find names).halt = none) {e : String × Finding} :
    e ∈ (ofNames find names).findings ↔ e.1 ∈ names ∧ find e.1 = .ok e.2 := by
  induction names with
  | nil => simp [ofNames]
  | cons name rest ih =>
    cases hfind : find name with
    | error halt =>
      rw [ofNames, hfind] at hhalt
      cases hhalt
    | ok finding =>
      rw [ofNames, hfind] at hhalt
      rw [ofNames, hfind, List.mem_cons, ih hhalt, List.mem_cons]
      constructor
      · rintro (rfl | ⟨hmem, hfinding⟩)
        · exact ⟨.inl rfl, hfind⟩
        · exact ⟨.inr hmem, hfinding⟩
      · rintro ⟨hname | hmem, hfinding⟩
        · rw [hname, hfind] at hfinding
          exact .inl (Prod.ext hname (Except.ok.inj hfinding).symm)
        · exact .inr ⟨hmem, hfinding⟩

theorem mem_drops {s : Scan} {e : String × DropReason} :
    e ∈ s.drops ↔ ∃ lacks, (e.1, Finding.dropped e.2 lacks) ∈ s.findings := by
  rw [drops, List.mem_filterMap]
  constructor
  · rintro ⟨⟨name, finding⟩, hmem, he⟩
    cases finding with
    | dropped reason lacks =>
      obtain rfl : (name, reason) = e := by simpa using he
      exact ⟨lacks, hmem⟩
    | _ => cases he
  · rintro ⟨lacks, hmem⟩
    exact ⟨_, hmem, rfl⟩

/-- What was left out comes in the order of the findings. -/
theorem drops_sublist (s : Scan) : List.Sublist (s.drops.map (·.1)) (s.findings.map (·.1)) := by
  refine map_fst_filterMap_sublist (fun e kept hkept => ?_) s.findings
  obtain ⟨name, finding⟩ := e
  cases finding with
  | dropped reason lacks => exact congrArg Prod.fst (Option.some.inj hkept).symm
  | _ => cases hkept

theorem mem_devices_ofNames (hok : ∀ name ∈ names, (find name).isOk = true) {name : String}
    {d : Device} : (name, d) ∈ (ofNames find names).devices ↔
      name ∈ names ∧ ∃ lacks, find name = .ok (.device d lacks) := by
  simp only [mem_devices, mem_findings_ofNames (ofNames_halt_eq_none hok), exists_and_left]

theorem mem_drops_ofNames (hok : ∀ name ∈ names, (find name).isOk = true) {name : String}
    {reason : DropReason} : (name, reason) ∈ (ofNames find names).drops ↔
      name ∈ names ∧ ∃ lacks, find name = .ok (.dropped reason lacks) := by
  simp only [mem_drops, mem_findings_ofNames (ofNames_halt_eq_none hok), exists_and_left]

end Scan

/-! ### The names in the class directory -/

section Listing

variable {t t' : FileTree} {root : Path} {names : List String}

/-- The names that a scan goes through are those that are listed, sorted. -/
theorem listClass_eq_some_iff :
    listClass t root = .ok (some names) ↔ t.exists? root = .ok true ∧
      ∃ listed, t.list? root = .ok listed ∧
        names = listed.mergeSort fun a b => decide (a ≤ b) := by
  rw [listClass]
  rcases t.exists? root with f | (_ | _)
  · simp
  · simp
  · rcases t.list? root with (_ | _) | listed <;> simp [eq_comm]

/-- The names of the class directory ascend, each once. -/
theorem pairwise_lt_of_listClass (h : listClass t root = .ok (some names)) :
    names.Pairwise (· < ·) := by
  obtain ⟨-, -, -, hnodup⟩ := listClass_eq_some h
  obtain ⟨-, listed, -, rfl⟩ := listClass_eq_some_iff.mp h
  have hlisted : (listed.map fun name => name).Nodup := by
    rw [List.map_id']
    exact (List.mergeSort_perm listed _).nodup_iff.mp hnodup
  exact pairwise_lt_mergeSort (fun name => name) hlisted

/-- Sorting forgets the order in which names come. -/
theorem mergeSort_eq_of_perm {l m : List String} (h : l.Perm m) :
    (l.mergeSort fun a b => decide (a ≤ b)) = m.mergeSort fun a b => decide (a ≤ b) :=
  (((List.mergeSort_perm l _).trans h).trans (List.mergeSort_perm m _).symm).eq_of_pairwise
    (fun _ _ _ _ hab hba => String.le_antisymm hab hba)
    (pairwise_le_mergeSort (fun name => name) l) (pairwise_le_mergeSort (fun name => name) m)

/-- A scan goes through the names in ascending order, in whatever order they are listed. -/
theorem listClass_eq_of_perm (listed : List String) (hexists : t.exists? root = .ok true)
    (hlist : t.list? root = .ok listed) (hperm : listed.Perm names)
    (hascend : names.Pairwise (· ≤ ·)) : listClass t root = .ok (some names) := by
  refine listClass_eq_some_iff.mpr ⟨hexists, listed, hlist, ?_⟩
  rw [mergeSort_eq_of_perm hperm, List.mergeSort_of_pairwise (hascend.imp decide_eq_true)]

/-- Two trees have the same entries, in whatever order a directory lists them. -/
structure FileTree.SameEntries (t t' : FileTree) : Prop where
  node? : ∀ p, t'.node? p = t.node? p
  working : t'.working = t.working

namespace FileTree.SameEntries

theorem agreeAt (h : t.SameEntries t') (places : List Place) : t.AgreeAt t' places :=
  fun p _ => h.node? p

theorem namesIn_perm (h : t.SameEntries t') (directory : Place) :
    (t'.namesIn directory).Perm (t.namesIn directory) :=
  (List.perm_ext_iff_of_nodup (t'.nodup_namesIn directory) (t.nodup_namesIn directory)).mpr
    fun name => by rw [mem_namesIn, mem_namesIn, h.node?]

/-- The names of the class directory are sorted, so the order in which it lists them does not
count. -/
theorem listClass_eq (h : t.SameEntries t') (root : Path) :
    listClass t' root = listClass t root := by
  rw [listClass, listClass, exists?_congr h.working (h.agreeAt _), list?_eq_map, list?_eq_map,
    directory?_congr h.working (h.agreeAt _)]
  rcases t.directory? root with f | place
  · rfl
  · simp only [Except.map, mergeSort_eq_of_perm (h.namesIn_perm place)]

theorem scanClass_eq (h : t.SameEntries t') (root : Path) :
    scanClass t' root = scanClass t root := by
  have hfinding : findingOf t' root = findingOf t root :=
    funext fun name => findingOf_congr h.working (h.agreeAt _)
  rw [scanClass, scanClass, h.listClass_eq, hfinding]

end FileTree.SameEntries

end Listing

/-! ### Partitions -/

section Partition

variable {t : FileTree} {root : Path} {names : List String}

/-- A name in the class directory is that of a directory, or of a link that leads to one. -/
def IsDeviceDirectory (t : FileTree) (root : Path) (name : String) : Prop :=
  (∃ names, t.list? root = .ok names ∧ name ∈ names) ∧
    t.isDirectory? (root.child name) = .ok true

/-- The directories in the class directory are split into devices and those that were left out. -/
structure IsPartition (t : FileTree) (root : Path) (devices : List (String × Device))
    (drops : List (String × DropReason)) : Prop where
  split : ∀ name, IsDeviceDirectory t root name ↔
    name ∈ devices.map (·.1) ∨ name ∈ drops.map (·.1)
  disjoint : List.Disjoint (devices.map (·.1)) (drops.map (·.1))
  devices_ascend : (devices.map (·.1)).Pairwise (· < ·)
  drops_ascend : (drops.map (·.1)).Pairwise (· < ·)
  key_eq : ∀ e ∈ devices, e.1 = e.2.name
  /-- A directory is a device exactly if it shows everything that a device has to show. -/
  mem_devices : ∀ name d, (name, d) ∈ devices ↔
    IsDeviceDirectory t root name ∧ ShowsDevice t name (root.child name).text d
  /-- It was left out for the first thing that it fails to show. -/
  mem_drops : ∀ name reason, (name, reason) ∈ drops ↔
    IsDeviceDirectory t root name ∧ FirstFailure t (root.child name).text (.dropped reason)

/-- The names that a scan goes through are those in the class directory. -/
theorem mem_of_listClass (h : listClass t root = .ok (some names)) {name : String} :
    name ∈ names ↔ ∃ listed, t.list? root = .ok listed ∧ name ∈ listed := by
  obtain ⟨listed, hlist, hperm, -⟩ := listClass_eq_some h
  rw [hperm.mem_iff]
  refine ⟨fun hname => ⟨listed, hlist, hname⟩, ?_⟩
  rintro ⟨listed', hlist', hname⟩
  rwa [Except.ok.inj (hlist.symm.trans hlist')]

theorem mem_map_fst {α : Type} {entries : List (String × α)} {name : String} :
    name ∈ entries.map (·.1) ↔ ∃ a, (name, a) ∈ entries := by
  simp

/-- A scan that is not ended early splits the directories. -/
theorem isPartition_of_listClass (hnames : listClass t root = .ok (some names))
    (hok : ∀ name ∈ names, (findingOf t root name).isOk = true) :
    IsPartition t root (Scan.ofNames (findingOf t root) names).devices
      (Scan.ofNames (findingOf t root) names).drops := by
  have hkeys := (Scan.ofNames_spec (findingOf t root) names).1
  have hascend := (pairwise_lt_of_listClass hnames).sublist hkeys.sublist
  have hdevice (name : String) (d : Device) :
      (name, d) ∈ (Scan.ofNames (findingOf t root) names).devices ↔
        IsDeviceDirectory t root name ∧ ShowsDevice t name (root.child name).text d := by
    rw [Scan.mem_devices_ofNames hok, findingOf_eq_device_iff, mem_of_listClass hnames,
      IsDeviceDirectory, and_assoc]
  have hdrop (name : String) (reason : DropReason) :
      (name, reason) ∈ (Scan.ofNames (findingOf t root) names).drops ↔
        IsDeviceDirectory t root name ∧
          FirstFailure t (root.child name).text (.dropped reason) := by
    rw [Scan.mem_drops_ofNames hok, findingOf_eq_dropped_iff, mem_of_listClass hnames,
      IsDeviceDirectory, and_assoc]
  constructor
  case split =>
    intro name
    simp only [mem_map_fst]
    constructor
    · intro h
      have hname := (mem_of_listClass hnames).mpr h.1
      rcases device_or_dropped_of_isOk h.2 (hok name hname) with ⟨d, hd⟩ | ⟨reason, hreason⟩
      · exact .inl ⟨d, (hdevice name d).mpr ⟨h, (findingOf_eq_device_iff.mp hd).2⟩⟩
      · exact .inr ⟨reason, (hdrop name reason).mpr ⟨h, (findingOf_eq_dropped_iff.mp hreason).2⟩⟩
    · rintro (⟨d, hd⟩ | ⟨reason, hreason⟩)
      · exact ((hdevice name d).mp hd).1
      · exact ((hdrop name reason).mp hreason).1
  case disjoint =>
    -- One reading has one outcome.
    simp only [List.disjoint_left, mem_map_fst]
    rintro name ⟨d, hd⟩ ⟨reason, hreason⟩
    have hshown := outcome_readDevice_eq_ok_iff.mpr ((hdevice name d).mp hd).2
    have hfailed := (outcome_readDevice_eq_error_iff name).mpr ((hdrop name reason).mp hreason).2
    cases hshown.symm.trans hfailed
  case devices_ascend => exact hascend.sublist (Scan.devices_sublist _)
  case drops_ascend => exact hascend.sublist (Scan.drops_sublist _)
  case key_eq => exact fun e he => ((hdevice e.1 e.2).mp he).2.name_eq.symm
  case mem_devices => exact hdevice
  case mem_drops => exact hdrop

/-- The character that no path of a call may have. -/
abbrev nullCharacter : Char := Char.ofNat 0

theorem access_ne_nullCharacter {α : Type} {followLast : Bool} {path : Path}
    {call : Place → FileNode → Except FileErrno α} (hnull : nullCharacter ∉ path.text.toList) :
    t.access followLast path call ≠ .error .nullCharacter := by
  intro h
  rw [FileTree.access, if_neg (by simpa using hnull)] at h
  obtain ⟨errno, -, herrno⟩ := mapError_eq_error_iff.mp h
  cases herrno

/-- A test that answers yes was made on a path that can be asked for. -/
theorem not_mem_of_orAbsent {followLast : Bool} {path : Path}
    {call : Place → FileNode → Except FileErrno Bool}
    (h : FileTree.orAbsent (t.access followLast path call) = .ok true) :
    nullCharacter ∉ path.text.toList := by
  intro hnull
  rw [FileTree.access, if_pos (by simpa using hnull)] at h
  cases h

theorem list?_ne_nullCharacter (hexists : t.exists? root = .ok true) :
    t.list? root ≠ .error .nullCharacter :=
  access_ne_nullCharacter (not_mem_of_orAbsent hexists)

/-- A scan of a directory that exists returns exactly if the directory can be listed and no entry
ends the scan early. -/
theorem returned?_eq_some_iff (hexists : t.exists? root = .ok true)
    {devices : List (String × Device)} :
    (scanClass t root).returned? = some devices ↔
      ∃ names, listClass t root = .ok (some names) ∧
        (∀ name ∈ names, (findingOf t root name).isOk = true) ∧
        (Scan.ofNames (findingOf t root) names).devices = devices := by
  simp only [← Scan.ofNames_halt_eq_none_iff]
  rw [scanClass]
  have hnone : listClass t root ≠ .ok none := by
    intro h
    rw [listClass, hexists] at h
    cases hlist : t.list? root with
    | ok listed => rw [hlist] at h; cases h
    | error fault =>
      cases fault with
      | system f => rw [hlist] at h; cases h
      | nullCharacter => exact list?_ne_nullCharacter hexists hlist
  rcases hnames : listClass t root with f | (_ | names)
  · simp [ScanOutcome.returned?]
  · exact absurd hnames hnone
  · simp [ScanOutcome.returned?]

end Partition

/-! ### Scanners -/

namespace Scanner

variable {s : Scanner} {t : FileTree} {names : List String}

theorem isSome_scan_iff (hnames : listClass t s.root = .ok (some names)) :
    (s.scan t).1.isSome = true ↔ ∀ name ∈ names, (findingOf t s.root name).isOk = true := by
  rw [← Scan.ofNames_halt_eq_none_iff, Scanner.scan, scanClass, hnames]
  cases hhalt : (Scan.ofNames (findingOf t s.root) names).halt <;>
    simp [ScanOutcome.returned?, hhalt]

theorem scan_of_listClass (hnames : listClass t s.root = .ok (some names))
    (hok : ∀ name ∈ names, (findingOf t s.root name).isOk = true) :
    s.scan t = (some (Scan.ofNames (findingOf t s.root) names).devices,
      { s with lastErrors := (Scan.ofNames (findingOf t s.root) names).drops }) := by
  rw [Scanner.scan, scanClass, hnames]
  simp [ScanOutcome.returned?, ScanOutcome.drops, Scan.ofNames_halt_eq_none hok]

/-- A scanner after scans of states of the file system. -/
def after (s : Scanner) (history : List FileTree) : Scanner :=
  history.foldl (fun s t => (s.scan t).2) s

theorem root_after (s : Scanner) (history : List FileTree) : (s.after history).root = s.root := by
  induction history generalizing s with
  | nil => rfl
  | cons t rest ih => exact ih (s.scan t).2

/-- **A scan that returns partitions the class directory**, whatever was scanned before, and gives
the same for the same entries listed in another order. -/
theorem scan_partitions (s : Scanner) (history : List FileTree) {t : FileTree}
    {devices : List (String × Device)} (hexists : t.exists? s.root = .ok true)
    (hreturned : ((s.after history).scan t).1 = some devices) :
    IsPartition t s.root devices ((s.after history).scan t).2.lastErrors ∧
      ∀ t', t.SameEntries t' → (s.after history).scan t' = (s.after history).scan t := by
  have hroot : (s.after history).root = s.root := root_after s history
  constructor
  · rw [← hroot] at hexists
    obtain ⟨names, hnames, hok, rfl⟩ := (returned?_eq_some_iff hexists).mp hreturned
    rw [scan_of_listClass hnames hok, ← hroot]
    exact isPartition_of_listClass hnames hok
  · intro t' hsame
    rw [scan, scan, hsame.scanClass_eq]

/-- A device, one that shows no identifier, and a file, after a scan that left out another one. -/
theorem scan_partitions_of_three :
    let s : Scanner := { root := .ofText "class" }
    let tree (changes : List FileChange) := (FileTree.empty ["w"]).applyAll changes
    let before := tree [.directory "class/d"]
    let t := tree (.file "class/c" [] :: .directory "class/b" :: deviceFiles "a" "U1")
    let run := (s.after [before]).scan t
    ∃ devices, run.1 = some devices ∧ devices.map (·.1) = ["a"] ∧
      run.2.lastErrors.map (·.1) = ["b"] ∧
      IsPartition t s.root devices run.2.lastErrors := by
  intro s tree before t run
  have hexists : t.exists? s.root = .ok true := by decide +kernel
  have hlist : t.list? s.root = .ok ["c", "b", "a"] := by decide +kernel
  have hnames : listClass t s.root = .ok (some ["a", "b", "c"]) :=
    listClass_eq_of_perm _ hexists hlist (by decide) (by decide)
  have hok : ∀ name ∈ ["a", "b", "c"], (findingOf t s.root name).isOk = true := by decide +kernel
  have hrun := scan_of_listClass (s := s.after [before]) hnames hok
  have hreturned := congrArg Prod.fst hrun
  refine ⟨_, hreturned, by decide +kernel, ?_, (scan_partitions s [before] hexists hreturned).1⟩
  rw [show run = _ from hrun]
  decide +kernel

end Scanner

end SliceAgent
