import SliceAgent.Proofs.Contents
import SliceAgent.Proofs.Scan
import Mathlib.Data.List.Nodup

/-!
# The store follows the scans

Cycles over a store in memory that nobody else writes, each in its own state of the file system:
after them the store holds a slice of every device that some scan returned, built from the device as
the last scan that returned it found it (`MemoryStore.Reflects`). Devices that vanish are kept, and
so is everything when a scan fails.

One cycle carries this from the scans before it to those that include its own
(`converges_runCycle`), and it tells what the counts of the cycle are: it creates the slices of the
devices that no scan before it returned and updates the others.
-/

namespace SliceAgent

variable {σ : Type}

/-! ### What scans have returned -/

/-- The devices that a scan returns; none if it fails. -/
def ScanReport.found (scan : ScanReport) : List Device :=
  match scan.result with
  | .devices devices => devices.map (·.2)
  | _ => []

theorem ScanReport.found_of_devices {scan : ScanReport} {devices : List (String × Device)}
    (h : scan.result = .devices devices) : scan.found = devices.map (·.2) := by
  rw [found, h]

/-- Whether some scan returned a device of a name. -/
def wasSeen (scans : List ScanReport) (name : String) : Bool :=
  scans.any fun scan => scan.found.any (·.name = name)

/-- The device of a name as the last scan that returned one found it. -/
def lastSeen (scans : List ScanReport) (name : String) : Option Device :=
  scans.reverse.findSome? fun scan => scan.found.find? (·.name = name)

theorem isSome_lastSeen (scans : List ScanReport) (name : String) :
    (lastSeen scans name).isSome = wasSeen scans name := by
  rw [Bool.eq_iff_iff, lastSeen, wasSeen, List.findSome?_isSome_iff, List.any_eq_true]
  simp only [List.mem_reverse, List.find?_isSome, List.any_eq_true]

theorem lastSeen_concat (scans : List ScanReport) (scan : ScanReport) (name : String) :
    lastSeen (scans ++ [scan]) name =
      (scan.found.find? (·.name = name)).or (lastSeen scans name) := by
  rw [lastSeen, List.reverse_concat, List.findSome?_cons, lastSeen]
  cases scan.found.find? (·.name = name) <;> rfl

/-- Of devices with distinct names the one of a name is found. -/
theorem find?_name_eq_some {devices : List Device} (h : (devices.map (·.name)).Nodup)
    {name : String} {d : Device} :
    devices.find? (·.name = name) = some d ↔ d ∈ devices ∧ d.name = name := by
  refine ⟨fun hfound => ⟨List.mem_of_find?_eq_some hfound, ?_⟩, ?_⟩
  · simpa using List.find?_some hfound
  rintro ⟨hd, rfl⟩
  cases hfound : devices.find? (·.name = d.name) with
  | none => simpa using List.find?_eq_none.mp hfound d hd
  | some d' =>
    have hname : d'.name = d.name := by simpa using List.find?_some hfound
    have hd' : d' ∈ devices := List.mem_of_find?_eq_some hfound
    exact congrArg some (List.inj_on_of_nodup_map h hd' hd hname)

/-- Devices with distinct names are found alike in any order. -/
theorem find?_name_of_perm {devices devices' : List Device} (hperm : devices.Perm devices')
    (h : (devices.map (·.name)).Nodup) (name : String) :
    devices.find? (·.name = name) = devices'.find? (·.name = name) := by
  refine Option.ext fun d => ?_
  rw [find?_name_eq_some h, find?_name_eq_some ((hperm.map _).nodup_iff.mp h), hperm.mem_iff]

/-! ### What the store holds -/

/-- The store holds what the last scans that returned each device found. -/
structure MemoryStore.Reflects (store : MemoryStore) (id : Identity) (scans : List ScanReport) :
    Prop where
  /-- The names are those of the slices of all devices that some scan returned. -/
  mem_names : ∀ n, n ∈ store.names ↔ ∃ scan ∈ scans, ∃ d ∈ scan.found, n = id.sliceKey d.name
  nodup_names : store.names.Nodup
  /-- What is held, versions apart, is the slice of the device as it was last seen. -/
  held : ∀ name, store.held? (id.sliceKey name) =
    (lastSeen scans name).map (·.slice id.driver id.node)

namespace MemoryStore

variable {store : MemoryStore} {id : Identity} {scans : List ScanReport} {scan : ScanReport}
  {devices : List (String × Device)}

theorem reflects_empty (id : Identity) : Reflects {} id [] :=
  ⟨by simp [names], by simp [names], fun _ => rfl⟩

/-- A scan that returns nothing changes nothing. -/
theorem Reflects.concat_of_found_eq_nil (h : store.Reflects id scans) (hscan : scan.found = []) :
    store.Reflects id (scans ++ [scan]) where
  mem_names n := by simpa [or_and_right, exists_or, hscan] using h.mem_names n
  nodup_names := h.nodup_names
  held name := by rw [lastSeen_concat, hscan, h.held]; rfl

/-- After the devices of a scan were written, the store reflects that scan, too. -/
theorem Reflects.concat_afterDevices (h : store.Reflects id scans)
    (hscan : scan.result = .devices devices) (hdevices : IsKeyedByName devices) :
    (store.afterDevices id (inKeyOrder devices)).Reflects id (scans ++ [scan]) where
  mem_names n := by
    rw [mem_names_afterDevices, h.mem_names]
    simp only [List.mem_append, List.mem_singleton, or_and_right, exists_or, exists_eq_left,
      ScanReport.found_of_devices hscan, (inKeyOrder_perm devices).mem_iff]
  nodup_names := nodup_names_afterDevices h.nodup_names _
  held name := by
    have hperm : (inKeyOrder devices).reverse.Perm scan.found := by
      rw [ScanReport.found_of_devices hscan]
      exact (List.reverse_perm _).trans (inKeyOrder_perm devices)
    have hnodup : ((inKeyOrder devices).reverse.map (·.name)).Nodup := by
      rw [List.map_reverse, List.nodup_reverse]
      exact hdevices.nodup_names
    rw [held?_afterDevices, lastSeen_concat, find?_name_of_perm hperm hnodup, h.held,
      Option.map_or]

/-- Of what was seen last nothing is new to the store. -/
theorem Reflects.held_of_getLast (h : store.Reflects id scans) (hlast : scans.getLast? = some scan)
    (hscan : scan.result = .devices devices) (hdevices : IsKeyedByName devices) :
    ∀ d ∈ inKeyOrder devices,
      store.held? (id.sliceKey d.name) = some (d.slice id.driver id.node) := by
  intro d hd
  obtain ⟨earlier, rfl⟩ := List.getLast?_eq_some_iff.mp hlast
  have hfind : scan.found.find? (·.name = d.name) = some d := by
    rw [ScanReport.found_of_devices hscan,
      ← find?_name_of_perm (inKeyOrder_perm devices) hdevices.nodup_names]
    exact (find?_name_eq_some hdevices.nodup_names).mpr ⟨hd, rfl⟩
  rw [h.held, lastSeen_concat, hfind]
  rfl

end MemoryStore

/-! ### Cycles in changing states -/

/-- Runs cycles that take the given times, each on what `scan` reports of the state that the file
system is in and on what the cycles before it left. -/
def runSeries (store : Store σ) (id : Identity) (scan : FileTree → ScanReport) :
    Progress → σ → List (FileTree × Binary64) → σ × List (CycleReport σ)
  | _, s, [] => (s, [])
  | p, s, (t, duration) :: rest =>
    let report := runCycle store id duration p s (scan t)
    let (s', reports) := runSeries store id scan report.progress report.store rest
    (s', report :: reports)

/-- What it means for a cycle on a state, and on the store that cycles in earlier states left, to
make the store follow the scans. -/
structure CycleReport.Converges (id : Identity) (scan : FileTree → ScanReport)
    (earlier : List FileTree) (t : FileTree) (before : MemoryStore)
    (report : CycleReport MemoryStore) : Prop where
  reflects : report.store.Reflects id ((earlier ++ [t]).map scan)
  /-- The slices of devices that no scan before it returned are created, and the others updated. -/
  complete : ∀ devices, (scan t).result = .devices devices → report.ending = .complete
    { devices := devices.length
      created := devices.countP fun e => !wasSeen (earlier.map scan) e.2.name
      updated := devices.countP fun e => wasSeen (earlier.map scan) e.2.name
      failed := 0 }
  failed : ∀ message, (scan t).result = .failed message →
    report.ending = .failed message ∧ report.store = before
  /-- On a state that has not changed since the cycle before, nothing is created, and nothing but
  versions changes. -/
  unchanged : earlier.getLast? = some t →
    report.store.contents = before.contents ∧
      ∀ tally, report.ending = .complete tally → tally.created = 0

/-- A scan that does not crash, and returns devices under their own names. -/
def ScanReport.IsRegular (scan : ScanReport) : Prop :=
  (∀ crash, scan.result ≠ .crashed crash) ∧
    ∀ devices, scan.result = .devices devices → IsKeyedByName devices

section Series

variable {id : Identity} {scan : FileTree → ScanReport} {earlier : List FileTree} {t : FileTree}
  {before : MemoryStore}

/-- **One cycle** on a store that reflects the scans before it. -/
theorem converges_runCycle (hbefore : before.Reflects id (earlier.map scan))
    (hregular : (scan t).IsRegular) (duration : Binary64) (p : Progress) :
    (runCycle MemoryStore.asStore id duration p before (scan t)).Converges id scan earlier t
      before := by
  obtain ⟨hcrash, hkeyed⟩ := hregular
  cases hscan : (scan t).result with
  | crashed crash => exact absurd hscan (hcrash crash)
  | failed message =>
    have hend := runCycle_endsWithScan hscan MemoryStore.asStore id duration p before
    have hstore := hend.untried.2
    constructor
    case reflects =>
      rw [hstore, List.map_append]
      exact hbefore.concat_of_found_eq_nil (by rw [ScanReport.found, hscan])
    case complete => intro devices hdevices; rw [hscan] at hdevices; cases hdevices
    case failed =>
      intro message' hmessage
      rw [hscan] at hmessage
      obtain rfl := ScanResult.failed.inj hmessage
      exact ⟨hend.ending, hstore⟩
    case unchanged =>
      refine fun _ => ⟨by rw [hstore], fun tally htally => ?_⟩
      rw [hend.ending] at htally
      cases htally
  | devices devices =>
    have hdevices := hkeyed devices hscan
    obtain ⟨hstore, hending⟩ :=
      MemoryStore.runCycle_asStore hscan hdevices id duration p before
    have hheld (name : String) : (before.held? (id.sliceKey name)).isSome =
        wasSeen (earlier.map scan) name := by
      rw [hbefore.held, Option.isSome_map, isSome_lastSeen]
    constructor
    case reflects =>
      rw [hstore, List.map_append]
      exact hbefore.concat_afterDevices hscan hdevices
    case complete =>
      intro devices' hdevices'
      rw [hscan] at hdevices'
      obtain rfl := ScanResult.devices.inj hdevices'
      simp only [hending, ← Option.not_isSome, hheld]
    case failed => intro message hmessage; rw [hscan] at hmessage; cases hmessage
    case unchanged =>
      intro hlast
      have hlast' : (earlier.map scan).getLast? = some (scan t) := by
        rw [List.getLast?_map, hlast]
        rfl
      have hsame := hbefore.held_of_getLast hlast' hscan hdevices
      refine ⟨by rw [hstore, MemoryStore.contents_afterDevices_of_held hsame], ?_⟩
      intro tally htally
      rw [hending] at htally
      obtain rfl := CycleEnd.complete.inj htally
      refine List.countP_eq_zero.mpr fun e he => ?_
      have hmem : e.2 ∈ inKeyOrder devices :=
        (inKeyOrder_perm devices).mem_iff.mpr (List.mem_map_of_mem he)
      simp [hsame e.2 hmem]

/-- **Any number of cycles** after those in earlier states: each makes the store follow the scans,
and so does the whole series. -/
theorem converges_runSeries (states : List (FileTree × Binary64))
    (hregular : ∀ state ∈ states, (scan state.1).IsRegular)
    (hbefore : before.Reflects id (earlier.map scan)) (p : Progress) :
    let run := runSeries MemoryStore.asStore id scan p before
    (run states).1.Reflects id ((earlier ++ states.map (·.1)).map scan) ∧
      (run states).2.length = states.length ∧
      ∀ (i : Nat) (state : FileTree × Binary64) (report : CycleReport MemoryStore),
        states[i]? = some state → (run states).2[i]? = some report →
        report.Converges id scan (earlier ++ (states.take i).map (·.1)) state.1
          (run (states.take i)).1 := by
  induction states generalizing earlier before p with
  | nil => exact ⟨by simpa [runSeries] using hbefore, rfl, by simp⟩
  | cons state rest ih =>
    obtain ⟨t, duration⟩ := state
    have hfirst := converges_runCycle hbefore (hregular (t, duration) (by simp)) duration p
    obtain ⟨hreflects, hlength, hcycles⟩ := ih
      (fun state hstate => hregular state (List.mem_cons_of_mem _ hstate)) hfirst.reflects
      (runCycle MemoryStore.asStore id duration p before (scan t)).progress
    refine ⟨?_, congrArg Nat.succ hlength, fun i state report hstate hreport => ?_⟩
    · rw [List.map_cons, List.append_cons]
      exact hreflects
    · cases i with
      | zero =>
        obtain rfl : (t, duration) = state := by simpa using hstate
        obtain rfl : _ = report := by simpa [runSeries] using hreport
        rw [List.take_zero, List.map_nil, List.append_nil]
        exact hfirst
      | succ i =>
        rw [List.take_succ_cons, List.map_cons, List.append_cons]
        exact hcycles i state report hstate hreport

end Series

/-- What scans of a class directory report. -/
def scannerAt (root : Path) (node : String) (t : FileTree) : ScanReport :=
  .ofOutcome root node (scanClass t root)

/-- **The store follows the scans.** Let cycles be run in any states of the file system, over a
store in memory that is empty at first, and let each scan return or fail. Then every cycle makes the
store follow the scans up to its own, with no slice refused, and so do all cycles together. -/
theorem store_follows_scans (id : Identity) (root : Path) (node : String) (p : Progress)
    (states : List (FileTree × Binary64))
    (h : ∀ state ∈ states, ∀ crash, (scannerAt root node state.1).result ≠ .crashed crash) :
    let run := runSeries MemoryStore.asStore id (scannerAt root node) p {}
    (run states).1.Reflects id (states.map fun state => scannerAt root node state.1) ∧
      (run states).2.length = states.length ∧
      ∀ (i : Nat) (state : FileTree × Binary64) (report : CycleReport MemoryStore),
        states[i]? = some state → (run states).2[i]? = some report →
        report.Converges id (scannerAt root node) ((states.take i).map (·.1)) state.1
          (run (states.take i)).1 := by
  have hregular : ∀ state ∈ states, (scannerAt root node state.1).IsRegular :=
    fun state hstate => ⟨h state hstate, fun _ => isKeyedByName_of_scanClass⟩
  have hempty : ({} : MemoryStore).Reflects id (([] : List FileTree).map (scannerAt root node)) :=
    MemoryStore.reflects_empty id
  obtain ⟨hreflects, hcycles⟩ :=
    converges_runSeries states hregular hempty p
  rw [List.nil_append, List.map_map] at hreflects
  exact ⟨hreflects, hcycles⟩

/-- The files that show a device in a class directory. -/
def deviceFiles (name uuid : String) : List FileChange :=
  [.file ("class/" ++ name ++ "/uuid") uuid.toUTF8.toList,
   .file ("class/" ++ name ++ "/memory_size") "1024".toUTF8.toList,
   .file "bus/0000:11:00.0/numa_node" "0".toUTF8.toList,
   .link ("class/" ++ name ++ "/device") "../../bus/0000:11:00.0"]

/-- A device is found, then the class directory is none, and then the device has changed and there
is another one, in two cycles. -/
theorem store_follows_scans_of_changes :
    let id : Identity := ⟨"mock-accel.example.com", "node-1"⟩
    let root : Path := .ofText "class"
    let tree (changes : List FileChange) := (FileTree.empty ["w"]).applyAll changes
    let one := tree (deviceFiles "a" "U1")
    let broken := tree [.file "class" []]
    let two := tree (deviceFiles "a" "U2" ++ deviceFiles "b" "U3")
    let states := [one, broken, two, two].map fun t => (t, Binary64.ofInt 1)
    let scan := scannerAt root "node-1"
    let run := runSeries MemoryStore.asStore id scan {} {}
    (∀ state ∈ states, ∀ crash, (scan state.1).result ≠ .crashed crash) ∧
      (run states).1.Reflects id (states.map fun state => scan state.1) ∧
      ∃ report, (run states).2[3]? = some report ∧
        report.Converges id scan [one, broken, two] two (run (states.take 3)).1 := by
  intro id root tree one broken two states scan run
  have hone : ∀ crash, (scan one).result ≠ .crashed crash := by
    refine scanClass_not_crashed fun names hnames name hname => ?_
    have hlist : one.list? root = .ok ["a"] := by decide +kernel
    obtain rfl := Except.ok.inj (hlist.symm.trans hnames)
    obtain rfl := List.mem_singleton.mp hname
    decide +kernel
  have hbroken : ∀ crash, (scan broken).result ≠ .crashed crash := by
    refine scanClass_not_crashed fun names hnames => ?_
    have hlist : broken.list? root = .error (.system ⟨.notDirectory, "class"⟩) := by decide +kernel
    cases hlist.symm.trans hnames
  have htwo : ∀ crash, (scan two).result ≠ .crashed crash := by
    refine scanClass_not_crashed fun names hnames name hname => ?_
    have hlist : two.list? root = .ok ["a", "b"] := by decide +kernel
    obtain rfl := Except.ok.inj (hlist.symm.trans hnames)
    obtain rfl | rfl : name = "a" ∨ name = "b" := by simpa using hname
    · decide +kernel
    · decide +kernel
  have hscans : ∀ state ∈ states, ∀ crash, (scan state.1).result ≠ .crashed crash := by
    intro state hstate
    obtain ⟨t, ht, rfl⟩ := List.mem_map.mp hstate
    obtain rfl | rfl | rfl : t = one ∨ t = broken ∨ t = two := by simpa using ht
    · exact hone
    · exact hbroken
    · exact htwo
  obtain ⟨hreflects, hlength, hcycles⟩ := store_follows_scans id root "node-1" {} states hscans
  obtain ⟨report, hreport⟩ : ∃ report, (run states).2[3]? = some report :=
    ⟨_, List.getElem?_eq_getElem (by rw [hlength]; decide)⟩
  exact ⟨hscans, hreflects, report, hreport, hcycles 3 (two, .ofInt 1) report rfl hreport⟩

end SliceAgent
