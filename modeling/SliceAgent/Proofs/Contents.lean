import SliceAgent.Store.Memory
import SliceAgent.Proofs.Cycle
import SliceAgent.Proofs.MemoryStore

/-!
# What cycles keep in memory

A slice that was built has a text for a name and no version, so the store in memory always takes it:
it creates the slice if it holds none of that name and else updates it (`upsert_slice`). What the
store holds under a name, its version left out, is `MemoryStore.held?`.

A cycle builds one slice of each name. So how each of its writes ends is told by what the store held
before the cycle, and after it the store holds the slice of every device of the scan and whatever
else it held (`runCycle_asStore`, `held?_afterDevices`).
-/

namespace SliceAgent

/-- A slice without its version. -/
def Slice.unversioned (slice : Slice) : Slice :=
  { slice with version := .null }

/-- The name that the slice of a device is stored under. -/
def Identity.sliceKey (id : Identity) (device : String) : Json :=
  .text (sliceName id.driver id.node device)

namespace Json

/-- Only a text counts as the same as that text. -/
theorem same_text_iff {a : Json} {s : String} : a.same (.text s) = true ↔ a = .text s := by
  rw [same_iff, normal_text]
  constructor
  · intro h
    cases a with
    | text s' => rwa [normal_text] at h
    | float x =>
      rw [normal] at h
      split at h <;> cases h
    | _ => rw [normal] at h; cases h
  · rintro rfl
    exact normal_text s

end Json

theorem Identity.same_sliceKey (id : Identity) (a b : String) :
    (id.sliceKey a).same (id.sliceKey b) = decide (a = b) := by
  rw [sliceKey, sliceKey, Json.same_text]
  exact decide_eq_decide.mpr sliceName_inj

namespace MemoryStore

/-- The store in memory as a cycle uses it. -/
def asStore : Store MemoryStore where
  upsert := upsert
  records := memoryRecords

/-- What is stored under each name, versions left out. -/
def contents (store : MemoryStore) : List (Json × Slice) :=
  store.slices.map fun e => (e.1, e.2.unversioned)

/-- What is stored under a name, its version left out. -/
def held? (store : MemoryStore) (name : Json) : Option Slice :=
  (store.find? name).map (·.unversioned)

variable {store : MemoryStore} {slice : Slice} {id : Identity} {d : Device}

theorem held?_eq (store : MemoryStore) (name : Json) :
    store.held? name = (store.contents.find? fun e => e.1.same name).map (·.2) := by
  rw [held?, find?, contents, List.find?_map, Option.map_map, Option.map_map]
  rfl

theorem held?_congr {store' : MemoryStore} (h : store.contents = store'.contents) (name : Json) :
    store.held? name = store'.held? name := by
  rw [held?_eq, held?_eq, h]

/-! ### One write -/

theorem held?_write (store : MemoryStore) (slice : Slice) (n : Json) :
    (store.write slice).1.held? n =
      if slice.name.same n then some slice.unversioned else store.held? n := by
  rw [held?, find?_write, apply_ite (Option.map _)]
  rfl

/-- Putting a slice under a name adds the name if none that counts as the same is there. -/
theorem keys_insert (name : Json) (slice : Slice) (slices : List (Json × Slice)) :
    (insert name slice slices).map (·.1) =
      if (slices.map (·.1)).any (·.same name) then slices.map (·.1)
      else slices.map (·.1) ++ [name] := by
  induction slices with
  | nil => rfl
  | cons e rest ih =>
    obtain ⟨n, held⟩ := e
    rw [insert]
    cases hsame : n.same name with
    | true => simp [hsame]
    | false =>
      simp only [Bool.false_eq_true, if_false, List.map_cons, ih, List.any_cons, hsame,
        Bool.false_or]
      split <;> rfl

theorem names_write {s : String} (h : slice.name = .text s) :
    (store.write slice).1.names =
      if slice.name ∈ store.names then store.names else store.names ++ [slice.name] := by
  have hany : store.names.any (·.same slice.name) = true ↔ slice.name ∈ store.names := by
    simp [h, Json.same_text_iff]
  rw [names, write]
  simp only [keys_insert, ← hany]
  rfl

/-- Putting a slice where an equal one is changes nothing but versions. -/
theorem map_insert_of_held {name : Json} {k : Nat} (slices : List (Json × Slice))
    (h : (find? ⟨slices, k⟩ name).map (·.unversioned) = some slice.unversioned) :
    (insert name slice slices).map (fun e => (e.1, e.2.unversioned)) =
      slices.map fun e => (e.1, e.2.unversioned) := by
  induction slices with
  | nil => cases h
  | cons e rest ih =>
    obtain ⟨n, held⟩ := e
    rw [insert]
    cases hsame : n.same name with
    | true =>
      have hheld : held.unversioned = slice.unversioned := by simpa [find?, hsame] using h
      simp [hheld]
    | false =>
      have hrest : (find? ⟨rest, k⟩ name).map (·.unversioned) = some slice.unversioned := by
        simpa [find?, hsame] using h
      simpa using ih hrest

theorem contents_write_of_held (h : store.held? slice.name = some slice.unversioned) :
    (store.write slice).1.contents = store.contents :=
  map_insert_of_held (k := store.writes) store.slices h

/-! ### Slices of devices -/

/-- How storing the slice of a device ends. -/
def outcomeOf (store : MemoryStore) (id : Identity) (device : String) : UpsertOutcome :=
  if (store.held? (id.sliceKey device)).isSome then .updated else .created

/-- The slice of a device is created or updated, and never refused. -/
theorem upsert_slice (store : MemoryStore) (id : Identity) (d : Device) :
    let slice := d.slice id.driver id.node
    store.upsert slice =
      ((store.write slice).1, ⟨(store.write slice).2, .ok (store.outcomeOf id d.name)⟩) := by
  intro slice
  rw [outcomeOf, held?, Option.isSome_map]
  cases hfound : store.find? slice.name with
  | none =>
    rw [upsert_of_absent rfl hfound]
    change store.find? (id.sliceKey d.name) = none at hfound
    rw [hfound]
    rfl
  | some stored =>
    rw [upsert_of_accepts rfl hfound rfl]
    change store.find? (id.sliceKey d.name) = some stored at hfound
    rw [hfound]
    rfl

/-! ### Slices of several devices -/

/-- The store after the slices of devices were written in order. -/
def afterDevices (store : MemoryStore) (id : Identity) (order : List Device) : MemoryStore :=
  asStore.after store (order.map (·.slice id.driver id.node))

theorem afterDevices_cons (store : MemoryStore) (id : Identity) (d : Device)
    (rest : List Device) :
    store.afterDevices id (d :: rest) =
      (store.write (d.slice id.driver id.node)).1.afterDevices id rest := by
  rw [afterDevices, List.map_cons, Store.after_cons]
  change asStore.after (store.upsert _).1 _ = _
  rw [upsert_slice]
  rfl

/-- After the write of a device its slice is held, and all others are as before. -/
theorem held?_write_slice (store : MemoryStore) (id : Identity) (d : Device) (name : String) :
    (store.write (d.slice id.driver id.node)).1.held? (id.sliceKey name) =
      if d.name = name then some (d.slice id.driver id.node)
      else store.held? (id.sliceKey name) := by
  have hsame : (d.slice id.driver id.node).name.same (id.sliceKey name) = decide (d.name = name) :=
    id.same_sliceKey d.name name
  simp only [held?_write, hsame, decide_eq_true_eq]
  rfl

/-- **What is held after writes**: the slice of the last device of a name, or what was held if there
was none. -/
theorem held?_afterDevices (store : MemoryStore) (id : Identity) (order : List Device)
    (name : String) :
    (store.afterDevices id order).held? (id.sliceKey name) =
      ((order.reverse.find? (·.name = name)).map (·.slice id.driver id.node)).or
        (store.held? (id.sliceKey name)) := by
  induction order generalizing store with
  | nil => rfl
  | cons d rest ih =>
    rw [afterDevices_cons, ih, held?_write_slice, List.reverse_cons, List.find?_append]
    cases hrest : rest.reverse.find? (·.name = name) with
    | some d' => simp
    | none => by_cases hd : d.name = name <;> simp [hd]

theorem mem_names_afterDevices {order : List Device} {n : Json} :
    n ∈ (store.afterDevices id order).names ↔
      n ∈ store.names ∨ ∃ d ∈ order, n = id.sliceKey d.name := by
  induction order generalizing store with
  | nil => simp [afterDevices]
  | cons d rest ih =>
    have hwrite : n ∈ (store.write (d.slice id.driver id.node)).1.names ↔
        n ∈ store.names ∨ n = id.sliceKey d.name := by
      rw [names_write rfl]
      split
      · rename_i hmem
        refine ⟨.inl, ?_⟩
        rintro (h | rfl)
        · exact h
        · exact hmem
      · simp [Device.slice, Identity.sliceKey]
    rw [afterDevices_cons, ih, hwrite]
    simp only [List.mem_cons, exists_eq_or_imp, or_assoc]

theorem nodup_names_afterDevices (h : store.names.Nodup) (order : List Device) :
    (store.afterDevices id order).names.Nodup := by
  induction order generalizing store with
  | nil => exact h
  | cons d rest ih =>
    rw [afterDevices_cons]
    refine ih ?_
    rw [names_write rfl]
    split
    · exact h
    · rename_i hmem
      refine List.nodup_append.mpr ⟨h, by simp, fun a ha b hb hab => hmem ?_⟩
      rw [← List.mem_singleton.mp hb, ← hab]
      exact ha

/-- Writing what is held already changes nothing but versions. -/
theorem contents_afterDevices_of_held {order : List Device}
    (h : ∀ d ∈ order, store.held? (id.sliceKey d.name) = some (d.slice id.driver id.node)) :
    (store.afterDevices id order).contents = store.contents := by
  induction order generalizing store with
  | nil => rfl
  | cons d rest ih =>
    have hfirst : (store.write (d.slice id.driver id.node)).1.contents = store.contents :=
      contents_write_of_held (h d (by simp))
    rw [afterDevices_cons, ih, hfirst]
    intro d' hd'
    rw [held?_congr hfirst]
    exact h d' (List.mem_cons_of_mem _ hd')

/-! ### Cycles -/

theorem isOrderly_asStore (id : Identity) (order : List Device) :
    asStore.IsOrderly (order.map (·.slice id.driver id.node)) := by
  intro store slice hslice crash
  obtain ⟨d, -, rfl⟩ := List.mem_map.mp hslice
  change (store.upsert _).2.result ≠ _
  rw [upsert_slice]
  simp

/-- Of devices with distinct names, whether each is created or updated is told by what was held
before all of them. -/
theorem results_publish {order : List Device} (h : (order.map (·.name)).Nodup)
    (store : MemoryStore) :
    (publish asStore store (order.map (·.slice id.driver id.node))).2.map (·.result) =
      order.map fun d => .ok (store.outcomeOf id d.name) := by
  induction order generalizing store with
  | nil => rfl
  | cons d rest ih =>
    obtain ⟨hd, hrest⟩ := List.nodup_cons.mp h
    have hfirst : asStore.upsert store (d.slice id.driver id.node) = _ := upsert_slice store id d
    have hcounted : (asStore.attempt store (d.slice id.driver id.node)).IsCounted :=
      isOrderly_asStore id [d] store _ (by simp)
    rw [List.map_cons, publish_cons_of_isCounted _ hcounted, List.map_cons, ih hrest,
      Store.attempt, hfirst, List.map_cons]
    congr 1
    refine List.map_congr_left fun d' hd' => ?_
    have hne : d.name ≠ d'.name := fun hname => hd (List.mem_map.mpr ⟨d', hd', hname.symm⟩)
    simp only [outcomeOf, held?_write_slice, if_neg hne]

/-- The attempts that ended in one way, counted by the devices. -/
theorem countP_isOutcome_publish {order : List Device} (h : (order.map (·.name)).Nodup)
    (store : MemoryStore) (o : UpsertOutcome) :
    (publish asStore store (order.map (·.slice id.driver id.node))).2.countP (·.isOutcome o) =
      order.countP fun d => store.outcomeOf id d.name = o := by
  set attempts := (publish asStore store (order.map (·.slice id.driver id.node))).2 with hattempts
  calc attempts.countP (·.isOutcome o)
    _ = attempts.countP ((fun r => decide (r.toOption = some o)) ∘ (·.result)) :=
        List.countP_congr fun a _ => by simpa using Attempt.isOutcome_iff
    _ = (attempts.map (·.result)).countP fun r => decide (r.toOption = some o) :=
        List.countP_map.symm
    _ = order.countP fun d => store.outcomeOf id d.name = o := by
        rw [hattempts, results_publish h, List.countP_map]
        exact List.countP_congr fun d _ => by simp [Except.toOption]

theorem countP_isFailure_publish {order : List Device} (h : (order.map (·.name)).Nodup)
    (store : MemoryStore) :
    (publish asStore store (order.map (·.slice id.driver id.node))).2.countP (·.isFailure) = 0 := by
  rw [List.countP_eq_zero]
  intro a ha
  have hresult := List.mem_map_of_mem (f := Attempt.result) ha
  rw [results_publish h, List.mem_map] at hresult
  obtain ⟨d, -, hd⟩ := hresult
  simp [Attempt.isFailure, ← hd]

variable {devices : List (String × Device)} {scan : ScanReport}

/-- **A cycle over the store in memory** writes the slice of each device, creates those of which it
held none and updates the others. -/
theorem runCycle_asStore (hscan : scan.result = .devices devices)
    (hdevices : IsKeyedByName devices) (id : Identity) (duration : Binary64) (p : Progress)
    (store : MemoryStore) :
    let report := runCycle asStore id duration p store scan
    report.store = store.afterDevices id (inKeyOrder devices) ∧
      report.ending = .complete
        { devices := devices.length
          created := devices.countP fun e => (store.held? (id.sliceKey e.2.name)).isNone
          updated := devices.countP fun e => (store.held? (id.sliceKey e.2.name)).isSome
          failed := 0 } := by
  intro report
  obtain ⟨hattempts, hstore, hending, -⟩ :=
    runCycle_of_isOrderly hscan (isOrderly_asStore id (inKeyOrder devices)) duration p store
  have hcount (o : UpsertOutcome) : report.attempts.countP (·.isOutcome o) =
      devices.countP fun e => store.outcomeOf id e.2.name = o := by
    calc report.attempts.countP (·.isOutcome o)
      _ = (inKeyOrder devices).countP fun d => store.outcomeOf id d.name = o := by
          rw [hattempts, slicesInOrder, countP_isOutcome_publish hdevices.nodup_names]
      _ = (devices.map (·.2)).countP fun d => store.outcomeOf id d.name = o :=
          (inKeyOrder_perm devices).countP_eq _
      _ = devices.countP fun e => store.outcomeOf id e.2.name = o := List.countP_map
  refine ⟨hstore, hending.trans ?_⟩
  rw [Tally.ofAttempts, hcount, hcount, hattempts, slicesInOrder,
    countP_isFailure_publish hdevices.nodup_names]
  congr 2
  all_goals
    refine List.countP_congr fun e _ => ?_
    cases hheld : store.held? (id.sliceKey e.2.name) <;> simp [outcomeOf, hheld]

end MemoryStore

end SliceAgent
