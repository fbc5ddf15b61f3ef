import SliceAgent.Cycle
import SliceAgent.Proofs.Advertise
import Mathlib.Tactic.Set

/-!
# What a cycle publishes

A cycle has the slice of every device stored once, in the order of their names, and goes on whatever
becomes of each. What it does to the store is told without the loop: `Store.after` is the state
after some slices were to be stored, and `Store.attempt` what comes of one more, so that
`publish_of_isOrderly` gives each attempt on its own.

The counts of a cycle are those of its attempts, each of which ends in one of three ways
(`ofAttempts_sum`). A scan that fails leaves everything as it was but the count of cycles
(`cycle_publishes_each_once`).
-/

namespace SliceAgent

variable {σ : Type}

namespace Store

/-- The state of a store after slices were to be stored one after another, whatever became of
each. -/
def after (store : Store σ) (s : σ) (slices : List Slice) : σ :=
  slices.foldl (fun s slice => (store.upsert s slice).1) s

/-- What comes of a slice that is to be stored. -/
def attempt (store : Store σ) (s : σ) (slice : Slice) : Attempt :=
  let u := (store.upsert s slice).2
  ⟨slice, u.result, store.records u⟩

/-- A store that either stores each of some slices or refuses it, and fails in no other way. -/
def IsOrderly (store : Store σ) (slices : List Slice) : Prop :=
  ∀ s, ∀ slice ∈ slices, ∀ crash, (store.upsert s slice).2.result ≠ .error (.crash crash)

@[simp]
theorem after_nil (store : Store σ) (s : σ) : store.after s [] = s := rfl

@[simp]
theorem after_cons (store : Store σ) (s : σ) (slice : Slice) (rest : List Slice) :
    store.after s (slice :: rest) = store.after (store.upsert s slice).1 rest := rfl

end Store

/-! ### The attempts of a cycle -/

/-- An attempt that did not crash ended in a way that is counted. -/
def Attempt.IsCounted (a : Attempt) : Prop :=
  ∀ crash, a.result ≠ .error (.crash crash)

theorem publish_cons_of_isCounted {store : Store σ} {s : σ} {slice : Slice} (rest : List Slice)
    (h : (store.attempt s slice).IsCounted) :
    publish store s (slice :: rest) =
      ((publish store (store.upsert s slice).1 rest).1,
        store.attempt s slice :: (publish store (store.upsert s slice).1 rest).2) := by
  rcases hresult : (store.upsert s slice).2.result with (fault | crash) | outcome
  · simp only [publish, hresult, Store.attempt]
  · exact absurd hresult (h crash)
  · simp only [publish, hresult, Store.attempt]

/-- **Every slice is tried.** An orderly store is asked for each slice once, in order, with the
state that the ones before it left. -/
theorem publish_of_isOrderly {store : Store σ} {slices : List Slice} (h : store.IsOrderly slices)
    (s : σ) :
    (publish store s slices).1 = store.after s slices ∧
      (publish store s slices).2.map (·.slice) = slices ∧
      ∀ (i : Nat) (a : Attempt), (publish store s slices).2[i]? = some a →
        a = store.attempt (store.after s (slices.take i)) a.slice := by
  induction slices generalizing s with
  | nil => simp [publish]
  | cons slice rest ih =>
    have hfirst : (store.attempt s slice).IsCounted := h s slice (by simp)
    obtain ⟨hstore, hslices, hattempts⟩ :=
      ih (fun s slice hslice => h s slice (List.mem_cons_of_mem _ hslice))
        (store.upsert s slice).1
    rw [publish_cons_of_isCounted rest hfirst]
    refine ⟨hstore, by simpa [Store.attempt] using hslices, fun i a ha => ?_⟩
    cases i with
    | zero =>
      obtain rfl : store.attempt s slice = a := by simpa using ha
      rfl
    | succ i => exact hattempts i a (by simpa using ha)

/-- The attempts at an orderly store are all counted. -/
theorem isCounted_of_mem_publish {store : Store σ} {slices : List Slice}
    (h : store.IsOrderly slices) (s : σ) {a : Attempt} (ha : a ∈ (publish store s slices).2) :
    a.IsCounted := by
  obtain ⟨-, hslices, hattempts⟩ := publish_of_isOrderly h s
  obtain ⟨i, hi⟩ := List.mem_iff_getElem?.mp ha
  have hslice : a.slice ∈ slices := by
    rw [← hslices]
    exact List.mem_map_of_mem ha
  intro crash
  rw [hattempts i a hi]
  exact h _ _ hslice crash

/-- An attempt that crashes is the last one. -/
theorem publish_cons_of_crash {store : Store σ} {s : σ} {slice : Slice} (rest : List Slice)
    (h : ¬(store.attempt s slice).IsCounted) :
    (publish store s (slice :: rest)).2 = [store.attempt s slice] := by
  rcases hresult : (store.upsert s slice).2.result with (fault | crash) | outcome
  · exact absurd (fun _ => by simp [Store.attempt, hresult]) h
  · simp only [publish, hresult, Store.attempt]
  · exact absurd (fun _ => by simp [Store.attempt, hresult]) h

/-- **Slices are tried in order.** Whatever a store does, the slices that were tried are the first
ones, and each attempt but the last is counted. -/
theorem publish_prefix (store : Store σ) (s : σ) (slices : List Slice) :
    (publish store s slices).2.map (·.slice) <+: slices ∧
      ∀ a ∈ (publish store s slices).2.dropLast, a.IsCounted := by
  induction slices generalizing s with
  | nil => simp [publish]
  | cons slice rest ih =>
    by_cases hfirst : (store.attempt s slice).IsCounted
    · obtain ⟨hslices, hcounted⟩ := ih (store.upsert s slice).1
      rw [publish_cons_of_isCounted rest hfirst]
      refine ⟨List.cons_prefix_cons.mpr ⟨rfl, hslices⟩, ?_⟩
      cases hattempts : (publish store (store.upsert s slice).1 rest).2 with
      | nil => simp
      | cons b later =>
        rw [hattempts] at hcounted
        rw [List.dropLast_cons_cons]
        exact List.forall_mem_cons.mpr ⟨hfirst, hcounted⟩
    · rw [publish_cons_of_crash rest hfirst]
      exact ⟨List.cons_prefix_cons.mpr ⟨rfl, List.nil_prefix⟩, by simp⟩

/-! ### Counting attempts -/

/-- An attempt that is counted stored its slice in one of two ways or was refused. -/
theorem Attempt.IsCounted.cases {a : Attempt} (h : a.IsCounted) :
    a.result = .ok .created ∨ a.result = .ok .updated ∨
      ∃ fault, a.result = .error (.store fault) := by
  rcases hresult : a.result with (fault | crash) | (_ | _)
  · exact .inr (.inr ⟨fault, rfl⟩)
  · exact absurd hresult (h crash)
  · exact .inl rfl
  · exact .inr (.inl rfl)

theorem Attempt.isOutcome_iff {a : Attempt} {o : UpsertOutcome} :
    a.isOutcome o = true ↔ a.result.toOption = some o := by
  rcases hresult : a.result with fault | outcome <;>
    simp [isOutcome, hresult, Except.toOption]

/-- An attempt that is counted was refused exactly if it stored nothing. -/
theorem Attempt.IsCounted.isFailure_iff {a : Attempt} (h : a.IsCounted) :
    a.isFailure = true ↔ a.result.toOption = none := by
  rcases h.cases with ha | ha | ⟨fault, ha⟩ <;> simp [isFailure, ha, Except.toOption]

/-- An attempt that is counted is counted once. -/
theorem Attempt.IsCounted.count_eq_one {a : Attempt} (h : a.IsCounted) :
    (if a.isOutcome .created then 1 else 0) + (if a.isOutcome .updated then 1 else 0) +
      (if a.isFailure then 1 else 0) = 1 := by
  rcases h.cases with ha | ha | ⟨fault, ha⟩ <;> simp [isOutcome, isFailure, ha]

/-- The three counts of attempts that are counted add up to their number. -/
theorem ofAttempts_sum (devices : Nat) {attempts : List Attempt}
    (h : ∀ a ∈ attempts, a.IsCounted) :
    (Tally.ofAttempts devices attempts).created + (Tally.ofAttempts devices attempts).updated +
      (Tally.ofAttempts devices attempts).failed = attempts.length := by
  induction attempts with
  | nil => rfl
  | cons a rest ih =>
    have hrest := ih fun a ha => h a (List.mem_cons_of_mem _ ha)
    have hfirst := (h a (by simp)).count_eq_one
    simp only [Tally.ofAttempts, List.countP_cons, List.length_cons] at hrest ⊢
    omega

/-- A cycle whose attempts are all counted is complete. -/
theorem endOfAttempts_of_isCounted (devices : Nat) {attempts : List Attempt}
    (h : ∀ a ∈ attempts, a.IsCounted) :
    endOfAttempts devices attempts = .complete (.ofAttempts devices attempts) := by
  have hnone : attempts.findSome? (·.crash?) = none := by
    rw [List.findSome?_eq_none_iff]
    intro a ha
    rcases (h a ha).cases with hresult | hresult | ⟨fault, hresult⟩ <;>
      simp [Attempt.crash?, hresult]
  rw [endOfAttempts, hnone]

/-! ### Counting in the metrics -/

/-- Counting writes changes nothing but the counts of writes. -/
theorem foldl_recordUpsert (labels : List String) (m : Metrics) :
    labels.foldl (fun m l => m.recordUpsert l) m =
      { m with upserts := labels.foldl (fun c l => c.increment l) m.upserts } := by
  induction labels generalizing m with
  | nil => rfl
  | cons l rest ih =>
    rw [List.foldl_cons, ih, List.foldl_cons]
    rfl

theorem Progress.results_afterScan (devices : List (String × Device)) (dropped : List String)
    (p : Progress) :
    (p.afterScan devices dropped).metrics.map (·.results) = p.metrics.map (·.results) := by
  rw [afterScan, updateMetrics, Option.map_map]
  rfl

theorem Progress.results_afterAttempts (attempts : List Attempt) (p : Progress) :
    (p.afterAttempts attempts).metrics.map (·.results) = p.metrics.map (·.results) := by
  rw [afterAttempts, updateMetrics, Option.map_map]
  congr 1
  funext m
  rw [Function.comp_apply, foldl_recordUpsert]

theorem Progress.results_afterEnd_complete (tally : Tally) (duration : Binary64) (p : Progress) :
    (p.afterEnd (.complete tally) duration).metrics.map (·.results) =
      (p.metrics.map (·.results)).map (·.increment tally.result.label) := by
  change (p.metrics.map (·.recordCycle tally.result duration)).map (·.results) = _
  rw [Option.map_map, Option.map_map]
  rfl

theorem Progress.cycles_afterEnd (ending : CycleEnd) (duration : Binary64) (p : Progress) :
    (p.afterEnd ending duration).cycles = p.cycles := by
  rw [afterEnd]
  split <;> rfl

/-- A complete cycle counts as a success exactly if no slice was refused. -/
theorem Tally.label_result (t : Tally) :
    t.result.label = if t.failed = 0 then "success" else "partial" := by
  rw [result]
  split <;> rfl

/-! ### Cycles -/

namespace CycleReport

/-- What it means for a cycle to publish the devices of a scan. -/
structure PublishesEach (store : Store σ) (id : Identity) (p : Progress) (s : σ)
    (devices : List (String × Device)) (report : CycleReport σ) : Prop where
  /-- The slice of every device is stored once, in ascending order of the names, on the state that
  the ones before it left, whatever became of them. -/
  in_order : ∃ order : List Device, order.Perm (devices.map (·.2)) ∧
    order.Pairwise (fun a b => a.name < b.name) ∧
    report.attempts.map (·.slice) = order.map (·.slice id.driver id.node) ∧
    (∀ (i : Nat) (a : Attempt), report.attempts[i]? = some a →
      a = store.attempt (store.after s ((order.take i).map (·.slice id.driver id.node))) a.slice) ∧
    report.store = store.after s (order.map (·.slice id.driver id.node))
  /-- The cycle is complete, its counts are those of the attempts that ended each way, and it is
  recorded as a success exactly if no slice was refused. -/
  counts : ∃ tally, report.ending = .complete tally ∧ tally.devices = devices.length ∧
    tally.created = report.attempts.countP (fun a => a.result.toOption = some .created) ∧
    tally.updated = report.attempts.countP (fun a => a.result.toOption = some .updated) ∧
    tally.failed = report.attempts.countP (fun a => a.result.toOption = none) ∧
    tally.created + tally.updated + tally.failed = tally.devices ∧
    report.progress.metrics.map (·.results) = p.metrics.map fun m =>
      m.results.increment (if tally.failed = 0 then "success" else "partial")
  begun : report.progress.cycles = p.cycles + 1

/-- What it means for a cycle to end with its scan: no slice is tried, and only the count of cycles
and the record of how they ended go on. -/
structure EndsWithScan (p : Progress) (s : σ) (message : String) (report : CycleReport σ) :
    Prop where
  ending : report.ending = .failed message
  untried : report.attempts = [] ∧ report.store = s
  begun : report.progress.cycles = p.cycles + 1
  lastCount : report.progress.lastCount = p.lastCount
  discovered : report.progress.metrics.map (·.discovered) = p.metrics.map (·.discovered)
  scanErrors : report.progress.metrics.map (·.scanErrors) = p.metrics.map (·.scanErrors)
  upserts : report.progress.metrics.map (·.upserts) = p.metrics.map (·.upserts)
  results : report.progress.metrics.map (·.results) =
    p.metrics.map (·.results.increment "error")

end CycleReport

section RunCycle

variable {store : Store σ} {id : Identity} {scan : ScanReport} {devices : List (String × Device)}

/-- The slices of devices, in the order in which a cycle has them stored. -/
def slicesInOrder (id : Identity) (devices : List (String × Device)) : List Slice :=
  (inKeyOrder devices).map (·.slice id.driver id.node)

theorem slicesInOrder_perm (id : Identity) (devices : List (String × Device)) :
    (slicesInOrder id devices).Perm (devices.map fun e => e.2.slice id.driver id.node) := by
  have hperm := (inKeyOrder_perm devices).map (·.slice id.driver id.node)
  rwa [List.map_map] at hperm

/-- A cycle over an orderly store has the slices of all devices tried, and it is complete. -/
theorem runCycle_of_isOrderly (hscan : scan.result = .devices devices)
    (hstore : store.IsOrderly (slicesInOrder id devices)) (duration : Binary64) (p : Progress)
    (s : σ) :
    let report := runCycle store id duration p s scan
    report.attempts = (publish store s (slicesInOrder id devices)).2 ∧
      report.store = store.after s (slicesInOrder id devices) ∧
      report.ending = .complete (.ofAttempts devices.length report.attempts) ∧
      report.progress =
        (((Progress.afterScan devices scan.dropped { p with cycles := p.cycles + 1 }).afterAttempts
          report.attempts).afterEnd report.ending duration) := by
  have hslices : buildSlices id.driver id.node devices = slicesInOrder id devices :=
    buildSlices_eq _ _ _
  simp only [runCycle, hscan, hslices]
  exact ⟨trivial, (publish_of_isOrderly hstore s).1,
    endOfAttempts_of_isCounted _ fun a ha => isCounted_of_mem_publish hstore s ha, trivial⟩

/-- A cycle over an orderly store publishes each device. -/
theorem runCycle_publishesEach (hscan : scan.result = .devices devices)
    (hdevices : IsKeyedByName devices) (hstore : store.IsOrderly (slicesInOrder id devices))
    (duration : Binary64) (p : Progress) (s : σ) :
    (runCycle store id duration p s scan).PublishesEach store id p s devices := by
  set report := runCycle store id duration p s scan with hreport
  obtain ⟨hattempts, hafter, hending, hprogress⟩ :=
    runCycle_of_isOrderly hscan hstore duration p s
  rw [← hreport] at hattempts hafter hending hprogress
  obtain ⟨-, hslices, heach⟩ := publish_of_isOrderly hstore s
  rw [← hattempts] at hslices heach
  have hcounted : ∀ a ∈ report.attempts, a.IsCounted := fun a ha =>
    isCounted_of_mem_publish hstore s (hattempts ▸ ha)
  have hlength : report.attempts.length = devices.length := by
    have hlengths := congrArg List.length hslices
    rwa [List.length_map, slicesInOrder, List.length_map, (inKeyOrder_perm devices).length_eq,
      List.length_map] at hlengths
  refine ⟨⟨inKeyOrder devices, inKeyOrder_perm devices, hdevices.pairwise_name_lt, hslices,
    fun i a ha => ?_, hafter⟩, ⟨_, hending, rfl, ?_, ?_, ?_, ?_, ?_⟩, ?_⟩
  · rw [List.map_take]
    exact heach i a ha
  · exact List.countP_congr fun a _ => by simpa using Attempt.isOutcome_iff
  · exact List.countP_congr fun a _ => by simpa using Attempt.isOutcome_iff
  · exact List.countP_congr fun a ha => by simpa using (hcounted a ha).isFailure_iff
  · rw [ofAttempts_sum _ hcounted, hlength]
    rfl
  · rw [hprogress, hending, Progress.results_afterEnd_complete, Progress.results_afterAttempts,
      Progress.results_afterScan, Option.map_map, Tally.label_result]
    rfl
  · rw [hprogress, Progress.cycles_afterEnd]
    rfl

/-- A cycle counts as begun, however it ends. -/
theorem runCycle_cycles (store : Store σ) (id : Identity) (duration : Binary64) (p : Progress)
    (s : σ) (scan : ScanReport) :
    (runCycle store id duration p s scan).progress.cycles = p.cycles + 1 := by
  rw [runCycle]
  split
  · rw [Progress.cycles_afterEnd]
  · rfl
  · rw [Progress.cycles_afterEnd]
    rfl

theorem Attempt.crash?_eq_some_iff {a : Attempt} {crash : Crash} :
    a.crash? = some crash ↔ a.result = .error (.crash crash) := by
  rcases hresult : a.result with (fault | crash') | outcome <;> simp [Attempt.crash?, hresult]

/-- A cycle tries the slices in their order, and if it crashes, then with the last one tried. -/
theorem runCycle_prefix (hscan : scan.result = .devices devices) (store : Store σ) (id : Identity)
    (duration : Binary64) (p : Progress) (s : σ) :
    let report := runCycle store id duration p s scan
    report.attempts.map (·.slice) <+: slicesInOrder id devices ∧
      ∀ crash, report.ending = .crashed crash →
        ∃ a, report.attempts.getLast? = some a ∧ a.result = .error (.crash crash) := by
  have hslices : buildSlices id.driver id.node devices = slicesInOrder id devices :=
    buildSlices_eq _ _ _
  simp only [runCycle, hscan, hslices]
  obtain ⟨horder, hcounted⟩ := publish_prefix store s (slicesInOrder id devices)
  refine ⟨horder, fun crash hending => ?_⟩
  set attempts := (publish store s (slicesInOrder id devices)).2
  have hfound : attempts.findSome? (·.crash?) = some crash := by
    rw [endOfAttempts] at hending
    split at hending
    · rename_i hfound
      rwa [← CycleEnd.crashed.inj hending]
    · cases hending
  obtain ⟨a, ha, hcrash⟩ := List.exists_of_findSome?_eq_some hfound
  rw [Attempt.crash?_eq_some_iff] at hcrash
  have hlast : a ∉ attempts.dropLast := fun hmem => hcounted a hmem crash hcrash
  rcases List.eq_nil_or_concat attempts with hnil | ⟨earlier, last, hconcat⟩
  · simp [hnil] at ha
  · rw [List.concat_eq_append] at hconcat
    rw [hconcat, List.dropLast_concat] at hlast
    rw [hconcat] at ha ⊢
    obtain rfl : a = last := by simpa [hlast] using ha
    exact ⟨a, by simp, hcrash⟩

/-- A cycle whose scan fails ends with it. -/
theorem runCycle_endsWithScan {message : String} (hscan : scan.result = .failed message)
    (store : Store σ) (id : Identity) (duration : Binary64) (p : Progress) (s : σ) :
    (runCycle store id duration p s scan).EndsWithScan p s message := by
  have hprogress : (runCycle store id duration p s scan).progress =
      Progress.updateMetrics (·.recordCycle .error duration) { p with cycles := p.cycles + 1 } := by
    rw [runCycle, hscan]
    rfl
  constructor
  case ending => rw [runCycle, hscan]
  case untried => exact ⟨by rw [runCycle, hscan], by rw [runCycle, hscan]⟩
  case begun => rw [hprogress]; rfl
  case lastCount => rw [hprogress]; rfl
  all_goals
    rw [hprogress, Progress.updateMetrics, Option.map_map]
    rfl

/-- **A cycle publishes every device exactly once, whatever fails.** Over a store that stores or
refuses each slice in any pattern, a cycle whose scan finds devices has the slice of each stored
once and in order, and counts what became of them. A cycle whose scan fails tries nothing and
leaves everything but the count of cycles as it was. -/
theorem cycle_publishes_each_once (store : Store σ) (id : Identity) (duration : Binary64)
    (p : Progress) (s : σ) (scan : ScanReport) :
    (∀ devices, scan.result = .devices devices → IsKeyedByName devices →
      store.IsOrderly (devices.map fun e => e.2.slice id.driver id.node) →
      (runCycle store id duration p s scan).PublishesEach store id p s devices) ∧
    ∀ message, scan.result = .failed message →
      (runCycle store id duration p s scan).EndsWithScan p s message := by
  refine ⟨fun devices hscan hdevices hstore => ?_, fun message hscan =>
    runCycle_endsWithScan hscan store id duration p s⟩
  have hslices : store.IsOrderly (slicesInOrder id devices) := fun s slice hslice =>
    hstore s slice ((slicesInOrder_perm id devices).mem_iff.mp hslice)
  exact runCycle_publishesEach hscan hdevices hslices duration p s

/-- A store that does what a list says, `none` for a conflict, and keeps the slices that it was
asked for. -/
def scriptedStore : Store (List (Option UpsertOutcome) × List Slice) where
  upsert s slice := match s.1 with
    | some outcome :: rest => ((rest, s.2 ++ [slice]), ⟨slice, .ok outcome⟩)
    | none :: rest =>
      ((rest, s.2 ++ [slice]), ⟨slice, .error (.store (.reported true "changed underneath"))⟩)
    | [] => (([], s.2 ++ [slice]), ⟨slice, .ok .created⟩)
  records _ := []

theorem scriptedStore_isOrderly (slices : List Slice) : scriptedStore.IsOrderly slices := by
  rintro ⟨script, calls⟩ slice - crash
  rcases script with _ | ⟨_ | outcome, rest⟩ <;> simp [scriptedStore]

/-- Three devices found out of order, the first and the last of which the store refuses, and a scan
that fails after that. -/
theorem cycle_publishes_each_once_scripted :
    let id : Identity := ⟨"mock-accel.example.com", "node-1"⟩
    let device (name : String) : Device := ⟨name, "U", 1024, 0, .primary, "0000:11:00.0", 0⟩
    let devices := [("c", device "c"), ("a", device "a"), ("b", device "b")]
    let script := ([none, some .updated, none], [])
    let p : Progress := { metrics := some {} }
    let report := runCycle scriptedStore id (.ofInt 1) p script ⟨.devices devices, ["d"], []⟩
    let next := runCycle scriptedStore id (.ofInt 1) report.progress report.store
      ⟨.failed "unlistable", [], []⟩
    IsKeyedByName devices ∧
      scriptedStore.IsOrderly (devices.map fun e => e.2.slice id.driver id.node) ∧
      report.PublishesEach scriptedStore id p script devices ∧
      next.EndsWithScan report.progress report.store "unlistable" := by
  intro id device devices script p report next
  have hdevices : IsKeyedByName devices := ⟨by simp [devices, device], by simp [devices]⟩
  have hstore := scriptedStore_isOrderly (devices.map fun e => e.2.slice id.driver id.node)
  exact ⟨hdevices, hstore,
    (cycle_publishes_each_once scriptedStore id (.ofInt 1) p script
      ⟨.devices devices, ["d"], []⟩).1 devices rfl hdevices hstore,
    (cycle_publishes_each_once scriptedStore id (.ofInt 1) report.progress report.store
      ⟨.failed "unlistable", [], []⟩).2 "unlistable" rfl⟩

end RunCycle

end SliceAgent
