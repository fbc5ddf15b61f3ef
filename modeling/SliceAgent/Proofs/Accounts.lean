import SliceAgent.Proofs.Cycle
import Mathlib.Data.List.Induction

/-!
# What the metrics account for

The metrics are counted up at different points of a cycle, and a cycle can end before it comes to
all of them. Still they are the numbers of what happened, after calls of any kind in any order
(`metrics_account`): a cycle that crashes counts its scan and the slices that it stored, but not
how it ended nor how long it took.

What happened at the store is not read off the cycles: the store itself writes down how each call of
it ends (`Store.tapped`), which changes nothing for the cycles (`runCycle_tapped`).

What one cycle adds is said once (`CycleReport.Counts`), and each number follows from it by
induction over the calls.
-/

namespace SliceAgent

variable {σ : Type}

/-! ### Stores that keep a log -/

/-- A store that writes down how each call of it ends. -/
def Store.tapped (store : Store σ) : Store (σ × List (Except UpsertFault UpsertOutcome)) where
  upsert s slice :=
    let (s', u) := store.upsert s.1 slice
    ((s', s.2 ++ [u.result]), u)
  records := store.records

@[simp]
theorem Store.upsert_tapped (store : Store σ) (s : σ × List (Except UpsertFault UpsertOutcome))
    (slice : Slice) : store.tapped.upsert s slice =
      (((store.upsert s.1 slice).1, s.2 ++ [(store.upsert s.1 slice).2.result]),
        (store.upsert s.1 slice).2) := rfl

@[simp]
theorem Store.records_tapped (store : Store σ) : store.tapped.records = store.records := rfl

theorem publish_tapped (store : Store σ) (s : σ) (log : List (Except UpsertFault UpsertOutcome))
    (slices : List Slice) :
    publish store.tapped (s, log) slices =
      (((publish store s slices).1, log ++ (publish store s slices).2.map (·.result)),
        (publish store s slices).2) := by
  induction slices generalizing s log with
  | nil => simp [publish]
  | cons slice rest ih =>
    rcases hresult : (store.upsert s slice).2.result with (fault | crash) | outcome
    · simp [publish, hresult, ih]
    · simp [publish, hresult]
    · simp [publish, hresult, ih]

/-- A log changes nothing but the log: it goes on with how the attempts of the cycle ended. -/
theorem runCycle_tapped (store : Store σ) (id : Identity) (duration : Binary64) (p : Progress)
    (s : σ) (log : List (Except UpsertFault UpsertOutcome)) (scan : ScanReport) :
    let report := runCycle store id duration p s scan
    let tapped := runCycle store.tapped id duration p (s, log) scan
    tapped.progress = report.progress ∧ tapped.ending = report.ending ∧
      tapped.store = (report.store, log ++ report.attempts.map (·.result)) := by
  rcases hscan : scan.result with devices | message | crash
  · simp [runCycle, hscan, publish_tapped]
  · simp [runCycle, hscan]
  · simp [runCycle, hscan]

/-! ### What a cycle counts -/

/-- The devices that a scan returns; `none` if it fails. -/
def ScanReport.devices? (scan : ScanReport) : Option (List (String × Device)) :=
  match scan.result with
  | .devices devices => some devices
  | _ => none

/-- The names of the devices that a scan left out, if it returns. -/
def ScanReport.leftOut (scan : ScanReport) : List String :=
  scan.devices?.elim [] fun _ => scan.dropped

/-- The number of virtual functions among devices. -/
def virtualCount (devices : List (String × Device)) : Nat :=
  devices.countP fun e => e.2.kind.isVirtual

/-- What a cycle adds to the metrics that the cycles before it left. -/
structure CycleReport.Counts (scan : ScanReport) (duration : Binary64) (p : Progress)
    (before : Metrics) (report : CycleReport σ) (after : Metrics) : Prop where
  metrics : report.progress.metrics = some after
  cycles : report.progress.cycles = p.cycles + 1
  lastCount : report.progress.lastCount = scan.devices?.elim p.lastCount (·.length)
  discovered : after.discovered = scan.devices?.elim before.discovered fun devices =>
    some (devices.length - virtualCount devices, virtualCount devices)
  scanErrors : after.scanErrors = scan.leftOut.foldl (fun c name => c.increment name)
    before.scanErrors
  upserts : after.upserts = (report.attempts.filterMap (·.label?)).foldl
    (fun c label => c.increment label) before.upserts
  results : after.results = report.ending.result?.elim before.results fun r =>
    before.results.increment r.label
  durations : after.durations = before.durations ++
    (report.ending.result?.map fun _ => duration).toList

section Stages

variable {p : Progress} {m : Metrics}

theorem Progress.afterScan_of_metrics (h : p.metrics = some m) (devices : List (String × Device))
    (dropped : List String) :
    p.afterScan devices dropped = { p with
      lastCount := devices.length
      metrics := some (m.recordScan (devices.length - virtualCount devices) (virtualCount devices)
        dropped) } := by
  rw [afterScan, updateMetrics, h]
  rfl

theorem Progress.afterAttempts_of_metrics (h : p.metrics = some m) (attempts : List Attempt) :
    p.afterAttempts attempts = { p with
      metrics := some { m with
        upserts := (attempts.filterMap (·.label?)).foldl (fun c label => c.increment label)
          m.upserts } } := by
  rw [afterAttempts, updateMetrics, h, Option.map_some, foldl_recordUpsert]

theorem Progress.afterEnd_of_metrics (h : p.metrics = some m) (ending : CycleEnd)
    (duration : Binary64) :
    p.afterEnd ending duration =
      { p with metrics := some (ending.result?.elim m (m.recordCycle · duration)) } := by
  rw [afterEnd]
  cases ending.result? with
  | none => rw [Option.elim_none, ← h]
  | some r => simp [updateMetrics, h]

/-- What a cycle adds, whichever way it ends. -/
theorem runCycle_counts (h : p.metrics = some m) (store : Store σ) (id : Identity)
    (duration : Binary64) (s : σ) (scan : ScanReport) :
    ∃ m', (runCycle store id duration p s scan).Counts scan duration p m m' := by
  cases hscan : scan.result with
  | failed message =>
    have hnone : scan.devices? = none := by rw [ScanReport.devices?, hscan]
    have hleft : scan.leftOut = [] := by rw [ScanReport.leftOut, hnone, Option.elim_none]
    refine ⟨m.recordCycle .error duration, ?_⟩
    constructor <;>
      simp [runCycle, hscan, hnone, hleft, h, Progress.afterEnd_of_metrics, CycleEnd.result?,
        Metrics.recordCycle]
  | crashed crash =>
    have hnone : scan.devices? = none := by rw [ScanReport.devices?, hscan]
    have hleft : scan.leftOut = [] := by rw [ScanReport.leftOut, hnone, Option.elim_none]
    refine ⟨m, ?_⟩
    constructor <;> simp [runCycle, hscan, hnone, hleft, h, CycleEnd.result?]
  | devices devices =>
    have hsome : scan.devices? = some devices := by rw [ScanReport.devices?, hscan]
    have hleft : scan.leftOut = scan.dropped := by
      rw [ScanReport.leftOut, hsome, Option.elim_some]
    let begun : Progress := { p with cycles := p.cycles + 1 }
    have hprogress : (runCycle store id duration p s scan).progress =
        ((begun.afterScan devices scan.dropped).afterAttempts
          (runCycle store id duration p s scan).attempts).afterEnd
          (runCycle store id duration p s scan).ending duration := by
      simp only [runCycle, hscan, begun]
    -- Nothing else about the report is needed: each counter is read off the progress.
    generalize runCycle store id duration p s scan = report at hprogress
    rw [Progress.afterScan_of_metrics (p := begun) h,
      Progress.afterAttempts_of_metrics rfl, Progress.afterEnd_of_metrics rfl] at hprogress
    refine ⟨_, by rw [hprogress], ?_, ?_, ?_, ?_, ?_, ?_, ?_⟩
    · rw [hprogress]
    · rw [hprogress, hsome, Option.elim_some]
    · rw [hsome, Option.elim_some]
      cases report.ending.result? <;> rfl
    · rw [hleft]
      cases report.ending.result? <;> rfl
    · cases report.ending.result? <;> rfl
    · cases report.ending.result? <;> rfl
    · cases report.ending.result? with
      | none => exact (List.append_nil _).symm
      | some r => rfl

end Stages

/-! ### What calls add up to -/

/-- A call for a cycle: what its scan comes to, and how long the cycle takes. -/
structure CycleCall where
  scan : ScanReport
  duration : Binary64

/-- What calls leave behind, and how each of them ended. -/
structure CallTrace (σ : Type) where
  progress : Progress
  store : σ
  ends : List CycleEnd := []

/-- Makes one more call. -/
def CallTrace.call (store : Store σ) (id : Identity) (r : CallTrace σ) (c : CycleCall) :
    CallTrace σ :=
  let report := runCycle store id c.duration r.progress r.store c.scan
  ⟨report.progress, report.store, r.ends ++ [report.ending]⟩

/-- Makes calls one after another. -/
def CallTrace.calls (store : Store σ) (id : Identity) (r : CallTrace σ) (cs : List CycleCall) :
    CallTrace σ :=
  cs.foldl (·.call store id) r

theorem CallTrace.calls_concat (store : Store σ) (id : Identity) (r : CallTrace σ)
    (cs : List CycleCall) (c : CycleCall) :
    r.calls store id (cs ++ [c]) = (r.calls store id cs).call store id c := by
  rw [calls, calls, List.foldl_append]
  rfl

/-- The devices of the latest scan that returned, none before there was one. -/
def latestDevices (cs : List CycleCall) : List (String × Device) :=
  (cs.reverse.findSome? (·.scan.devices?)).getD []

/-- A call that crashed tells its caller nothing about the cycle. -/
def CycleEnd.isReported : CycleEnd → Bool
  | .complete _ | .failed _ => true
  | .crashed _ => false

/-- A store refused a slice. -/
def isRefusal : Except UpsertFault UpsertOutcome → Bool
  | .error (.store _) => true
  | _ => false

/-- The metrics account for calls, for how they ended, and for how the calls of the store did. -/
structure Accounts (cs : List CycleCall) (ends : List CycleEnd)
    (log : List (Except UpsertFault UpsertOutcome)) (p : Progress) (m : Metrics) : Prop where
  metrics : p.metrics = some m
  cycles : p.cycles = cs.length
  length_ends : ends.length = cs.length
  results : ∀ r : CycleResult, m.results.count r.label = ends.countP (·.result? = some r)
  total : m.results.total = ends.countP (·.isReported)
  durations : m.durations.length = ends.countP (·.isReported)
  stored : ∀ o : UpsertOutcome, m.upserts.count o.name = log.countP (·.toOption = some o)
  refused : m.upserts.count "error" = log.countP isRefusal
  lastCount : p.lastCount = (latestDevices cs).length
  discovered : m.discovered.getD (0, 0) =
    ((latestDevices cs).length - virtualCount (latestDevices cs), virtualCount (latestDevices cs))
  scanErrors : ∀ name,
    m.scanErrors.count name = (cs.flatMap (·.scan.leftOut)).count name

theorem latestDevices_concat (cs : List CycleCall) (c : CycleCall) :
    latestDevices (cs ++ [c]) = c.scan.devices?.getD (latestDevices cs) := by
  rw [latestDevices, List.reverse_concat, List.findSome?_cons, latestDevices]
  cases c.scan.devices? <;> rfl

theorem Counter.count_foldl_increment (labels : List String) (c : Counter) (label : String) :
    (labels.foldl (fun c l => c.increment l) c).count label =
      c.count label + labels.count label := by
  induction labels generalizing c with
  | nil => rfl
  | cons l rest ih =>
    rw [List.foldl_cons, ih, count_increment, List.count_cons]
    by_cases h : label = l
    · simp [h]
      omega
    · simp [h, Ne.symm h]

/-- Attempts are counted under a label as often as calls of the store ended in the way that the
label stands for. -/
theorem count_labels {label : String} {ended : Except UpsertFault UpsertOutcome → Bool}
    (h : ∀ a : Attempt, a.label? = some label ↔ ended a.result = true) (attempts : List Attempt) :
    (attempts.filterMap (·.label?)).count label = (attempts.map (·.result)).countP ended := by
  rw [List.count, List.countP_filterMap, List.countP_map]
  refine List.countP_congr fun a _ => ?_
  rw [Function.comp_apply, ← h]
  cases a.label? <;> simp

theorem Attempt.label?_eq_name_iff {a : Attempt} {o : UpsertOutcome} :
    a.label? = some o.name ↔ decide (a.result.toOption = some o) = true := by
  rcases hresult : a.result with (fault | crash) | o' <;> rw [label?, hresult] <;> cases o <;>
    simp [Except.toOption, UpsertOutcome.name]
  all_goals cases o' <;> simp

theorem Attempt.label?_eq_error_iff {a : Attempt} :
    a.label? = some "error" ↔ isRefusal a.result = true := by
  rcases hresult : a.result with (fault | crash) | (_ | _) <;> rw [label?, hresult] <;>
    simp [isRefusal, UpsertOutcome.name]

/-- The labels that cycles are counted under differ. -/
theorem CycleResult.label_inj {r r' : CycleResult} : r.label = r'.label ↔ r = r' := by
  cases r <;> cases r' <;> simp [label]

theorem CycleEnd.isReported_eq (e : CycleEnd) : e.isReported = e.result?.isSome := by
  cases e <;> rfl

theorem accounts_fresh (info : List (String × String)) :
    Accounts [] [] [] { metrics := some { info } } { info } := by
  constructor <;> intros <;> rfl

/-- **One call** is accounted for. -/
theorem Accounts.call {cs : List CycleCall} {ends : List CycleEnd}
    {log : List (Except UpsertFault UpsertOutcome)} {p : Progress} {m : Metrics}
    (h : Accounts cs ends log p m) {c : CycleCall} {report : CycleReport σ} {m' : Metrics}
    (hcounts : report.Counts c.scan c.duration p m m') :
    Accounts (cs ++ [c]) (ends ++ [report.ending]) (log ++ report.attempts.map (·.result))
      report.progress m' := by
  have hupserts (label : String) : m'.upserts.count label =
      m.upserts.count label + (report.attempts.filterMap (·.label?)).count label := by
    rw [hcounts.upserts, Counter.count_foldl_increment]
  constructor
  case metrics => exact hcounts.metrics
  case cycles => rw [hcounts.cycles, h.cycles, List.length_append, List.length_singleton]
  case length_ends => simp only [List.length_append, List.length_singleton, h.length_ends]
  case results =>
    intro r
    rw [List.countP_append, ← h.results, hcounts.results, List.countP_singleton]
    cases report.ending.result? with
    | none => simp
    | some r' => simp [Counter.count_increment, CycleResult.label_inj, eq_comm]
  case total =>
    rw [List.countP_append, ← h.total, hcounts.results, List.countP_singleton,
      CycleEnd.isReported_eq]
    cases report.ending.result? <;> simp
  case durations =>
    rw [List.countP_append, ← h.durations, hcounts.durations, List.length_append,
      List.countP_singleton, CycleEnd.isReported_eq]
    cases report.ending.result? <;> simp
  case stored =>
    intro o
    rw [hupserts, List.countP_append, h.stored, Nat.add_left_cancel_iff]
    exact count_labels (fun a => Attempt.label?_eq_name_iff) report.attempts
  case refused =>
    rw [hupserts, List.countP_append, h.refused, count_labels fun a => Attempt.label?_eq_error_iff]
  case lastCount =>
    rw [hcounts.lastCount, latestDevices_concat, h.lastCount]
    cases c.scan.devices? <;> rfl
  case discovered =>
    rw [hcounts.discovered, latestDevices_concat]
    cases c.scan.devices? with
    | none => exact h.discovered
    | some devices => rfl
  case scanErrors =>
    intro name
    rw [hcounts.scanErrors, Counter.count_foldl_increment, h.scanErrors, List.flatMap_append,
      List.count_append, List.flatMap_singleton]

/-- Calls over a store that keeps a log come to the same as over the store itself, and are
accounted for. -/
theorem accounts_calls (store : Store σ) (id : Identity) (s : σ) (info : List (String × String))
    (cs : List CycleCall) :
    let fresh : Progress := { metrics := some { info } }
    let r := CallTrace.calls store id ⟨fresh, s, []⟩ cs
    ∃ log m, CallTrace.calls store.tapped id ⟨fresh, (s, []), []⟩ cs =
        ⟨r.progress, (r.store, log), r.ends⟩ ∧
      Accounts cs r.ends log r.progress m := by
  intro fresh
  -- From the end, since each call goes on from the metrics that the calls before it left.
  induction cs using List.reverseRecOn with
  | nil => exact ⟨[], { info }, rfl, accounts_fresh info⟩
  | append_singleton cs c ih =>
    obtain ⟨log, m, htapped, haccounts⟩ := ih
    rw [CallTrace.calls_concat, CallTrace.calls_concat, htapped]
    generalize CallTrace.calls store id ⟨fresh, s, []⟩ cs = r at haccounts ⊢
    obtain ⟨hprogress, hending, hstore⟩ :=
      runCycle_tapped store id c.duration r.progress r.store log c.scan
    obtain ⟨m', hcounts⟩ :=
      runCycle_counts haccounts.metrics store id c.duration r.store c.scan
    refine ⟨_, m', ?_, haccounts.call hcounts⟩
    simp only [CallTrace.call, hprogress, hending, hstore]

/-- A cycle that is reported is counted under one of three labels. -/
theorem countP_isReported (ends : List CycleEnd) :
    ends.countP (·.isReported) = ends.countP (·.result? = some .success) +
      ends.countP (·.result? = some .partly) + ends.countP (·.result? = some .error) := by
  induction ends with
  | nil => rfl
  | cons e rest ih =>
    simp only [List.countP_cons, ih, e.isReported_eq]
    rcases e.result? with _ | (_ | _ | _)
    · simp
    all_goals
      simp
      omega

/-- **The metrics tell the truth over whole runs.** Let calls for cycles be made one after another,
over any store, with scans and calls of the store that end in any way. After them the metrics
account for all calls so far, for how each ended, and for every call of the store, as the store
itself writes it down. A cycle that crashed is not among the results and has no duration, but the
slices that it stored are counted. -/
theorem metrics_account (store : Store σ) (id : Identity) (s : σ) (info : List (String × String))
    (cs : List CycleCall) :
    let fresh : Progress := { metrics := some { info } }
    let r := CallTrace.calls store id ⟨fresh, s, []⟩ cs
    ∃ log m, CallTrace.calls store.tapped id ⟨fresh, (s, []), []⟩ cs =
        ⟨r.progress, (r.store, log), r.ends⟩ ∧
      Accounts cs r.ends log r.progress m ∧
      m.results.count "success" + m.results.count "partial" + m.results.count "error" =
        r.ends.countP (·.isReported) := by
  intro fresh r
  obtain ⟨log, m, htapped, haccounts⟩ := accounts_calls store id s info cs
  refine ⟨log, m, htapped, haccounts, ?_⟩
  have hsuccess := haccounts.results .success
  have hpartly := haccounts.results .partly
  have herror := haccounts.results .error
  rw [countP_isReported, ← hsuccess, ← hpartly, ← herror]
  rfl

end SliceAgent
