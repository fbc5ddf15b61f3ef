import SliceAgent.Slice
import SliceAgent.Store.Fault
import SliceAgent.Scan
import SliceAgent.Metrics

/-!
# A cycle

A cycle takes what a scan reports, builds a slice for each device and has each slice stored, one
after another. A slice that the store refuses is counted as failed and the next one is tried; only
an error that nothing expects ends the cycle. A scan that fails ends it before anything is built.

`runCycle` gives the state after the cycle, how it ended, and what it logged. The counts of its
result, the metrics and the records are read off the list of attempts (`publish`).
-/

namespace SliceAgent

/-! ### Scans as a cycle sees them -/

/-- What comes of a scan. -/
inductive ScanResult where
  | devices (devices : List (String × Device))
  | failed (message : String)
  | crashed (crash : Crash)

/-- A scan for a cycle: what came of it, the names of the devices that it left out, and what it
logged. -/
structure ScanReport where
  result : ScanResult
  dropped : List String
  records : List Record

/-- The report of a scan of the class directory. -/
def ScanReport.ofOutcome (root : Path) (node : String) (o : ScanOutcome) : ScanReport where
  result := match o with
    | .absent => .devices []
    | .unlistable f => .failed (unlistableMessage root f)
    | .scanned s => match s.halt with
      | none => .devices s.devices
      | some h => .crashed (.system h.fault)
  dropped := o.drops.map (·.1)
  records := o.records root node

/-! ### Storing the slices -/

/-- A store with a state of type `σ`, as a cycle uses it. -/
structure Store (σ : Type) where
  upsert : σ → Slice → σ × Upserted
  records : Upserted → List Record

/-- A slice that was to be stored, and what came of it. -/
structure Attempt where
  slice : Slice
  result : Except UpsertFault UpsertOutcome
  records : List Record

namespace Attempt

/-- Whether the slice was stored with the given outcome. -/
def isOutcome (o : UpsertOutcome) (a : Attempt) : Bool :=
  match a.result with
  | .ok p => p == o
  | .error _ => false

/-- Whether the store refused the slice. -/
def isFailure (a : Attempt) : Bool :=
  match a.result with
  | .error (.store _) => true
  | _ => false

/-- The crash that an attempt ended with. -/
def crash? (a : Attempt) : Option Crash :=
  match a.result with
  | .error (.crash c) => some c
  | _ => none

/-- The label that an attempt is counted under; a crash is not counted. -/
def label? (a : Attempt) : Option String :=
  match a.result with
  | .ok o => some o.name
  | .error (.store _) => some "error"
  | .error (.crash _) => none

/-- What is logged of an attempt: the record of the store, or that it refused the slice. -/
def allRecords (a : Attempt) : List Record :=
  match a.result with
  | .error (.store f) =>
    a.records ++
      [.event .error "slice_upsert_failed" [("slice", a.slice.name), ("error", .text f.message)]]
  | _ => a.records

end Attempt

/-- Has slices stored one after another, up to a crash. -/
def publish {σ : Type} (store : Store σ) : σ → List Slice → σ × List Attempt
  | s, [] => (s, [])
  | s, slice :: rest =>
    let (s', u) := store.upsert s slice
    let attempt : Attempt := ⟨slice, u.result, store.records u⟩
    match u.result with
    -- What nothing expects leaves the slices after it untried.
    | .error (.crash _) => (s', [attempt])
    | _ =>
      let (s'', attempts) := publish store s' rest
      (s'', attempt :: attempts)

/-! ### How a cycle ends -/

/-- The counts of a cycle. -/
structure Tally where
  devices : Nat
  created : Nat
  updated : Nat
  failed : Nat
  deriving DecidableEq, Repr

namespace Tally

/-- The slices that were stored. -/
def published (t : Tally) : Nat :=
  t.created + t.updated

/-- The counts of attempts at storing the slices of some devices. -/
def ofAttempts (devices : Nat) (attempts : List Attempt) : Tally where
  devices := devices
  created := attempts.countP (·.isOutcome .created)
  updated := attempts.countP (·.isOutcome .updated)
  failed := attempts.countP (·.isFailure)

/-- How a complete cycle is counted: as a partial one if the store refused any slice. -/
def result (t : Tally) : CycleResult :=
  if t.failed = 0 then .success else .partly

/-- The counts as the fields of a record. -/
def fields (t : Tally) : List (String × Json) :=
  [("devices", .int t.devices), ("created", .int t.created), ("updated", .int t.updated),
   ("failed", .int t.failed)]

end Tally

/-- How a cycle ends. -/
inductive CycleEnd where
  | complete (tally : Tally)
  | failed (message : String)
  | crashed (crash : Crash)

namespace CycleEnd

/-- What is said of a cycle that did not complete. -/
def errorMessage? : CycleEnd → Option String
  | .complete _ => none
  | .failed m => some s!"failed to scan devices: {m}"
  | .crashed c => some c.message

/-- The attributes of the span of a cycle; a cycle that did not complete has none. -/
def spanAttributes : CycleEnd → List (String × Nat)
  | .complete t =>
    [("accel_dra.devices", t.devices), ("accel_dra.slices_published", t.published),
     ("accel_dra.slices_failed", t.failed)]
  | _ => []

/-- How a cycle is counted; one that crashed is not. -/
def result? : CycleEnd → Option CycleResult
  | .complete t => some t.result
  | .failed _ => some .error
  | .crashed _ => none

end CycleEnd

/-- What cycles leave behind for the next one: the number of cycles begun, the number of devices
of the last scan that succeeded, and the metrics if they are kept. -/
structure Progress where
  cycles : Nat := 0
  lastCount : Nat := 0
  metrics : Option Metrics := none

namespace Progress

/-- Changes the metrics if they are kept. -/
def updateMetrics (f : Metrics → Metrics) (p : Progress) : Progress :=
  { p with metrics := p.metrics.map f }

/-- Counts the devices of a scan. -/
def afterScan (devices : List (String × Device)) (dropped : List String) (p : Progress) :
    Progress :=
  let virtual := devices.countP fun (_, d) => d.kind.isVirtual
  { p with lastCount := devices.length }.updateMetrics
    (·.recordScan (devices.length - virtual) virtual dropped)

/-- Counts attempts. -/
def afterAttempts (attempts : List Attempt) (p : Progress) : Progress :=
  p.updateMetrics fun m => (attempts.filterMap (·.label?)).foldl (fun m l => m.recordUpsert l) m

/-- Counts the end of a cycle. -/
def afterEnd (ending : CycleEnd) (duration : Binary64) (p : Progress) : Progress :=
  match ending.result? with
  | some r => p.updateMetrics (·.recordCycle r duration)
  | none => p

end Progress

/-- A cycle that was run: the state after it, the attempts, the end and the records. -/
structure CycleReport (σ : Type) where
  progress : Progress
  store : σ
  attempts : List Attempt
  ending : CycleEnd
  records : List Record

/-- The record of the number of devices found. -/
def countRecord (previous current : Nat) : Record :=
  if previous = current then
    .event .debug "devices_scanned" [("count", .int current), ("changed", .bool false)]
  else
    .event .info "device_count_changed" [("previous", .int previous), ("current", .int current)]

/-- How a cycle ends whose slices were tried. -/
def endOfAttempts (devices : Nat) (attempts : List Attempt) : CycleEnd :=
  match attempts.findSome? (·.crash?) with
  | some c => .crashed c
  | none => .complete (.ofAttempts devices attempts)

/-- The record of a complete cycle. -/
def CycleEnd.records : CycleEnd → List Record
  | .complete t => [.event .debug "reconcile_complete" t.fields]
  | _ => []

/-- Whose devices are advertised. -/
structure Identity where
  driver : String
  node : String
  deriving DecidableEq, Repr

/-- Runs a cycle that takes the given time. -/
def runCycle {σ : Type} (store : Store σ) (id : Identity) (duration : Binary64) (p : Progress)
    (s : σ) (scan : ScanReport) : CycleReport σ :=
  -- A cycle counts as begun whatever becomes of its scan.
  let begun := { p with cycles := p.cycles + 1 }
  let started := [.event .debug "reconcile_started" [("cycle", .int begun.cycles)]] ++ scan.records
  match scan.result with
  | .failed m =>
    { progress := begun.afterEnd (.failed m) duration
      store := s
      attempts := []
      ending := .failed m
      records := started ++ [.event .error "device_scan_failed" [("error", .text m)]] }
  | .crashed c =>
    { progress := begun, store := s, attempts := [], ending := .crashed c, records := started }
  | .devices devices =>
    let slices := buildSlices id.driver id.node devices
    let (s', attempts) := publish store s slices
    let ending := endOfAttempts devices.length attempts
    { progress :=
        ((begun.afterScan devices scan.dropped).afterAttempts attempts).afterEnd ending duration
      store := s'
      attempts
      ending
      records := started ++ [countRecord p.lastCount devices.length] ++
        buildRecords id.driver id.node devices ++
        [.event .debug "slices_built" [("count", .int slices.length)]] ++
        attempts.flatMap (·.allRecords) ++ ending.records }

end SliceAgent
