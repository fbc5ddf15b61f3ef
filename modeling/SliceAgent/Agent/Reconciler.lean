import SliceAgent.Agent.Host
import SliceAgent.Cycle
import SliceAgent.Run
import SliceAgent.Store.Memory

/-!
# The cycles of an agent

A `Reconciler` is what an agent runs: whose devices it advertises, where it looks for them, how
often, and where the slices go. `Host.cycle` runs one cycle on a host, `Host.runUntilStopped` a
whole run whose stop flag is set before its first wait.
-/

namespace SliceAgent

/-- Where slices go. -/
inductive SliceStore where
  | memory (store : MemoryStore)
  | cluster

namespace SliceStore

/-- Stores a slice; `answer` is how the cluster answers. -/
def upsert (answer : Call → Reply) (slice : Slice) : SliceStore → SliceStore × Upserted
  | .memory store =>
    let (store, u) := store.upsert slice
    (.memory store, u)
  | .cluster =>
    let (u, _, _) := (ClusterStore.upsert slice).run (fun s call => (answer call, s)) ()
    (.cluster, u)

/-- What a store logs of a write. -/
def records : SliceStore → Upserted → List Record
  | .memory _ => memoryRecords
  | .cluster => clusterRecords

/-- A store as a cycle uses it. -/
def toStore (answer : Call → Reply) (store : SliceStore) : Store SliceStore where
  upsert s slice := s.upsert answer slice
  records := store.records

end SliceStore

/-- What an agent runs. -/
structure Reconciler where
  id : Identity
  root : Path
  interval : Binary64
  store : SliceStore
  progress : Progress := {}

namespace Host

/-! ### Choosing a store -/

/-- Writes a record to the log of an agent. -/
def logFor (a : Agent) (r : Record) : Setup Unit :=
  modify (Host.log a.style r)

/-- Loads the configuration of the cluster. -/
def reachCluster (a : Agent) : Setup Unit := do
  let path := a.settings.cluster.kubeconfig
  if path = .null then
    logFor a (.message .debug clusterLogger "Not running in a cluster, trying kubeconfig")
  let h ← get
  let home := h.environment.lookup "HOME"
  let (outcome, notes) := (Kubeconfig.load h.files home path.text?).run.run []
  notes.forM fun s => logFor a (.message .error rootLogger s)
  match outcome with
  | .error f => throw (.kubeconfig f)
  | .ok connection =>
    let shown := if path = .null then "(default)" else path.shown
    logFor a (.message .info clusterLogger s!"Loaded kubeconfig {shown}")
    if let .error f := connection.check h.environment then throw (.kubeconfig f)

/-- The store that the settings of an agent ask for. -/
def chooseStore (a : Agent) : Setup SliceStore := do
  if a.settings.cluster.dryRun.isTruthy then
    logFor a (.event .info "dry_run_enabled" [("store", .text "memory")])
    return .memory {}
  else
    reachCluster a
    return .cluster

/-- The interval between cycles that settings ask for. -/
def intervalOf (s : Settings) : Binary64 :=
  match s.discovery.rescanInterval with
  | .float x => x
  | .int n => .ofInt n
  | _ => .ofInt 0

/-- What an agent runs, with the store given or else the one that its settings ask for. -/
def reconcilerFor (a : Agent) (given : Option SliceStore) : Setup Reconciler := do
  let s := a.settings
  -- Without a node no store is chosen, so that nothing is said about one.
  if !s.driver.nodeName.isTruthy then throw .noNode
  let store ← match given with
    | some store => pure store
    | none => chooseStore a
  let interval := intervalOf s
  if !acceptsInterval interval then throw (.interval interval)
  return { id := ⟨s.driver.name.shown, s.driver.nodeName.shown⟩
           root := .ofText s.discovery.classPath.shown
           interval, store }

/-! ### Running -/

/-- The style of the events of cycles: the one chosen already, or else the style of the log. -/
def styleOfCycles (h : Host) : LogStyle :=
  (h.cycleStyle.orElse fun _ => h.style).getD ⟨0, false⟩

/-- Writes records of cycles. -/
def logCycles (rs : List Record) (h : Host) : Host :=
  { h with cycleStyle := some h.styleOfCycles }.logAll h.styleOfCycles rs

/-- Runs a cycle. -/
def cycle (r : Reconciler) (h : Host) : (Reconciler × CycleEnd) × Host :=
  let scan := ScanReport.ofOutcome r.root r.id.node (scanClass h.files r.root)
  let report := runCycle (r.store.toStore h.cluster) r.id (.ofInt 0)
    { r.progress with metrics := h.metrics } r.store scan
  (({ r with store := report.store, progress := report.progress }, report.ending),
   { h with metrics := report.progress.metrics }.logCycles report.records)

/-- The surroundings of a run whose stop flag is set: no time passes, and each wait finds it. -/
def stoppedWorld : World (Reconciler × Host) Float where
  now _ := 0.0
  wait _ w := (true, w)
  cycle trigger w :=
    let ((r, ending), h) := w.2.cycle w.1
    (r, h.logCycles (ending.runRecords trigger))
  log record w := (w.1, w.2.logCycles [record])
  cycles w := w.1.progress.cycles

/-- A run whose stop flag is set before its first wait. -/
def runUntilStopped (r : Reconciler) (h : Host) : Reconciler × Host :=
  (run stoppedWorld r.interval.toFloat r.interval 1 (r, h)).2

end Host

end SliceAgent
