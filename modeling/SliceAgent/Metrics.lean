import SliceAgent.Json.Basic

/-!
# Metrics

`Metrics` counts what the cycles did: how they ended and how long they took, which devices the
last scan found, which devices had to be left out, and how each write ended. Counters are kept by
label; a label that was never counted has no sample.

`Metrics.samples` lists the values as they are exported.
-/

namespace SliceAgent

/-- Counts by label, in the order in which the labels were first counted. -/
abbrev Counter := List (String × Nat)

namespace Counter

/-- The count of a label. -/
def count (c : Counter) (label : String) : Nat :=
  ((c.find? (·.1 == label)).map (·.2)).getD 0

/-- Counts a label once more. -/
def increment (label : String) : Counter → Counter
  | [] => [(label, 1)]
  | (l, n) :: r => if l = label then (l, n + 1) :: r else (l, n) :: increment label r

/-- The sum over all labels. -/
def total (c : Counter) : Nat :=
  c.foldr (fun e n => e.2 + n) 0

@[simp]
theorem total_increment (label : String) (c : Counter) :
    total (increment label c) = total c + 1 := by
  induction c with
  | nil => simp [increment, total]
  | cons e r ih =>
    obtain ⟨l, n⟩ := e
    rw [increment]
    split
    · simp [total]
      omega
    · simp only [total, List.foldr_cons] at ih ⊢
      omega

theorem count_increment (label l : String) (c : Counter) :
    count (increment label c) l = count c l + if l = label then 1 else 0 := by
  induction c with
  | nil =>
    by_cases h : l = label
    · simp [increment, count, h]
    · have h' : ¬ label = l := fun e => h e.symm
      simp [increment, count, h, h']
  | cons e r ih =>
    obtain ⟨m, n⟩ := e
    rw [increment]
    by_cases hm : m = label
    · subst hm
      by_cases h : l = m
      · simp [count, h]
      · have h' : ¬ m = l := fun e => h e.symm
        simp [count, h, h']
    · rw [if_neg hm]
      by_cases h : l = m
      · subst h
        simp [count, hm]
      · have h' : ¬ m = l := fun e => h e.symm
        simpa [count, h'] using ih

end Counter

/-- How a cycle ended, as it is counted. -/
inductive CycleResult where
  | success
  | partly
  | error
  deriving DecidableEq, Repr

/-- The label that a result is counted under. -/
def CycleResult.label : CycleResult → String
  | .success => "success"
  | .partly => "partial"
  | .error => "error"

/-- The counts so far. The devices of the last scan are counted by kind, primary and virtual. -/
structure Metrics where
  results : Counter := []
  durations : List Binary64 := []
  discovered : Option (Nat × Nat) := none
  scanErrors : Counter := []
  upserts : Counter := []
  info : List (String × String) := []
  deriving DecidableEq, Repr

/-- One exported value. -/
structure Sample where
  name : String
  labels : List (String × String)
  value : Json

namespace Metrics

/-- Counts a cycle that ended, with the time that it took. -/
def recordCycle (result : CycleResult) (duration : Binary64) (m : Metrics) : Metrics :=
  { m with results := m.results.increment result.label, durations := m.durations ++ [duration] }

/-- Counts what a scan found: the devices by kind, and each device that was left out. -/
def recordScan (primary virtual : Nat) (dropped : List String) (m : Metrics) : Metrics :=
  { m with
    discovered := some (primary, virtual)
    scanErrors := dropped.foldl (fun c name => c.increment name) m.scanErrors }

/-- Counts a write by its label. -/
def recordUpsert (label : String) (m : Metrics) : Metrics :=
  { m with upserts := m.upserts.increment label }

/-- The upper bounds of the duration buckets, in seconds, with their labels. -/
def bucketBounds : List (String × Binary64) :=
  [("0.01", .ofRatio false 1 100), ("0.05", .ofRatio false 5 100), ("0.1", .ofRatio false 1 10),
   ("0.5", .ofRatio false 1 2), ("1.0", .ofInt 1), ("5.0", .ofInt 5), ("30.0", .ofInt 30),
   ("+Inf", .positiveInfinity)]

/-- The number of cycles that took no longer than a bound. -/
def countWithin (bound : Binary64) (m : Metrics) : Nat :=
  m.durations.countP fun d => d.toFloat ≤ bound.toFloat

/-- The sum of the durations, added up in their order. -/
def durationSum (m : Metrics) : Binary64 :=
  .ofFloat (m.durations.foldl (fun s d => s + d.toFloat) 0.0)

/-- The samples of a counter with one label. -/
def counterSamples (name label : String) (c : Counter) : List Sample :=
  c.map fun (l, n) => ⟨name, [(label, l)], .int n⟩

/-- The samples of the durations. -/
def durationSamples (m : Metrics) : List Sample :=
  let name := "accel_dra_reconcile_duration_seconds"
  (bucketBounds.map fun (l, b) => ⟨name ++ "_bucket", [("le", l)], .int (m.countWithin b)⟩) ++
    [⟨name ++ "_count", [], .int m.durations.length⟩, ⟨name ++ "_sum", [], .float m.durationSum⟩]

/-- The samples of the devices found. -/
def discoveredSamples (m : Metrics) : List Sample :=
  match m.discovered with
  | none => []
  | some (primary, virtual) =>
    counterSamples "accel_dra_discovered_devices" "type" [("pf", primary), ("vf", virtual)]

/-- All samples. -/
def samples (m : Metrics) : List Sample :=
  [⟨"accel_dra_info", m.info, .int 1⟩] ++
    counterSamples "accel_dra_reconcile_total" "result" m.results ++
    m.durationSamples ++
    m.discoveredSamples ++
    counterSamples "accel_dra_device_scan_errors_total" "device" m.scanErrors ++
    counterSamples "accel_dra_slice_upserts_total" "outcome" m.upserts

end Metrics

/-- The order of lists of texts: that of the first texts that differ. -/
def textsLe : List String → List String → Bool
  | [], _ => true
  | _ :: _, [] => false
  | s :: ss, t :: ts => if s = t then textsLe ss ts else decide (s ≤ t)

/-- The order of samples: by name, then by the pairs of label and value. -/
def Sample.le (a b : Sample) : Bool :=
  -- The labels of a sample are put in order first, so that equal ones give equal keys.
  let key (s : Sample) : List String :=
    s.name :: (Json.sortFields s.labels).flatMap fun (l, v) => [l, v]
  textsLe (key a) (key b)

/-- The samples in the order in which they are exported. -/
def Metrics.export (m : Metrics) : List Sample :=
  m.samples.mergeSort Sample.le

end SliceAgent
