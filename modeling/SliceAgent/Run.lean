import SliceAgent.Decimal.Binary64
import SliceAgent.Cycle

/-!
# Running cycles until stopped

A run makes one cycle at once and then one at each point of the schedule, until a wait finds the
stop flag set. How a cycle ends is logged and changes nothing about the run. Only missed points that
cannot be counted break a run off, and then it ends without a last record.

Cycles are due at the points of a grid, one interval apart. After a cycle the next point of the
grid that is still to come is chosen, and the points that passed while the cycle ran are missed:
they are counted and never made up for. The rules are stated over any type of `Time`. Rational
numbers have the exact rules; a run uses floating-point seconds, whose quotients `floorDiv?` rounds
to the nearer whole number where the division went wrong by a rounding. Such a quotient may have no
whole number at all: the points that were missed cannot be counted then.

The first signal that asks the agent to end sets its stop flag, so that the loop ends after the
cycle in progress. A signal that arrives when the flag is set ends the process at once.

The surroundings of a run are a `World`: a clock, a wait, and a cycle, each acting on a state. The
clock may go on between any two readings of it. `runCycles` goes through at most a given number of
waits and gives the trace of the run.
-/

namespace SliceAgent

/-! ### The schedule -/

/-- Why a quotient of times has no whole number. -/
inductive CountFault where
  | infinite
  | notANumber
  deriving DecidableEq, Repr

/-- The message of a quotient without a whole number. -/
def CountFault.message : CountFault → String
  | .infinite => "cannot convert float infinity to integer"
  | .notANumber => "cannot convert float NaN to integer"

/-- What the schedule needs of a type of times. -/
class Time (τ : Type) where
  zero : τ
  add : τ → τ → τ
  sub : τ → τ → τ
  /-- A whole number of times an interval. -/
  times : Int → τ → τ
  le : τ → τ → Bool
  lt : τ → τ → Bool
  /-- How often an interval goes into a time, rounded down. -/
  floorDiv? : τ → τ → Except CountFault Int

instance : Time Rat where
  zero := 0
  add := (· + ·)
  sub := (· - ·)
  times n t := n * t
  le a b := decide (a ≤ b)
  lt a b := decide (a < b)
  floorDiv? a b := .ok (a / b).floor

namespace Binary64

/-- The remainder of two positive numbers, which is exact. -/
def remainder (x y : Float) : Float :=
  match (ofFloat x).decode, (ofFloat y).decode with
  | .finite _ m e, .finite _ n f =>
    let k := min e f
    let r := m * Nat.pow 2 (e - k).toNat % (n * Nat.pow 2 (f - k).toNat)
    (if 0 ≤ k then ofRatio false (r * Nat.pow 2 k.toNat) 1
      else ofRatio false r (Nat.pow 2 (-k).toNat)).toFloat
  | .finite _ _ _, .infinite _ => x
  | _, _ => nan.toFloat

/-- The quotient rounded down, taken from the exact remainder and set right to the nearer whole
number. -/
def floorQuotient? (x y : Float) : Except CountFault Int :=
  let d := (x - remainder x y) / y
  let q := d.floor
  let q := ofFloat (if 0.5 < d - q then q + 1.0 else q)
  match q.toInt? with
  | some n => .ok n
  | none => .error (if q.isNaN then .notANumber else .infinite)

end Binary64

instance : Time Float where
  zero := 0.0
  add := (· + ·)
  sub := (· - ·)
  times n t := (Binary64.ofInt n).toFloat * t
  le a b := decide (a ≤ b)
  lt a b := decide (a < b)
  floorDiv? := Binary64.floorQuotient?

namespace Schedule

variable {τ : Type} [Time τ]

/-- How long to wait for a point of the grid; not at all if it has passed. -/
def wait (next now : τ) : τ :=
  let left := Time.sub next now
  if Time.lt Time.zero left then left else Time.zero

/-- The point of the grid after the one just served, when a cycle ends: the next one, or else the
first that is still to come, with the number of points missed. -/
def advance (interval next now : τ) : Except CountFault (τ × Option Int) :=
  let following := Time.add next interval
  if Time.le following now then do
    -- The point `following` is missed itself, and so is each one up to now.
    let missed := (← Time.floorDiv? (Time.sub now following) interval) + 1
    return (Time.add following (Time.times missed interval), some missed)
  else .ok (following, none)

end Schedule

/-! ### Signals -/

/-- The stop flag, and the exit codes with which the process was ended at once. -/
structure Shutdown where
  stopping : Bool
  exits : List Nat := []
  deriving DecidableEq, Repr

/-- The exit code of an agent that is ended at once. -/
def forcedExitCode : Nat := 1

/-- What a signal does. -/
def Shutdown.signal (s : Shutdown) : Shutdown :=
  if s.stopping then { s with exits := s.exits ++ [forcedExitCode] }
  else { s with stopping := true }

@[simp]
theorem Shutdown.signal_stopping (s : Shutdown) : s.signal.stopping = true := by
  cases h : s.stopping <;> simp [Shutdown.signal, h]

/-! ### Runs -/

/-- What sets off a cycle. -/
inductive Trigger where
  | initial
  | periodic
  deriving DecidableEq, Repr

/-- The name of a trigger in the records. -/
def Trigger.name : Trigger → String
  | .initial => "initial"
  | .periodic => "periodic"

/-- The record of a cycle that did not complete. -/
def CycleEnd.runRecords (trigger : Trigger) : CycleEnd → List Record
  | .complete _ => []
  | .failed m =>
    [.event .error "reconcile_failed"
      [("trigger", .text trigger.name), ("error", .text s!"failed to scan devices: {m}")]]
  | .crashed c =>
    [.event .error "reconcile_crashed"
      [("trigger", .text trigger.name), ("error", .text c.message)] true]

/-- The surroundings of a run: the clock, what goes on while a run only looks at it, a wait that
tells whether the stop flag was found set, a cycle with its records, a place for records, and the
number of cycles begun. -/
structure World (ω τ : Type) where
  now : ω → τ
  elapse : ω → ω := id
  wait : τ → ω → Bool × ω
  cycle : Trigger → ω → ω
  log : Record → ω → ω
  cycles : ω → Nat

/-- One wait of a run: the point of the grid waited for, how long, and whether the stop flag was
found set; if not, what the clock showed when the cycle after it ended, and the points missed. -/
structure Round (τ : Type) where
  tick : τ
  timeout : τ
  stopped : Bool
  ended : Option τ := none
  missed : Option Int := none
  deriving DecidableEq, Repr

/-- What a run went through: its waits in order, and what broke it off. -/
structure RunTrace (τ : Type) where
  rounds : List (Round τ)
  fault : Option CountFault := none
  deriving DecidableEq, Repr

namespace Run

variable {ω τ : Type} [Time τ]

/-- The record of points that were missed. -/
def missedRecord (missed : Int) : Record :=
  .event .warning "reconcile_ticks_missed" [("missed", .int missed)]

/-- The rounds of a run from a point of the grid on. -/
def rounds (world : World ω τ) (interval : τ) : Nat → τ → ω → RunTrace τ × ω
  | 0, _, w => (⟨[], none⟩, w)
  | n + 1, next, w =>
    -- Time goes on since the clock was read for `next`.
    let w := world.elapse w
    let timeout := Schedule.wait next (world.now w)
    let (stopped, w) := world.wait timeout w
    if stopped then (⟨[{ tick := next, timeout, stopped := true }], none⟩, w)
    else
      let w := world.cycle .periodic w
      -- The clock is read again: the cycle took its time.
      let round : Round τ := { tick := next, timeout, stopped := false, ended := world.now w }
      match Schedule.advance interval next (world.now w) with
      | .error fault => (⟨[round], some fault⟩, w)
      | .ok (following, missed) =>
        let w := missed.elim w fun m => world.log (missedRecord m) w
        let (rest, w) := rounds world interval n following w
        ({ rest with rounds := { round with missed } :: rest.rounds }, w)

/-- The record of a run that begins; the interval is shown in seconds. -/
def startRecord (seconds : Binary64) : Record :=
  .event .info "reconciler_starting" [("interval_seconds", .float seconds)]

/-- The record of a run that ends. -/
def stopRecord (cycles : Nat) : Record :=
  .event .info "reconciler_stopped" [("cycles", .int cycles)]

end Run

/-- Runs cycles: one at once, then one at each point of the schedule, for at most the given number
of waits. -/
def runCycles {ω τ : Type} [Time τ] (world : World ω τ) (interval : τ) (limit : Nat) (w : ω) :
    RunTrace τ × ω :=
  let w := world.cycle .initial w
  Run.rounds world interval limit (Time.add (world.now w) interval) w

/-- A whole run with its first record, and its last one unless it was broken off; the interval is
given in seconds too. -/
def run {ω τ : Type} [Time τ] (world : World ω τ) (interval : τ) (seconds : Binary64) (limit : Nat)
    (w : ω) : RunTrace τ × ω :=
  let (trace, w) := runCycles world interval limit (world.log (Run.startRecord seconds) w)
  (trace, if trace.fault.isSome then w else world.log (Run.stopRecord (world.cycles w)) w)

/-- Why an interval is refused. -/
def intervalMessage (seconds : Binary64) : String :=
  s!"rescan_interval must be positive, got {seconds.text}"

/-- Whether a run accepts an interval: it is refused only if it is zero or less. -/
def acceptsInterval (seconds : Binary64) : Bool :=
  seconds.isNaN || seconds.isPositive

end SliceAgent
