import SliceAgent.Proofs.Cycle
import SliceAgent.Proofs.Ticks

/-!
# Runs do not depend on how cycles end

A run that is watched leaves a list of `Sight`s: each reading of the clock, each look at the stop
flag, each cycle with its end, and what the run itself logs. From what the clock and the flag show
alone its rounds can be told (`replay`): at which points it waits, when cycles end, what was missed,
and how many readings and looks it takes until it ends. So two runs that are shown the same go
through the same rounds, over whatever scanners and stores and however their cycles end.

One round after another has one shape (`Turns`): a wait that times out is followed by one cycle, and
one that finds the flag set is the last thing that happens. The warnings logged in between give the
numbers of points that were missed. A cycle is counted as soon as it is begun, so that the count
logged at the end is the number of cycles that were run (`schedule_ignores_endings`).
-/

namespace SliceAgent

variable {ω ω' τ : Type}

/-! ### Watched runs -/

/-- Something that happens in the course of a run. -/
inductive Sight (τ : Type) where
  /-- The clock is read. -/
  | clock (time : τ)
  /-- A wait is over; the stop flag was found set, or the wait timed out. -/
  | flag (stopped : Bool)
  /-- A cycle has ended. -/
  | cycle (trigger : Trigger) (ending : CycleEnd)
  /-- The run itself logs something. -/
  | logged (record : Record)

namespace Sight

/-- What the clock shows, if something is a reading of it. -/
def reading? : Sight τ → Option τ
  | .clock time => some time
  | .flag _ | .cycle _ _ | .logged _ => none

/-- What the stop flag shows, if something is a look at it. -/
def look? : Sight τ → Option Bool
  | .flag stopped => some stopped
  | .clock _ | .cycle _ _ | .logged _ => none

/-- What set off a cycle, if something is one. -/
def trigger? : Sight τ → Option Trigger
  | .cycle trigger _ => some trigger
  | .clock _ | .flag _ | .logged _ => none

/-- The number of missed points, if something is a warning of them. -/
def missed? : Sight τ → Option Int
  | .logged record => record.missed?
  | .clock _ | .flag _ | .cycle _ _ => none

end Sight

/-- The readings of the clock and the looks at the stop flag in what happened are the first ones of
two lists. -/
structure AreShown (sights : List (Sight τ)) (readings : List τ) (looks : List Bool) : Prop where
  readings : sights.filterMap (·.reading?) <+: readings
  looks : sights.filterMap (·.look?) <+: looks

namespace AreShown

variable {sights sights' : List (Sight τ)} {readings : List τ} {looks : List Bool}

theorem clock {time : τ} (h : AreShown (.clock time :: sights) readings looks) :
    ∃ rest, readings = time :: rest ∧ AreShown sights rest looks := by
  obtain ⟨rest, rfl, hrest⟩ := List.cons_prefix_iff.mp h.readings
  exact ⟨rest, rfl, hrest, h.looks⟩

theorem flag {stopped : Bool} (h : AreShown (.flag stopped :: sights) readings looks) :
    ∃ rest, looks = stopped :: rest ∧ AreShown sights readings rest := by
  obtain ⟨rest, rfl, hrest⟩ := List.cons_prefix_iff.mp h.looks
  exact ⟨rest, rfl, h.readings, hrest⟩

theorem cycle {trigger : Trigger} {ending : CycleEnd}
    (h : AreShown (.cycle trigger ending :: sights) readings looks) :
    AreShown sights readings looks :=
  ⟨h.readings, h.looks⟩

theorem logged {record : Record} (h : AreShown (.logged record :: sights) readings looks) :
    AreShown sights readings looks :=
  ⟨h.readings, h.looks⟩

theorem of_append (h : AreShown (sights ++ sights') readings looks) :
    AreShown sights readings looks := by
  obtain ⟨hreadings, hlooks⟩ := h
  rw [List.filterMap_append] at hreadings hlooks
  exact ⟨(List.prefix_append _ _).trans hreadings, (List.prefix_append _ _).trans hlooks⟩

end AreShown

/-- What an agent runs among: a clock, a wait for the stop flag, a scanner, a store, and a place for
records, all of which may do anything to a state outside of the run. -/
structure Site (ω τ : Type) where
  now : ω → τ
  elapse : ω → ω
  wait : τ → ω → Bool × ω
  scan : ω → ScanReport × ω
  duration : ω → Binary64
  store : Store ω
  id : Identity
  log : Record → ω → ω

/-- A run in progress: the state outside, what the cycles have left behind, and what has happened.
-/
structure Watched (ω τ : Type) where
  outside : ω
  progress : Progress
  sights : List (Sight τ) := []

namespace Watched

/-- What set off the cycles that a run has made so far. -/
def triggers (w : Watched ω τ) : List Trigger :=
  w.sights.filterMap (·.trigger?)

/-- The numbers of missed points that a run has reported so far. -/
def reported (w : Watched ω τ) : List Int :=
  w.sights.filterMap (·.missed?)

end Watched

namespace Site

/-- A cycle at a site: a scan, and the slices of what it found stored. However it ends, the end is
logged and the run goes on. -/
def cycle (site : Site ω τ) (trigger : Trigger) (w : Watched ω τ) : Watched ω τ :=
  let (scan, o) := site.scan w.outside
  let report := runCycle site.store site.id (site.duration o) w.progress o scan
  let o := (report.records ++ report.ending.runRecords trigger).foldl (fun o r => site.log r o)
    report.store
  { outside := o
    progress := report.progress
    sights := w.sights ++ [.cycle trigger report.ending, .clock (site.now o)] }

/-- The surroundings of a run at a site, watched. The clock is read once after each cycle and once
before each wait. -/
def world (site : Site ω τ) : World (Watched ω τ) τ where
  now w := site.now w.outside
  elapse w :=
    let o := site.elapse w.outside
    { w with outside := o, sights := w.sights ++ [.clock (site.now o)] }
  wait timeout w :=
    let (stopped, o) := site.wait timeout w.outside
    (stopped, { w with outside := o, sights := w.sights ++ [.flag stopped] })
  cycle := site.cycle
  log r w := { w with outside := site.log r w.outside, sights := w.sights ++ [.logged r] }
  cycles w := w.progress.cycles

/-- Whatever becomes of a cycle, it is counted, and the clock is read after it. -/
theorem cycle_spec (site : Site ω τ) (trigger : Trigger) (w : Watched ω τ) :
    (site.cycle trigger w).progress.cycles = w.progress.cycles + 1 ∧
      ∃ ending, (site.cycle trigger w).sights =
        w.sights ++ [.cycle trigger ending, .clock (site.now (site.cycle trigger w).outside)] :=
  ⟨runCycle_cycles _ _ _ _ _ _, _, rfl⟩

/-- The clock is read before a wait, and the stop flag is looked at after it. -/
theorem wait_spec (site : Site ω τ) {timeout : τ} {stopped : Bool} {w u : Watched ω τ}
    (h : site.world.wait timeout (site.world.elapse w) = (stopped, u)) :
    u.sights = w.sights ++ [.clock (site.world.now (site.world.elapse w)), .flag stopped] ∧
      u.progress = w.progress := by
  obtain ⟨rfl, rfl⟩ := Prod.mk.inj h
  exact ⟨List.append_assoc .., rfl⟩

/-- Points that were missed are logged, and nothing else happens. -/
theorem missed_spec (site : Site ω τ) (missed : Option Int) (w : Watched ω τ) :
    let u := missed.elim w fun m => site.world.log (Run.missedRecord m) w
    u.sights = w.sights ++ (missed.map fun m => .logged (Run.missedRecord m)).toList ∧
      u.progress = w.progress := by
  cases missed with
  | none => exact ⟨(List.append_nil _).symm, rfl⟩
  | some m => exact ⟨rfl, rfl⟩

end Site

namespace Run

/-! ### Rounds told from the clock and the flag -/

/-- The first rounds of a run from a point of the grid on, as told from what the clock and the stop
flag show. -/
def replay (interval : Rat) : Nat → Rat → List Rat → List Bool → List (Round Rat)
  | _ + 1, next, before :: _, true :: _ =>
    [{ tick := next, timeout := Schedule.wait next before, stopped := true }]
  | n + 1, next, before :: ended :: readings, false :: looks =>
    match Schedule.advance interval next ended with
    | .ok (following, missed) =>
      { tick := next, timeout := Schedule.wait next before, stopped := false, ended, missed } ::
        replay interval n following readings looks
    | .error _ => []
  | _, _, _, _ => []

theorem replay_of_served {interval next following before ended : Rat} {missed : Option Int}
    {n : Nat} {readings : List Rat} {looks : List Bool}
    (h : Schedule.advance interval next ended = .ok (following, missed)) :
    replay interval (n + 1) next (before :: ended :: readings) (false :: looks) =
      { tick := next, timeout := Schedule.wait next before, stopped := false, ended, missed } ::
        replay interval n following readings looks := by
  rw [replay, h]

/-- The first rounds of a whole run, as told from what the clock and the stop flag show: the first
reading is the one that the grid begins with. -/
def replayAll (interval : Rat) (limit : Nat) : List Rat → List Bool → List (Round Rat)
  | origin :: readings, looks => replay interval limit (origin + interval) readings looks
  | [], _ => []

/-- In exact time the points that were missed can always be counted. -/
theorem exists_advance (interval next now : Rat) :
    ∃ following missed, Schedule.advance interval next now = .ok (following, missed) := by
  rw [Schedule.advance]
  split
  · exact ⟨_, _, rfl⟩
  · exact ⟨_, _, rfl⟩

/-! ### The shape of a run -/

/-- What happens in some rounds: a wait that times out is followed by one cycle, and if points were
missed, then by a record of how many; a wait that finds the stop flag set is the last thing to
happen. -/
inductive Turns : List (Round Rat) → List (Sight Rat) → Prop
  | nil : Turns [] []
  | stopped (tick timeout before : Rat) :
    Turns [{ tick, timeout, stopped := true }] [.clock before, .flag true]
  | served (tick timeout before now : Rat) (ending : CycleEnd) (missed : Option Int)
      (rest : List (Round Rat)) (sights : List (Sight Rat)) (turns : Turns rest sights) :
    Turns ({ tick, timeout, stopped := false, ended := now, missed } :: rest)
      (.clock before :: .flag false :: .cycle .periodic ending :: .clock now ::
        ((missed.map fun m => .logged (missedRecord m)).toList ++ sights))

/-- The record of missed points is no reading, no look and no cycle. -/
theorem filterMap_missed {β : Type} {f : Sight Rat → Option β} (missed : Option Int)
    (h : ∀ r, f (.logged r) = none) :
    (missed.map fun m => Sight.logged (missedRecord m)).toList.filterMap f = [] := by
  cases missed <;> simp [h]

theorem cyclesIn_cons_of_ended {round : Round Rat} (h : round.ended.isSome = true)
    (rest : List (Round Rat)) : cyclesIn (round :: rest) = cyclesIn rest + 1 :=
  List.countP_cons_of_pos h

theorem Turns.triggers_eq {rounds : List (Round Rat)} {sights : List (Sight Rat)}
    (h : Turns rounds sights) :
    sights.filterMap (·.trigger?) = List.replicate (cyclesIn rounds) .periodic := by
  induction h with
  | nil => rfl
  | stopped => rfl
  | served tick timeout before now ending missed rest sights turns ih =>
    change Trigger.periodic :: List.filterMap _ (_ ++ sights) = _
    rw [List.filterMap_append, filterMap_missed missed fun _ => rfl, List.nil_append, ih,
      cyclesIn_cons_of_ended, List.replicate_succ]
    rfl

/-- What the warnings report is what the rounds counted. -/
theorem Turns.missed_eq {rounds : List (Round Rat)} {sights : List (Sight Rat)}
    (h : Turns rounds sights) :
    sights.filterMap (·.missed?) = rounds.filterMap (·.missed) := by
  induction h with
  | nil => rfl
  | stopped => rfl
  | served tick timeout before now ending missed rest sights turns ih =>
    change List.filterMap _ (_ ++ sights) = _
    rw [List.filterMap_append, ih]
    cases missed <;> rfl

/-- **Rounds of a watched run.** They are not broken off, they have their shape, each cycle is
counted, and they can be told from what the clock and the flag show. -/
theorem rounds_spec (site : Site ω Rat) (interval : Rat) (n : Nat) (next : Rat)
    (w : Watched ω Rat) :
    let result := rounds site.world interval n next w
    result.1.fault = none ∧
      result.2.progress.cycles = w.progress.cycles + cyclesIn result.1.rounds ∧
      ∃ turns, result.2.sights = w.sights ++ turns ∧ Turns result.1.rounds turns ∧
        ∀ readings looks, AreShown turns readings looks →
          result.1.rounds = replay interval n next readings looks := by
  induction n generalizing next w with
  | zero => exact ⟨rfl, rfl, [], by simp [rounds], .nil, fun _ _ _ => by simp [rounds, replay]⟩
  | succ n ih =>
    let before := site.world.now (site.world.elapse w)
    rcases hwait : site.world.wait (Schedule.wait next before) (site.world.elapse w) with
      ⟨_ | _, u⟩
    · obtain ⟨hsights, hprogress⟩ := site.wait_spec hwait
      obtain ⟨hcycles, ending, hcycle⟩ := site.cycle_spec .periodic u
      let x := site.cycle .periodic u
      obtain ⟨following, missed, hadvance⟩ := exists_advance interval next (site.world.now x)
      obtain ⟨hmissed, hkept⟩ := site.missed_spec missed x
      have hspec := ih following (missed.elim x fun m => site.world.log (missedRecord m) x)
      rcases hrest : rounds site.world interval n following
        (missed.elim x fun m => site.world.log (missedRecord m) x) with ⟨trace, v⟩
      rw [hrest] at hspec
      obtain ⟨hfault, hcount, turns, hturns, hshape, hreplay⟩ := hspec
      rw [rounds_succ_of_served hwait hadvance hrest]
      dsimp only at hfault hcount hturns hshape hreplay ⊢
      refine ⟨hfault, ?_, _, ?_, .served _ _ before _ ending missed _ turns hshape, ?_⟩
      · rw [hcount, hkept, hcycles, hprogress, cyclesIn_cons_of_ended (by rfl)]
        omega
      · rw [hturns, hmissed, hcycle, hsights]
        simp only [List.append_assoc]
        rfl
      · intro readings looks hshown
        obtain ⟨_, rfl, hflag⟩ := hshown.clock
        obtain ⟨looks, rfl, hcycle⟩ := hflag.flag
        obtain ⟨readings, rfl, hmissed⟩ := hcycle.cycle.clock
        have hturns : AreShown turns readings looks := by
          cases missed with
          | none => exact hmissed
          | some m => exact hmissed.logged
        rw [hreplay readings looks hturns]
        exact (replay_of_served hadvance).symm
    · obtain ⟨hsights, hprogress⟩ := site.wait_spec hwait
      rw [rounds_succ_of_stopped hwait]
      refine ⟨rfl, by rw [hprogress]; rfl, _, hsights, .stopped _ _ _, ?_⟩
      intro readings looks hshown
      obtain ⟨readings, rfl, hflag⟩ := hshown.clock
      obtain ⟨looks, rfl, -⟩ := hflag.flag
      rw [replay]

/-! ### Whole runs -/

/-- What a run goes through from the first record to the last one. -/
structure GoesThrough (seconds : Binary64) (p : Progress) (trace : RunTrace Rat)
    (final : Watched ω Rat) : Prop where
  /-- Nothing breaks it off. -/
  unbroken : trace.fault = none
  /-- One cycle is made before the stop flag is looked at, and all rounds come after it. The last
  record gives the number of cycles that had been made before and of those begun. -/
  shape : ∃ ending origin turns last, Turns trace.rounds turns ∧
    final.sights = .logged (startRecord seconds) :: .cycle .initial ending :: .clock origin ::
      (turns ++ [.logged last]) ∧
    last.cycles? = some ((p.cycles + final.triggers.length : Nat) : Int)
  /-- Its cycles are the initial one and one for each wait that timed out. -/
  cycles : final.triggers = .initial :: List.replicate (cyclesIn trace.rounds) .periodic
  /-- The number of cycles has grown by those that were begun. -/
  counted : final.progress.cycles = p.cycles + final.triggers.length
  /-- The warnings logged give the points that its rounds missed. -/
  reported : final.reported = trace.rounds.filterMap (·.missed)

/-- **A watched run.** It goes through its rounds, which can be told from what the clock and the
flag show. -/
theorem run_spec (site : Site ω Rat) (interval : Rat) (seconds : Binary64) (limit : Nat)
    (o : ω) (p : Progress) :
    let result := run site.world interval seconds limit { outside := o, progress := p }
    GoesThrough seconds p result.1 result.2 ∧
      ∀ readings looks, AreShown result.2.sights readings looks →
        result.1.rounds = replayAll interval limit readings looks := by
  let w : Watched ω Rat := site.world.log (startRecord seconds) { outside := o, progress := p }
  obtain ⟨hcycles, ending, hcycle⟩ := site.cycle_spec .initial w
  let x := site.cycle .initial w
  have hspec := rounds_spec site interval limit (site.now x.outside + interval) x
  rcases hrounds : rounds site.world interval limit (site.now x.outside + interval) x with
    ⟨trace, v⟩
  rw [hrounds] at hspec
  dsimp only at hspec
  obtain ⟨hfault, hcount, turns, hturns, hshape, hreplay⟩ := hspec
  let final := site.world.log (stopRecord v.progress.cycles) v
  have hfinal : final.sights = .logged (startRecord seconds) :: .cycle .initial ending ::
      .clock (site.now x.outside) :: (turns ++ [.logged (stopRecord v.progress.cycles)]) := by
    change v.sights ++ _ = _
    rw [hturns, hcycle]
    rfl
  have htriggers : final.triggers =
      .initial :: List.replicate (cyclesIn trace.rounds) .periodic := by
    rw [Watched.triggers, hfinal]
    change Trigger.initial :: List.filterMap _ (turns ++ _) = _
    rw [List.filterMap_append, hshape.triggers_eq]
    exact congrArg _ (List.append_nil _)
  have hcounted : v.progress.cycles = p.cycles + final.triggers.length := by
    rw [hcount, hcycles, htriggers, List.length_cons, List.length_replicate]
    change p.cycles + 1 + _ = _
    omega
  have hreported : final.reported = trace.rounds.filterMap (·.missed) := by
    rw [Watched.reported, hfinal]
    change List.filterMap _ (turns ++ _) = _
    rw [List.filterMap_append, hshape.missed_eq]
    exact List.append_nil _
  have hlast : (stopRecord v.progress.cycles).cycles? =
      some ((p.cycles + final.triggers.length : Nat) : Int) :=
    congrArg (fun n : Nat => some (n : Int)) hcounted
  rw [run_of_rounds (by exact hrounds) hfault]
  refine ⟨⟨hfault, ⟨ending, _, turns, _, hshape, hfinal, hlast⟩, htriggers, hcounted,
    hreported⟩, ?_⟩
  intro readings looks hshown
  change AreShown final.sights readings looks at hshown
  rw [hfinal] at hshown
  obtain ⟨readings, rfl, hturns⟩ := hshown.logged.cycle.clock
  exact hreplay readings looks hturns.of_append

end Run

open Run in
/-- **How cycles end never reaches the schedule.** Take any two runs, over any sites, to which the
clock and the stop flag show the same. Whatever their scans and their stores do, and so however
their cycles end, they go through the same rounds: they wait for the same points, make the same
cycles, miss the same points and report the same numbers of them.

And every run goes through to its last record. It makes one cycle before it looks at the stop flag,
one after each wait that times out and none after the wait that finds the flag set, it reports the
points that its rounds missed, and the number of cycles in its last record is that of the cycles
begun. -/
theorem schedule_ignores_endings (site : Site ω Rat) (site' : Site ω' Rat) (interval : Rat)
    (seconds seconds' : Binary64) (limit : Nat) (o : ω) (o' : ω') (p p' : Progress) :
    let result := run site.world interval seconds limit { outside := o, progress := p }
    let result' := run site'.world interval seconds' limit { outside := o', progress := p' }
    (∀ readings looks, AreShown result.2.sights readings looks →
      AreShown result'.2.sights readings looks →
        result.1 = result'.1 ∧ result.2.triggers = result'.2.triggers ∧
          result.2.reported = result'.2.reported) ∧
      GoesThrough seconds p result.1 result.2 := by
  intro result result'
  obtain ⟨hgoes, hreplay⟩ := run_spec site interval seconds limit o p
  obtain ⟨hgoes', hreplay'⟩ := run_spec site' interval seconds' limit o' p'
  refine ⟨fun readings looks hshown hshown' => ?_, hgoes⟩
  have hrounds : result.1.rounds = result'.1.rounds :=
    (hreplay readings looks hshown).trans (hreplay' readings looks hshown').symm
  have htrace : result.1 = result'.1 := by
    have hfault : result.1.fault = result'.1.fault := hgoes.unbroken.trans hgoes'.unbroken.symm
    cases hresult : result.1
    cases hresult' : result'.1
    simp_all
  exact ⟨htrace, hgoes.cycles.trans (hrounds ▸ hgoes'.cycles.symm),
    hgoes.reported.trans (hrounds ▸ hgoes'.reported.symm)⟩

/-- A site where each scan takes a second and has the next result of a list, a wait takes as long as
it may, and the stop flag is found set once the list is over. -/
def scriptedSite : Site (Rat × List ScanResult) Rat where
  now o := o.1
  elapse o := o
  wait timeout o := if o.2.isEmpty then (true, o) else (false, (o.1 + timeout, o.2))
  scan o := match o.2 with
    | [] => (⟨.devices [], [], []⟩, o)
    | result :: rest => (⟨result, [], []⟩, (o.1 + 1, rest))
  duration _ := .ofInt 1
  store := { upsert := fun o slice => (o, ⟨slice, .ok .created⟩), records := fun _ => [] }
  id := ⟨"mock-accel.example.com", "node-1"⟩
  log _ o := o

/-- Three cycles that are complete, and three of which none is: they run at the same points, and the
last record of each run gives their number. -/
theorem schedule_ignores_endings_scripted :
    let complete := run scriptedSite.world 2 (.ofInt 2) 5
      { outside := (0, [.devices [], .devices [], .devices []]), progress := {} }
    let broken := run scriptedSite.world 2 (.ofInt 2) 5
      { outside := (0, [.failed "unlistable", .crashed .digitLimit, .crashed .digitLimit])
        progress := {} }
    complete.1 = broken.1 ∧ broken.1.rounds.map (·.tick) = [3, 5, 7] ∧
      broken.2.triggers = [.initial, .periodic, .periodic] ∧
      (broken.2.sights.getLast?.bind fun
        | .logged record => record.cycles?
        | _ => none) = some 3 := by
  intro complete broken
  have hcomplete : AreShown complete.2.sights [1, 1, 4, 4, 6, 6] [false, false, true] :=
    ⟨by decide +kernel, by decide +kernel⟩
  have hbroken : AreShown broken.2.sights [1, 1, 4, 4, 6, 6] [false, false, true] :=
    ⟨by decide +kernel, by decide +kernel⟩
  obtain ⟨htrace, -⟩ := (schedule_ignores_endings scriptedSite scriptedSite 2 (.ofInt 2) (.ofInt 2)
    5 _ _ {} {}).1 _ _ hcomplete hbroken
  exact ⟨htrace, by decide +kernel, by decide +kernel, by decide +kernel⟩

end SliceAgent
