import SliceAgent.Proofs.Contents
import SliceAgent.Proofs.Upsert
import Mathlib.Data.List.Induction

/-!
# Slices of several nodes

The name of a slice joins those of its driver, node and device by dashes, and the names may have
dashes themselves. So two nodes can have slices of one name, exactly if the name of one node goes on
behind a dash where the other node's device begins (`RunsOver`, `sliceName_eq_iff`).

Agents of several nodes that share a store overwrite slices of each other exactly if such names are
among those that they store (`nodes_overwrite_iff`). This is said for cycles over one store in
memory, in any interleaving (`SharedStore`), and for upserts over a cluster, whose calls are served
in any order.
-/

namespace SliceAgent

/-! ### Names that two nodes have in common -/

/-- The name of a node goes on, behind a dash, with the beginning of what another node calls a
device, and the rest of that is its own device. -/
def RunsOver (n d n' d' : String) : Prop :=
  ∃ w, n = n' ++ "-" ++ w ∧ d' = w ++ "-" ++ d

theorem append_dash_eq_iff {a b c d : List Char} :
    a ++ '-' :: b = c ++ '-' :: d ↔ a = c ∧ b = d ∨
      (∃ w, a = c ++ '-' :: w ∧ d = w ++ '-' :: b) ∨
      ∃ w, c = a ++ '-' :: w ∧ b = w ++ '-' :: d := by
  constructor
  · intro h
    -- One of the two beginnings is a prefix of the other; what is left of it starts with the dash.
    rcases List.append_eq_append_iff.mp h with ⟨rest, hc, hb⟩ | ⟨rest, ha, hd⟩
    · cases rest with
      | nil => exact .inl ⟨by simp [hc], by simpa using hb⟩
      | cons x w =>
        obtain ⟨rfl, hrest⟩ := List.cons.inj hb
        exact .inr (.inr ⟨w, hc, hrest⟩)
    · cases rest with
      | nil => exact .inl ⟨by simp [ha], by simpa using hd.symm⟩
      | cons x w =>
        obtain ⟨rfl, hrest⟩ := List.cons.inj hd
        exact .inr (.inl ⟨w, ha, hrest⟩)
  · rintro (⟨rfl, rfl⟩ | ⟨w, rfl, rfl⟩ | ⟨w, rfl, rfl⟩) <;> simp

theorem runsOver_iff {n d n' d' : String} : RunsOver n d n' d' ↔
    ∃ w, n.toList = n'.toList ++ '-' :: w ∧ d'.toList = w ++ '-' :: d.toList := by
  constructor
  · rintro ⟨w, rfl, rfl⟩
    exact ⟨w.toList, by simp, by simp⟩
  · rintro ⟨w, hn, hd⟩
    refine ⟨.ofList w, String.toList_injective ?_, String.toList_injective ?_⟩
    · simp [hn]
    · simp [hd]

/-- **Two slices have the same name** exactly if they are those of one device on one node, or one
node's name runs over into the other's device. -/
theorem sliceName_eq_iff {driver n d n' d' : String} :
    sliceName driver n d = sliceName driver n' d' ↔
      n = n' ∧ d = d' ∨ RunsOver n d n' d' ∨ RunsOver n' d' n d := by
  rw [runsOver_iff, runsOver_iff, ← String.toList_inj, ← String.toList_inj, ← String.toList_inj,
    ← append_dash_eq_iff]
  simp [sliceName]

/-! ### Cycles over one store -/

/-- What agents of several nodes share: the store, the slices that the cycle of each node has still
to have stored, and those that were stored so far, each with its node. -/
structure SharedStore where
  store : MemoryStore := {}
  pending : String → List Slice := fun _ => []
  log : List (String × Slice) := []

/-- What an agent does next: it begins a cycle with the devices of a scan, or has one more slice of
its cycle stored. -/
inductive Move where
  | begin (devices : List (String × Device))
  | proceed

namespace SharedStore

/-- A move of the agent of a node. No cycle begins before the one under way has ended. -/
def move (driver : String) (s : SharedStore) (node : String) : Move → SharedStore
  | .begin devices =>
    if (s.pending node).isEmpty then
      { s with pending := Function.update s.pending node (buildSlices driver node devices) }
    else s
  | .proceed =>
    match s.pending node with
    | [] => s
    | slice :: rest =>
      { store := (s.store.upsert slice).1
        pending := Function.update s.pending node rest
        log := s.log ++ [(node, slice)] }

/-- Moves of any agents, one after another. -/
def run (driver : String) (s : SharedStore) (moves : List (String × Move)) : SharedStore :=
  moves.foldl (fun s m => s.move driver m.1 m.2) s

/-- The agent of a node is about to overwrite a slice that another node published. -/
def Overwrites (s : SharedStore) (node : String) : Prop :=
  ∃ slice rest held, s.pending node = slice :: rest ∧ s.store.held? slice.name = some held ∧
    held.nodeName ≠ .text node

/-- In the course of some moves no agent overwrites a slice of another node. -/
def NeverOverwrites (driver : String) (moves : List (String × Move)) : Prop :=
  ∀ before node after, moves = before ++ (node, .proceed) :: after →
    ¬Overwrites (run driver {} before) node

variable {driver : String} {s : SharedStore} {moves : List (String × Move)}

theorem run_concat (driver : String) (s : SharedStore) (moves : List (String × Move))
    (m : String × Move) :
    s.run driver (moves ++ [m]) = (s.run driver moves).move driver m.1 m.2 := by
  rw [run, run, List.foldl_append]
  rfl

theorem neverOverwrites_nil (driver : String) : NeverOverwrites driver [] := by
  intro before node after h
  simp at h

theorem neverOverwrites_concat {node : String} {m : Move} :
    NeverOverwrites driver (moves ++ [(node, m)]) ↔ NeverOverwrites driver moves ∧
      (m = .proceed → ¬Overwrites (run driver {} moves) node) := by
  constructor
  · intro h
    refine ⟨fun before n after hsplit => ?_, ?_⟩
    · exact h before n (after ++ [(node, m)]) (by simp [hsplit])
    · rintro rfl
      exact h moves node [] rfl
  · rintro ⟨hmoves, hlast⟩ before n after hsplit
    rcases List.eq_nil_or_concat after with rfl | ⟨after, last, rfl⟩
    · obtain ⟨rfl, hm⟩ := List.append_inj' hsplit rfl
      obtain ⟨rfl, rfl⟩ : node = n ∧ m = .proceed := by simpa using hm
      exact hlast rfl
    · rw [List.concat_eq_append, ← List.cons_append, ← List.append_assoc] at hsplit
      exact hmoves before n after (List.append_inj' hsplit rfl).1

/-- What is stored and what is to be stored are slices of devices on their nodes, and the store
holds under each name what was stored under it last. -/
structure IsConsistent (driver : String) (s : SharedStore) : Prop where
  pending : ∀ node, ∀ slice ∈ s.pending node, ∃ d : Device, slice = d.slice driver node
  log : ∀ e ∈ s.log, ∃ d : Device, e.2 = d.slice driver e.1
  held : ∀ name, s.store.held? (.text name) =
    (s.log.reverse.find? (·.2.name = .text name)).map (·.2)

theorem isConsistent_empty (driver : String) : IsConsistent driver {} :=
  ⟨fun _ _ h => (List.not_mem_nil h).elim, fun _ h => (List.not_mem_nil h).elim, fun _ => rfl⟩

/-- Once the slice of a device was stored, it is held under its name. -/
theorem held?_upsert (store : MemoryStore) (driver node : String) (d : Device) (name : String) :
    (store.upsert (d.slice driver node)).1.held? (.text name) =
      if (d.slice driver node).name = .text name then some (d.slice driver node)
      else store.held? (.text name) := by
  have hwrite : (store.upsert (d.slice driver node)).1 = (store.write (d.slice driver node)).1 :=
    congrArg Prod.fst (store.upsert_slice ⟨driver, node⟩ d)
  rw [hwrite, MemoryStore.held?_write]
  simp only [Json.same_text_iff]
  rfl

/-- Slices that an agent has to store are of its own node, also after it was given others. -/
theorem pending_update {pending : String → List Slice} {node : String} {slices : List Slice}
    (h : ∀ n, ∀ slice ∈ pending n, ∃ d : Device, slice = d.slice driver n)
    (hslices : ∀ slice ∈ slices, ∃ d : Device, slice = d.slice driver node) (n : String) :
    ∀ slice ∈ Function.update pending node slices n, ∃ d : Device, slice = d.slice driver n := by
  by_cases hn : n = node
  · subst hn
    rwa [Function.update_self]
  · rw [Function.update_of_ne hn]
    exact h n

/-- **One move** keeps this so. -/
theorem IsConsistent.move (h : IsConsistent driver s) (node : String) (m : Move) :
    IsConsistent driver (s.move driver node m) := by
  cases m with
  | begin devices =>
    rw [SharedStore.move]
    split
    · refine ⟨pending_update h.pending fun slice hslice => ?_, h.log, h.held⟩
      rw [buildSlices_eq] at hslice
      obtain ⟨d, -, rfl⟩ := List.mem_map.mp hslice
      exact ⟨d, rfl⟩
    · exact h
  | proceed =>
    rw [SharedStore.move]
    split
    · exact h
    · rename_i slice rest hpending
      obtain ⟨d, rfl⟩ := h.pending node slice (by simp [hpending])
      refine ⟨pending_update h.pending fun slice hslice => ?_, fun e he => ?_, fun name => ?_⟩
      · exact h.pending node slice (by simp [hpending, hslice])
      · rcases List.mem_append.mp he with he | he
        · exact h.log e he
        · obtain rfl := List.mem_singleton.mp he
          exact ⟨d, rfl⟩
      · rw [held?_upsert, h.held, List.reverse_concat, List.find?_cons]
        by_cases hname : (d.slice driver node).name = .text name <;> simp [hname]

theorem isConsistent_run (driver : String) (moves : List (String × Move)) :
    IsConsistent driver (run driver {} moves) := by
  induction moves using List.reverseRecOn with
  | nil => exact isConsistent_empty driver
  | append_singleton moves m ih =>
    rw [run_concat]
    exact ih.move m.1 m.2

/-- What an agent is about to overwrite is the last slice that was stored under the name. -/
theorem IsConsistent.overwrites_iff (h : IsConsistent driver s) {node : String} {slice : Slice}
    {rest : List Slice} (hpending : s.pending node = slice :: rest) :
    Overwrites s node ↔ ∃ e, s.log.reverse.find? (·.2.name = slice.name) = some e ∧ e.1 ≠ node := by
  obtain ⟨d, rfl⟩ := h.pending node slice (by simp [hpending])
  have hheld : s.store.held? (d.slice driver node).name =
      (s.log.reverse.find? (·.2.name = (d.slice driver node).name)).map (·.2) := h.held _
  have hnode {e : String × Slice}
      (he : s.log.reverse.find? (·.2.name = (d.slice driver node).name) = some e) :
      e.2.nodeName = .text e.1 := by
    obtain ⟨d', hd'⟩ := h.log e (List.mem_reverse.mp (List.mem_of_find?_eq_some he))
    rw [hd']
    rfl
  -- A slice names its node, so the one that is held tells who stored it last.
  constructor
  · rintro ⟨slice, rest', held, hpending', hslice, hne⟩
    obtain ⟨rfl, rfl⟩ := List.cons.inj (hpending.symm.trans hpending')
    rw [hheld, Option.map_eq_some_iff] at hslice
    obtain ⟨e, he, rfl⟩ := hslice
    refine ⟨e, he, fun hsame => hne ?_⟩
    rw [hnode he, hsame]
  · rintro ⟨e, he, hne⟩
    refine ⟨_, rest, e.2, hpending, by rw [hheld, he]; rfl, ?_⟩
    rw [hnode he]
    exact fun hsame => hne (Json.text.inj hsame)

/-- No two nodes had slices of one name stored. -/
def NamesApart (log : List (String × Slice)) : Prop :=
  ∀ e ∈ log, ∀ e' ∈ log, e.2.name = e'.2.name → e.1 = e'.1

/-- One more slice keeps names apart exactly if the last one of its name was of the same node. -/
theorem namesApart_concat_iff {log : List (String × Slice)} {node : String} {slice : Slice} :
    NamesApart (log ++ [(node, slice)]) ↔ NamesApart log ∧
      ∀ e, log.reverse.find? (·.2.name = slice.name) = some e → e.1 = node := by
  constructor
  · intro h
    refine ⟨fun e he e' he' => h e (by simp [he]) e' (by simp [he']), fun e he => ?_⟩
    have hmem : e ∈ log := List.mem_reverse.mp (List.mem_of_find?_eq_some he)
    have hname : e.2.name = slice.name := by simpa using List.find?_some he
    exact h e (by simp [hmem]) (node, slice) (by simp) hname
  · rintro ⟨hlog, hlast⟩
    have hslice : ∀ e ∈ log, e.2.name = slice.name → e.1 = node := by
      intro e he hname
      obtain ⟨last, hfind⟩ : ∃ last, log.reverse.find? (·.2.name = slice.name) = some last := by
        rw [← Option.isSome_iff_exists, List.find?_isSome]
        exact ⟨e, List.mem_reverse.mpr he, by simpa using hname⟩
      have hmem : last ∈ log := List.mem_reverse.mp (List.mem_of_find?_eq_some hfind)
      have hsame : last.2.name = slice.name := by simpa using List.find?_some hfind
      rw [hlog e he last hmem (hname.trans hsame.symm), hlast last hfind]
    simp only [NamesApart, List.forall_mem_append, List.forall_mem_singleton]
    exact ⟨fun e he => ⟨hlog e he, hslice e he⟩,
      fun e he hname => (hslice e he hname.symm).symm, fun _ => trivial⟩

/-- **Overwriting is told by the names.** No slice of another node is overwritten exactly if no two
nodes had slices of one name stored. -/
theorem neverOverwrites_iff (driver : String) (moves : List (String × Move)) :
    NeverOverwrites driver moves ↔ NamesApart (run driver {} moves).log := by
  induction moves using List.reverseRecOn with
  | nil => exact iff_of_true (neverOverwrites_nil driver) fun _ h => (List.not_mem_nil h).elim
  | append_singleton moves m ih =>
    obtain ⟨node, m⟩ := m
    have hconsistent := isConsistent_run driver moves
    -- Both sides change by a condition on the last move alone.
    rw [neverOverwrites_concat, run_concat, ih]
    generalize run driver {} moves = s at hconsistent ⊢
    cases m with
    | begin devices =>
      have hlog : (s.move driver node (.begin devices)).log = s.log := by
        rw [move]
        split <;> rfl
      simp [hlog]
    | proceed =>
      cases hpending : s.pending node with
      | nil =>
        have hnot : ¬Overwrites s node := by
          rintro ⟨slice, rest, held, hcons, -⟩
          rw [hpending] at hcons
          cases hcons
        simp [move, hpending, hnot]
      | cons slice rest =>
        have hlog : (s.move driver node .proceed).log = s.log ++ [(node, slice)] := by
          simp only [move, hpending]
        rw [hlog, hconsistent.overwrites_iff hpending, namesApart_concat_iff]
        simp

/-- An agent that no other one interrupts has all its slices stored. -/
theorem run_proceed (driver node : String) {slices : List Slice} (h : s.pending node = slices) :
    (s.run driver (List.replicate slices.length (node, .proceed))).store =
      MemoryStore.asStore.after s.store slices := by
  induction slices generalizing s with
  | nil => rfl
  | cons slice rest ih =>
    have hmove : s.move driver node .proceed =
        { store := (s.store.upsert slice).1
          pending := Function.update s.pending node rest
          log := s.log ++ [(node, slice)] } := by
      simp only [move, h]
    rw [List.length_cons, List.replicate_succ, run, List.foldl_cons, hmove]
    exact ih (Function.update_self ..)

/-- **A cycle that is not interrupted** does to the store what a cycle does that has it alone. -/
theorem run_cycle {node : String} (h : s.pending node = []) {scan : ScanReport}
    {devices : List (String × Device)} (hscan : scan.result = .devices devices)
    (duration : Binary64) (p : Progress) :
    (s.run driver
      ((node, .begin devices) :: List.replicate devices.length (node, .proceed))).store =
      (runCycle MemoryStore.asStore ⟨driver, node⟩ duration p s.store scan).store := by
  have hslices : buildSlices driver node devices =
      (inKeyOrder devices).map (·.slice driver node) := buildSlices_eq _ _ _
  have horderly := MemoryStore.isOrderly_asStore ⟨driver, node⟩ (inKeyOrder devices)
  have hmove : s.move driver node (.begin devices) =
      { s with pending := Function.update s.pending node (buildSlices driver node devices) } := by
    rw [move, h]
    rfl
  rw [run, List.foldl_cons, hmove, ← length_buildSlices driver node]
  refine (run_proceed driver node (Function.update_self ..)).trans ?_
  rw [hslices]
  exact (runCycle_of_isOrderly hscan horderly duration p s.store).2.1.symm

end SharedStore

/-! ### Upserts over a cluster -/

section Cluster

variable {σ : Type} {server : ApiServer σ}

open ApiServer

/-- A served call leaves what is stored under a name unless it writes it, and then it stores what it
answers. -/
theorem ApiServer.IsVersioned.stored_of_served (hserver : server.IsVersioned) {e : Event σ}
    (h : server.serve e.before e.call = (e.reply, e.after)) (name : Json) :
    (¬e.Writes name → server.stored e.after name = server.stored e.before name) ∧
      (e.Writes name → ∃ object, e.reply = .ok object ∧
        server.stored e.after name = some object) := by
  have hcases := hserver.serve_cases e.before e.call
  rw [h] at hcases
  rcases hcases with ⟨hwrite, object, hstores⟩ | ⟨hkeeps, hfails⟩
  · refine ⟨fun hnot => hstores.others name fun hname => hnot ?_, ?_⟩
    · exact ⟨⟨hwrite, object, hstores.reply⟩, hname.symm⟩
    · rintro ⟨-, rfl⟩
      exact ⟨object, hstores.reply, hstores.stored⟩
  · refine ⟨fun _ => hkeeps.stored name, ?_⟩
    rintro ⟨⟨hwrite, object, hreply⟩, -⟩
    obtain ⟨failure, hfailed⟩ := hfails hwrite
    cases hreply.symm.trans hfailed

/-- All calls of an upsert are about its slice. -/
theorem ClusterStore.target_of_mem_eventsOf (hserver : server.IsVersioned) {i : Nat} {slice : Slice}
    {s s' : σ} {events : List (Event σ)} {y : Exchange Upserted}
    (hhistory : server.IsHistory s events s')
    (hsteps : (upsert slice).Steps (eventsOf i events) y) :
    ∀ e ∈ eventsOf i events, e.call.target = slice.name := by
  rcases upsert_course hserver hhistory hsteps with
    ⟨hnil, -⟩ | ⟨g, hone, hget, -⟩ | ⟨g, w, htwo, hupsert⟩
  · simp [hnil]
  · simp [hone, hget, Call.target]
  · rw [htwo, List.forall_mem_cons, List.forall_mem_singleton, hupsert.write_call]
    exact ⟨by rw [hupsert.read_call, Call.target], target_writeCall slice _⟩

/-- **Nodes overwrite slices of each other exactly if their names run over.** The slices of two
nodes have the same name only if the name of one goes on, behind a dash, in the other's device. When
agents share a store in memory, in any interleaving of their cycles, no slice of another node is
overwritten exactly if no names that run over are among those that were stored. When they share a
cluster, whose calls are served in any order, a write for the device of a node leaves what is stored
for a device of another one, unless their names run over, and then it takes its place. -/
theorem nodes_overwrite_iff (driver : String) :
    (∀ n d n' d', sliceName driver n d = sliceName driver n' d' ↔
      n = n' ∧ d = d' ∨ RunsOver n d n' d' ∨ RunsOver n' d' n d) ∧
    (∀ moves, SharedStore.NeverOverwrites driver moves ↔ ∀ n (d : Device) n' (d' : Device),
      (n, d.slice driver n) ∈ (SharedStore.run driver {} moves).log →
      (n', d'.slice driver n') ∈ (SharedStore.run driver {} moves).log →
      n ≠ n' → ¬RunsOver n d.name n' d'.name) ∧
    ∀ (server : ApiServer σ), server.IsVersioned → ∀ (s : σ) (schedule : List Nat)
      (nodes : Nat → String) (devices : Nat → Device),
      let run := server.interleave schedule s fun i =>
        ClusterStore.upsert ((devices i).slice driver (nodes i))
      ∀ e ∈ run.events, e.IsWrite → ∀ n (d : Device), n ≠ nodes e.client →
        let overlap := RunsOver n d.name (nodes e.client) (devices e.client).name ∨
          RunsOver (nodes e.client) (devices e.client).name n d.name
        (¬overlap → server.stored e.after (d.slice driver n).name =
          server.stored e.before (d.slice driver n).name) ∧
        (overlap → ∃ object, e.reply = .ok object ∧
          server.stored e.after (d.slice driver n).name = some object) := by
  refine ⟨fun n d n' d' => sliceName_eq_iff, fun moves => ?_, ?_⟩
  · have hlog := (SharedStore.isConsistent_run driver moves).log
    rw [SharedStore.neverOverwrites_iff]
    generalize (SharedStore.run driver {} moves).log = log at hlog ⊢
    constructor
    · intro hapart n d n' d' hd hd' hne hover
      refine hne (hapart _ hd _ hd' (congrArg Json.text ?_))
      exact sliceName_eq_iff.mpr (.inr (.inl hover))
    · rintro hover ⟨n, slice⟩ he ⟨n', slice'⟩ he' hname
      obtain ⟨d, rfl⟩ : ∃ d : Device, slice = d.slice driver n := hlog _ he
      obtain ⟨d', rfl⟩ : ∃ d : Device, slice' = d.slice driver n' := hlog _ he'
      by_contra hne
      rcases sliceName_eq_iff.mp (Json.text.inj hname) with ⟨hn, -⟩ | h | h
      · exact hne hn
      · exact hover n d n' d' he he' hne h
      · exact hover n' d' n d he' he (Ne.symm hne) h
  · intro server hserver s schedule nodes devices run e he hwrite n d hne overlap
    obtain ⟨hhistory, hsteps⟩ := interleave_spec server schedule s fun i =>
      ClusterStore.upsert ((devices i).slice driver (nodes i))
    -- A client writes under the name of its own slice only, so the names decide what it touches.
    have htarget : e.call.target = ((devices e.client).slice driver (nodes e.client)).name :=
      ClusterStore.target_of_mem_eventsOf hserver hhistory (hsteps e.client) e
        (List.mem_filter.mpr ⟨he, by simp⟩)
    have hsame : (d.slice driver n).name = e.call.target ↔ overlap := by
      rw [htarget]
      change Json.text _ = Json.text _ ↔ _
      rw [Json.text.injEq, sliceName_eq_iff, or_iff_right fun h => hne h.1]
    obtain ⟨hkept, hstored⟩ :=
      hserver.stored_of_served (hhistory.serve_eq e he) (d.slice driver n).name
    exact ⟨fun h => hkept fun hwrites => h (hsame.mp hwrites.2.symm),
      fun h => hstored ⟨hwrite, (hsame.mpr h).symm⟩⟩

/-- Over a cluster a node's only device takes the place of another node's only device. -/
theorem nodes_overwrite_iff_over_cluster :
    let driver := "mock-accel.example.com"
    let device (name : String) : Device := ⟨name, "U", 1024, 0, .primary, "0000:11:00.0", 0⟩
    let nodes (i : Nat) := if i = 0 then "node-1" else "node"
    let devices (i : Nat) := device (if i = 0 then "mock0" else "1-mock0")
    let run := PlainServer.asServer.interleave [0, 0, 1, 1] .empty fun i =>
      ClusterStore.upsert ((devices i).slice driver (nodes i))
    ∃ e ∈ run.events, e.client = 1 ∧ e.IsWrite ∧ ∃ object, e.reply = .ok object ∧
      PlainServer.asServer.stored e.after ((device "mock0").slice driver "node-1").name =
        some object := by
  intro driver device nodes devices run
  have hevent : (run.events[3]?).map (fun e => (e.client, e.call.isWrite, e.reply.isOk)) =
      some (1, true, true) := by decide +kernel
  obtain ⟨e, he, hfields⟩ := Option.map_eq_some_iff.mp hevent
  obtain ⟨hclient, hwrite, hok⟩ : e.client = 1 ∧ e.call.isWrite = true ∧ e.reply.isOk = true := by
    simpa using hfields
  obtain ⟨object, hreply⟩ : ∃ object, e.reply = .ok object := by
    cases hreply : e.reply with
    | ok object => exact ⟨object, rfl⟩
    | error failure =>
      rw [hreply] at hok
      cases hok
  have hmem : e ∈ run.events := List.mem_of_getElem? he
  have hover : RunsOver "node-1" "mock0" "node" "1-mock0" := ⟨"1", by decide, by decide⟩
  obtain ⟨-, hstored⟩ := (nodes_overwrite_iff driver).2.2 PlainServer.asServer
    PlainServer.isVersioned .empty [0, 0, 1, 1] nodes devices e hmem ⟨hwrite, object, hreply⟩
    "node-1" (device "mock0") (by rw [hclient]; decide)
  exact ⟨e, hmem, hclient, ⟨hwrite, object, hreply⟩, hstored (by rw [hclient]; exact .inl hover)⟩

/-- The slice of a device on one node is updated by another node, for a device of its own. -/
theorem nodes_overwrite_dashed :
    let driver := "mock-accel.example.com"
    let device (name : String) : Device := ⟨name, "U", 1024, 0, .primary, "0000:11:00.0", 0⟩
    let first := ({} : MemoryStore).upsert ((device "mock0").slice driver "node-1")
    let second := first.1.upsert ((device "1-mock0").slice driver "node")
    sliceName driver "node-1" "mock0" = sliceName driver "node" "1-mock0" ∧
      first.2.result = .ok .created ∧ second.2.result = .ok .updated ∧
      (second.1.held? (.text (sliceName driver "node-1" "mock0"))).map (·.nodeName) =
        some (.text "node") := by
  decide +kernel

end Cluster

end SliceAgent
