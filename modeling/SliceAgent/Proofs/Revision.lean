import SliceAgent.Proofs.Upsert

/-!
# Storing a slice that was fetched

A client that fetches a slice, changes it and stores it makes three calls: the get of the fetch, and
the get and the write of the upsert. The version that the slice has since the fetch takes no part in
this, for the upsert sends the one that its own get returns (`upsert_withVersion`).

So a slice is never too old to be stored. Whoever writes the name between the two gets gives it a
version other than the slice has, and still the write is accepted or refused by what is done between
the second get and the write alone. A client whose slice is out of date replaces what it has not
seen (`outdated_slice_replaces_unseen`).
-/

namespace SliceAgent

variable {σ α β : Type}

namespace Exchange

/-- An exchange that goes on with another one as soon as it is done. -/
def bind : Exchange α → (α → Exchange β) → Exchange β
  | .done a, f => f a
  | .ask call next, f => .ask call fun r => (next r).bind f

/-- Served calls lead an exchange with its result changed to where they lead the exchange. -/
theorem steps_map {f : α → β} {x : Exchange α} {events : List (ApiServer.Event σ)}
    {y : Exchange β} : (x.map f).Steps events y ↔ ∃ x', x.Steps events x' ∧ y = x'.map f := by
  induction events generalizing x with
  | nil => simp [steps_nil, eq_comm]
  | cons e rest ih =>
    cases x with
    | done a => simp [map, Steps]
    | ask call next => simp [map, Steps, ih, and_assoc]

end Exchange

namespace ClusterStore

open ApiServer

/-! ### The version of the caller's slice -/

theorem proceed_withVersion (slice : Slice) (version : Json) (version? : Option Json) :
    proceed { slice with version } version? = proceed slice version? := by
  cases version? <;> rfl

/-- **The version takes no part.** A slice with another version makes the same calls, and storing it
ends in the same way. -/
theorem upsert_withVersion (slice : Slice) (version : Json) :
    (upsert { slice with version }).map (·.result) = (upsert slice).map (·.result) := by
  simp only [upsert_eq_proceed, Exchange.map]
  congr 1
  funext reply
  cases readVersion slice.name reply with
  | error fault => rfl
  | ok version? => simp only [proceed_withVersion]

/-- A slice that was read has the version of its object. -/
theorem versionOf_of_ofManifest {object : Json} {slice : Slice}
    (h : Slice.ofManifest object = .ok slice) : versionOf object = .ok slice.version := by
  obtain ⟨top, metadata, -, -, rfl, hmetadata, -, -, -, -, -, -, -, -, hversion⟩ :=
    Slice.ofManifest_eq_ok_iff.mp h
  have hfield : fieldOf "metadata" (.obj []) (.obj top) = .ok (.obj metadata) :=
    congrArg Except.ok hmetadata
  rw [versionOf, hfield, hversion]
  rfl

/-! ### Fetching, changing and storing -/

/-- Fetches the slice of a name, changes it and stores it. -/
def revise (name : Json) (edit : Slice → Slice) : Exchange (Except GetFault (Option Upserted)) :=
  (get name).bind fun
    | .error fault => .done (.error fault)
    | .ok none => .done (.ok none)
    | .ok (some slice) => (upsert (edit slice)).map fun u => .ok (some u)

/-- What comes of a get that was answered. -/
def fetched (name : Json) (reply : Reply) : Except GetFault (Option Slice) :=
  match found name reply with
  | .error fault => .error (.upsert fault)
  | .ok none => .ok none
  | .ok (some object) => ((Slice.ofManifest object).mapError .manifest).map some

theorem found_eq_ok_some {name object : Json} {reply : Reply}
    (h : found name reply = .ok (some object)) : reply = .ok object := by
  rw [found.eq_def] at h
  split at h
  · cases h
  · cases h
    rfl
  · split at h <;> cases h
  · cases h

/-- A slice that was fetched was read from an object that was answered. -/
theorem exists_of_fetched {name : Json} {reply : Reply} {slice : Slice}
    (h : fetched name reply = .ok (some slice)) :
    ∃ object, reply = .ok object ∧ Slice.ofManifest object = .ok slice := by
  rw [fetched] at h
  rcases hfound : found name reply with fault | (_ | object)
  all_goals simp only [hfound] at h
  · cases h
  · cases h
  · cases hread : Slice.ofManifest object with
    | error fault => simp [hread, Except.mapError, Except.map] at h
    | ok slice' =>
      obtain rfl : slice' = slice := by simpa [hread, Except.mapError, Except.map] using h
      exact ⟨object, found_eq_ok_some hfound, hread⟩

/-- A client that goes on after its fetch has a slice with the version of the object, and it goes on
with storing it. -/
theorem exists_revised {server : ApiServer σ} (hserver : server.IsVersioned) {name : Json}
    {edit : Slice → Slice} {fetch : Event σ} {rest : List (Event σ)}
    {y : Exchange (Except GetFault (Option Upserted))}
    (hserve : server.serve fetch.before fetch.call = (fetch.reply, fetch.after))
    (hsteps : (revise name edit).Steps (fetch :: rest) y) (hrest : rest ≠ []) :
    fetch.call = .get name ∧ ∃ object slice x,
      fetch.reply = .ok object ∧ Slice.ofManifest object = .ok slice ∧
        server.version? fetch.before name = some slice.version ∧
        (upsert (edit slice)).Steps rest x ∧ y = x.map fun u => .ok (some u) := by
  obtain ⟨hcall, hsteps⟩ := hsteps
  rw [hcall] at hserve
  refine ⟨hcall, ?_⟩
  -- Whatever else came of the fetch, the client would be done with it.
  have hdone {result : Except GetFault (Option Upserted)} :
      ¬(Exchange.done result).Steps rest y := fun h => hrest (Exchange.steps_done.mp h).1
  change Exchange.Steps (match fetched name fetch.reply with
    | .error _ => _ | .ok none => _ | .ok (some _) => _) rest y at hsteps
  rcases hfetched : fetched name fetch.reply with fault | (_ | slice)
  all_goals rw [hfetched] at hsteps
  · exact absurd hsteps hdone
  · exact absurd hsteps hdone
  · obtain ⟨object, hreply, hread⟩ := exists_of_fetched hfetched
    have hstored : server.stored fetch.before name = some object := by
      cases hstored : server.stored fetch.before name with
      | none =>
        obtain ⟨reason, habsent⟩ := hserver.get_absent _ _ hstored
        rw [hserve, hreply] at habsent
        cases habsent
      | some object' =>
        have hanswer := hserver.get_stored _ _ _ hstored
        rw [hserve, hreply] at hanswer
        rw [Except.ok.inj hanswer]
    obtain ⟨x, hx, hy⟩ := Exchange.steps_map.mp hsteps
    exact ⟨object, slice, x, hreply, hread,
      version?_eq_some hstored (versionOf_of_ofManifest hread), hx, hy⟩

end ClusterStore

namespace ApiServer

/-- The calls of a client that makes three, the last two of which come after a fetch. -/
structure ThreeCalls (i : Nat) (events : List (Event σ)) where
  earlier : List (Event σ)
  fetch : Event σ
  rest : List (Event σ)
  events_eq : events = earlier ++ fetch :: rest
  fetch_client : fetch.client = i
  others : ∀ e ∈ earlier, e.client ≠ i
  calls : TwoCalls i rest

namespace ThreeCalls

variable {server : ApiServer σ} {i : Nat} {events : List (Event σ)}

/-- What the others did between the fetch and the second get. -/
def since (c : ThreeCalls i events) : List (Event σ) :=
  c.calls.earlier

theorem eventsOf_eq (c : ThreeCalls i events) :
    eventsOf i events = c.fetch :: eventsOf i c.rest := by
  have hnone : eventsOf i c.earlier = [] :=
    List.filter_eq_nil_iff.mpr fun e he => by simpa using c.others e he
  conv_lhs => rw [c.events_eq]
  rw [eventsOf, List.filter_append, List.filter_cons_of_pos (by simpa using c.fetch_client)]
  change eventsOf i c.earlier ++ _ = _
  rw [hnone]
  rfl

/-- The fetch is served, what lies between it and the second get is a history of the server, and so
is all that comes after it. -/
theorem isHistory (c : ThreeCalls i events) {s s' : σ} (h : server.IsHistory s events s') :
    server.serve c.fetch.before c.fetch.call = (c.fetch.reply, c.fetch.after) ∧
      server.IsHistory c.fetch.after c.since c.calls.read.before ∧
      server.IsHistory c.fetch.after c.rest s' := by
  rw [c.events_eq] at h
  obtain ⟨_, -, rfl, hfetch, hrest⟩ := isHistory_append.mp h
  refine ⟨hfetch, ?_, hrest⟩
  rw [c.calls.events_eq] at hrest
  obtain ⟨_, hsince, rfl, -⟩ := isHistory_append.mp hrest
  exact hsince

end ThreeCalls

end ApiServer

/-! ### Slices that are out of date -/

namespace ClusterStore

open ApiServer

/-- What becomes of a slice that is stored with the version it was fetched with, when its name has
an object of another version by then. -/
structure ReplacesUnseen (server : ApiServer σ) (slice : Slice) {i : Nat} {events : List (Event σ)}
    (c : TwoCalls i events) (y : Exchange (Except GetFault (Option Upserted))) (theirs : Json) :
    Prop where
  found : server.stored c.read.before slice.name = some theirs
  /-- The write is for the object that the second get returned, not for the one fetched. -/
  version : ∃ v, versionOf theirs = .ok v ∧ v ≠ slice.version ∧
    c.write.call = .replace slice.name { slice with version := v }.manifest
  /-- If nobody writes the name after the second get, the server still has that object, and it
  replaces it unless it fails in a way of its own. -/
  replaced : (∀ e ∈ c.between, ¬e.Writes slice.name) →
    server.stored c.write.before slice.name = some theirs ∧
      ((∃ ours u, server.Stores c.write.before slice.name ours (c.write.reply, c.write.after) ∧
          y = .done (.ok (some u)) ∧ u.result = .ok .updated) ∨
        server.Fails c.write.before (c.write.reply, c.write.after))
  /-- Only a write after the second get is a conflict. -/
  conflict : (∃ e ∈ c.between, e.Writes slice.name) →
    server.Keeps c.write.before c.write.after ∧
      ∃ u fault, y = .done (.ok (some u)) ∧ u.result = .error (.store fault) ∧
        fault.isConflict = true

/-- An upsert that finds another version than its slice has replaces what it finds. -/
theorem IsUpsert.replacesUnseen {server : ApiServer σ} (hserver : server.IsVersioned) {i : Nat}
    {events : List (Event σ)} {c : TwoCalls i events} {slice : Slice} {s s' : σ}
    {x : Exchange Upserted} (h : IsUpsert server slice c.read c.write x)
    (hhistory : server.IsHistory s events s') {theirs : Json}
    (hstored : server.stored c.read.before slice.name = some theirs)
    (hstale : server.version? c.read.before slice.name ≠ some slice.version) :
    ReplacesUnseen server slice c (x.map fun u => .ok (some u)) theirs := by
  obtain ⟨v, hversion, -⟩ := hserver.version _ _ _ hstored
  have hread := version?_eq_some hstored hversion
  have hcall : c.write.call = .replace slice.name { slice with version := v }.manifest := by
    rw [h.write_call, hread]
    rfl
  refine ⟨hstored, ⟨v, hversion, ?_, hcall⟩, fun hnone => ?_, fun hwrites => ?_⟩
  · rintro rfl
    exact hstale hread
  · have hkept : server.stored c.write.before slice.name = some theirs :=
      ((h.between hserver hhistory).1 hnone).trans hstored
    have hcurrent := hserver.replace_current _ _ { slice with version := v }.manifest _ hkept
      ((versionOf_manifest _).trans hversion.symm)
    rw [← hcall, (c.isHistory hhistory).2.2] at hcurrent
    refine ⟨hkept, hcurrent.imp_left fun ⟨ours, hstores⟩ => ?_⟩
    obtain ⟨version, hours, -⟩ := hserver.version _ _ _ hstores.stored
    have hdone := h.stored ours version hstores.reply hours
    rw [hread] at hdone
    exact ⟨ours, _, hstores, congrArg (Exchange.map _) hdone, rfl⟩
  · obtain ⟨hkeeps, u, fault, hdone, hfault⟩ := h.conflict hserver hhistory hwrites
    exact ⟨hkeeps, u, fault, congrArg (Exchange.map _) hdone, hfault⟩

end ClusterStore

open ApiServer ClusterStore in
/-- **A slice that is out of date is stored all the same.** The version of a slice takes no part in
how it is stored. Let any clients take turns in any order, and let one of them fetch a slice, change
it and store it under its name with the version it was fetched with. If somebody wrote the name
since the fetch, then the upsert finds an object of another version and replaces this object, which
its client has not seen; it is refused only if the name is written once more before the write. -/
theorem outdated_slice_replaces_unseen {server : ApiServer σ} (hserver : server.IsVersioned) (s : σ)
    (clients : Nat → Exchange (Except GetFault (Option Upserted))) (schedule : List Nat) (i : Nat)
    {name : Json} {edit : Slice → Slice} (hclient : clients i = revise name edit)
    (hedit : ∀ slice, (edit slice).version = slice.version) :
    (∀ (slice : Slice) (version : Json),
      (upsert { slice with version }).map (·.result) = (upsert slice).map (·.result)) ∧
    let run := server.interleave schedule s clients
    ∀ c : ThreeCalls i run.events, c.fetch.call = .get name ∧
      ∃ object fetched, c.fetch.reply = .ok object ∧ Slice.ofManifest object = .ok fetched ∧
        server.version? c.fetch.before name = some fetched.version ∧
        ((edit fetched).name = name → (∃ e ∈ c.since, e.Writes name) →
          ∃ theirs, ReplacesUnseen server (edit fetched) c.calls (run.clients i) theirs) := by
  refine ⟨upsert_withVersion, ?_⟩
  intro run c
  obtain ⟨hhistory, hsteps⟩ := interleave_spec server schedule s clients
  specialize hsteps i
  rw [hclient, c.eventsOf_eq] at hsteps
  obtain ⟨hserve, hsince, hrest⟩ := c.isHistory hhistory
  obtain ⟨hcall, object, fetched, x, hreply, hread, hfetched, hx, hdone⟩ :=
    exists_revised hserver hserve hsteps (by simp [c.calls.eventsOf_eq])
  refine ⟨hcall, object, fetched, hreply, hread, hfetched, fun hname hwrites => ?_⟩
  have hupsert := isUpsert_of_twoCalls hserver hrest hx c.calls
  -- The fetch itself changes nothing, so the version fetched is the one before all later writes.
  have hkeeps := hserver.get_keeps c.fetch.before name
  rw [← hcall, hserve] at hkeeps
  obtain ⟨theirs, hstored, hstale⟩ := (hserver.version?_after hsince name).2 hwrites
  rw [version?, version?, hkeeps.stored] at hstale
  change server.version? _ _ ≠ server.version? _ _ at hstale
  rw [hfetched] at hstale
  rw [hdone]
  refine ⟨theirs, hupsert.replacesUnseen hserver hrest ?_ ?_⟩
  · rwa [hname]
  · rwa [hname, hedit]

open ApiServer ClusterStore in
/-- A slice that was fetched at its first version replaces the second one. -/
theorem outdated_slice_replaces_unseen_second :
    let slice : Slice := ⟨"a", "driver", "node", ⟨"a", .int 1, .int 1⟩, [], [], .null⟩
    let theirs : Slice := { slice with nodeName := "elsewhere" }
    let clients (i : Nat) : Exchange (Except GetFault (Option Upserted)) :=
      if i = 0 then revise "a" id
      else (upsert (if i = 1 then slice else theirs)).map fun u => .ok (some u)
    let run := PlainServer.asServer.interleave [1, 1, 0, 2, 2, 0, 0] .empty clients
    ∃ (c : ThreeCalls 0 run.events) (fetched : Slice) (object : Json),
      PlainServer.asServer.version? c.fetch.before "a" = some fetched.version ∧
        ReplacesUnseen PlainServer.asServer fetched c.calls (run.clients 0) object := by
  intro slice theirs clients run
  obtain ⟨-, hcalls⟩ := outdated_slice_replaces_unseen PlainServer.isVersioned .empty clients
    [1, 1, 0, 2, 2, 0, 0] 0 rfl fun _ => rfl
  let c : ThreeCalls 0 run.events :=
    ⟨[_, _], _, _, rfl, rfl, by simp, ⟨[_, _], _, [], _, [], rfl, rfl, rfl, by simp⟩⟩
  have hwritten : ∃ e ∈ c.since, e.Writes "a" :=
    ⟨_, List.mem_cons_of_mem _ (List.mem_singleton_self _), ⟨rfl, _, rfl⟩, rfl⟩
  obtain ⟨-, object, fetched, hreply, hread, hfetched, hreplaces⟩ := hcalls c
  have hname : fetched.name = "a" := by
    have hfirst : c.fetch.reply.toOption.map (fun m => (Slice.ofManifest m).map (·.name)) =
        some (.ok "a") := by decide +kernel
    simpa [hreply, hread, Except.toOption, Except.map] using hfirst
  obtain ⟨theirs, htheirs⟩ := hreplaces hname hwritten
  exact ⟨c, fetched, theirs, hfetched, htheirs⟩

open ApiServer ClusterStore in
/-- A client fetches a slice, another one writes the name, and the first one's upsert ends as an
update that takes the place of what the other wrote. -/
theorem outdated_slice_not_refused :
    let slice : Slice := ⟨"a", "driver", "node", ⟨"a", .int 1, .int 1⟩, [], [], .null⟩
    let theirs : Slice := { slice with nodeName := "elsewhere" }
    let clients (i : Nat) : Exchange (Except GetFault (Option Upserted)) :=
      if i = 0 then revise "a" id
      else (upsert (if i = 1 then slice else theirs)).map fun u => .ok (some u)
    let run := PlainServer.asServer.interleave [1, 1, 0, 2, 2, 0, 0] .empty clients
    ∃ (c : ThreeCalls 0 run.events) (u : Upserted),
      PlainServer.asServer.version? c.fetch.before "a" = some "1" ∧
        PlainServer.asServer.stored c.calls.read.before "a" =
          some { theirs with version := "2" }.manifest ∧
        run.clients 0 = .done (.ok (some u)) ∧ u.result = .ok .updated ∧
        PlainServer.asServer.stored run.state "a" =
          some { slice with version := "3" }.manifest := by
  intro slice theirs clients run
  exact ⟨⟨[_, _], _, _, rfl, rfl, by simp, ⟨[_, _], _, [], _, [], rfl, rfl, rfl, by simp⟩⟩, _,
    by decide +kernel, by decide +kernel, rfl, by decide +kernel, by decide +kernel⟩

end SliceAgent
