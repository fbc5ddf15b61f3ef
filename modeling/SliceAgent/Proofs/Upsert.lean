import SliceAgent.Proofs.ApiServer
import Mathlib.Logic.Function.Basic

/-!
# Storing a slice among other writers

Clients of the cluster take turns: each call is served at once, and between two calls of one client
any number of others may be served. `ApiServer.interleave` runs any clients under any schedule.

A slice is stored by a get and one write. The write is accepted only if nobody wrote the name in
between: a create because the name is absent still, and a replace because the version it sends is
that of the object read, which a write in between would have made out of date
(`IsUpsert.between`). So no write is replaced that was not read (`upsert_replaces_what_it_read`).
-/

namespace SliceAgent

variable {σ α : Type}

/-! ### Clients that take turns -/

/-- Served calls lead from one exchange to another. -/
def Exchange.Steps : Exchange α → List (ApiServer.Event σ) → Exchange α → Prop
  | x, [], y => x = y
  | .ask call next, e :: rest, y => e.call = call ∧ (next e.reply).Steps rest y
  | .done _, _ :: _, _ => False

theorem Exchange.steps_nil {x y : Exchange α} :
    x.Steps ([] : List (ApiServer.Event σ)) y ↔ x = y := by
  cases x <;> exact Iff.rfl

theorem Exchange.steps_done {result : α} {events : List (ApiServer.Event σ)} {y : Exchange α} :
    (Exchange.done result).Steps events y ↔ events = [] ∧ y = .done result := by
  cases events with
  | nil => simpa [steps_nil] using eq_comm
  | cons e rest => simp [Steps]

namespace ApiServer

variable {server : ApiServer σ}

/-- Where a server and its clients have come to, and by which events. -/
structure Interleaving (σ α : Type) where
  state : σ
  clients : Nat → Exchange α
  events : List (Event σ)

/-- Lets clients ask their next calls in the order of a schedule. A client that is done does nothing
any more. -/
def interleave (server : ApiServer σ) : List Nat → σ → (Nat → Exchange α) → Interleaving σ α
  | [], s, clients => ⟨s, clients, []⟩
  | i :: rest, s, clients =>
    match clients i with
    | .done _ => server.interleave rest s clients
    | .ask call next =>
      let (reply, s') := server.serve s call
      let run := server.interleave rest s' (Function.update clients i (next reply))
      { run with events := ⟨i, call, reply, s, s'⟩ :: run.events }

/-- The events of one client. -/
def eventsOf (i : Nat) (events : List (Event σ)) : List (Event σ) :=
  events.filter (·.client = i)

/-- **A run.** The events are a history of the server, and those of each client lead it to where it
has come. -/
theorem interleave_spec (server : ApiServer σ) (schedule : List Nat) (s : σ)
    (clients : Nat → Exchange α) :
    let run := server.interleave schedule s clients
    server.IsHistory s run.events run.state ∧
      ∀ i, (clients i).Steps (eventsOf i run.events) (run.clients i) := by
  -- By induction on the schedule, from any state and for any clients: the first turn changes both.
  induction schedule generalizing s clients with
  | nil => exact ⟨rfl, fun i => by simp [interleave, eventsOf, Exchange.Steps]⟩
  | cons j rest ih =>
    rw [interleave]
    split
    · exact ih s clients
    · rename_i call next hj
      obtain ⟨hhistory, hsteps⟩ :=
        ih (server.serve s call).2 (Function.update clients j (next (server.serve s call).1))
      refine ⟨⟨rfl, rfl, hhistory⟩, fun i => ?_⟩
      specialize hsteps i
      by_cases hij : j = i
      · subst hij
        rw [Function.update_self] at hsteps
        rw [hj]
        simp only [eventsOf, List.filter_cons_of_pos, decide_true]
        exact ⟨rfl, hsteps⟩
      · rw [Function.update_of_ne (Ne.symm hij)] at hsteps
        simpa only [eventsOf, List.filter_cons, hij, decide_false, Bool.false_eq_true, if_false]
          using hsteps

/-- The two calls of a client in a history, and what the others did before, between and after
them. -/
structure TwoCalls (i : Nat) (events : List (Event σ)) where
  earlier : List (Event σ)
  read : Event σ
  between : List (Event σ)
  write : Event σ
  later : List (Event σ)
  events_eq : events = earlier ++ read :: (between ++ write :: later)
  read_client : read.client = i
  write_client : write.client = i
  others : ∀ e ∈ earlier ++ between ++ later, e.client ≠ i

namespace TwoCalls

variable {i : Nat} {events : List (Event σ)}

theorem eventsOf_eq (c : TwoCalls i events) : eventsOf i events = [c.read, c.write] := by
  have hnone : ∀ l : List (Event σ), (∀ e ∈ l, e.client ≠ i) → eventsOf i l = [] := fun l hl =>
    List.filter_eq_nil_iff.mpr fun e he => by simpa using hl e he
  have hothers := c.others
  simp only [List.forall_mem_append] at hothers
  calc eventsOf i events
    _ = eventsOf i c.earlier ++ c.read ::
          (eventsOf i c.between ++ c.write :: eventsOf i c.later) := by
        conv_lhs => rw [c.events_eq]
        simp [eventsOf, c.read_client, c.write_client]
    _ = [c.read, c.write] := by
        rw [hnone _ hothers.1.1, hnone _ hothers.1.2, hnone _ hothers.2]
        rfl

theorem write_mem (c : TwoCalls i events) : c.write ∈ events := by
  have hmem : c.write ∈ eventsOf i events := by simp [c.eventsOf_eq]
  exact List.mem_of_mem_filter hmem

theorem exists_of_eventsOf {g w : Event σ} (h : eventsOf i events = [g, w]) :
    ∃ c : TwoCalls i events, c.read = g ∧ c.write = w := by
  simp only [eventsOf, List.filter_eq_cons_iff, List.filter_eq_nil_iff] at h
  obtain ⟨earlier, _, rfl, hearlier, hg, between, later, rfl, hbetween, hw, hlater⟩ := h
  refine ⟨⟨earlier, g, between, w, later, rfl, by simpa using hg, by simpa using hw, ?_⟩, rfl, rfl⟩
  simp only [List.forall_mem_append]
  exact ⟨⟨by simpa using hearlier, by simpa using hbetween⟩, by simpa using hlater⟩

/-- Both calls are served, and what lies between them is a history of the server. -/
theorem isHistory (c : TwoCalls i events) {s s' : σ} (h : server.IsHistory s events s') :
    server.serve c.read.before c.read.call = (c.read.reply, c.read.after) ∧
      server.IsHistory c.read.after c.between c.write.before ∧
      server.serve c.write.before c.write.call = (c.write.reply, c.write.after) := by
  rw [c.events_eq] at h
  obtain ⟨_, -, rfl, hread, hrest⟩ := isHistory_append.mp h
  obtain ⟨_, hbetween, rfl, hwrite, -⟩ := isHistory_append.mp hrest
  exact ⟨hread, hbetween, hwrite⟩

end TwoCalls

/-- The version of the object of a name, `none` if there is no object. -/
def version? (server : ApiServer σ) (s : σ) (name : Json) : Option Json :=
  (server.stored s name).bind fun object => (ClusterStore.versionOf object).toOption

theorem version?_eq_none {s : σ} {name : Json} (hstored : server.stored s name = none) :
    server.version? s name = none := by
  rw [version?, hstored]
  rfl

theorem version?_eq_some {s : σ} {name object version : Json}
    (hstored : server.stored s name = some object)
    (hversion : ClusterStore.versionOf object = .ok version) :
    server.version? s name = some version := by
  rw [version?, hstored, Option.bind_some, hversion]
  rfl

/-- While a name is not written its version stays, and once it is written its object has another
one. -/
theorem IsVersioned.version?_after (hserver : server.IsVersioned) {s s' : σ}
    {events : List (Event σ)} (h : server.IsHistory s events s') (name : Json) :
    ((∀ e ∈ events, ¬e.Writes name) → server.stored s' name = server.stored s name) ∧
      ((∃ e ∈ events, e.Writes name) → ∃ object, server.stored s' name = some object ∧
        server.version? s' name ≠ server.version? s name) := by
  obtain ⟨hkept, hwritten⟩ := hserver.stored_after h name
  refine ⟨hkept, fun hwrites => ?_⟩
  obtain ⟨object, v, hstored, hversion, hfresh⟩ := hwritten hwrites
  refine ⟨object, hstored, fun hsame => hfresh ?_⟩
  rw [version?_eq_some hstored hversion] at hsame
  cases hbefore : server.stored s name with
  | none =>
    rw [version?_eq_none hbefore] at hsame
    cases hsame
  | some object' =>
    obtain ⟨v', hversion', -, hissued⟩ := hserver.version s name object' hbefore
    rw [version?_eq_some hbefore hversion'] at hsame
    exact Option.some.inj hsame ▸ hissued

end ApiServer

/-! ### What an upsert asks -/

namespace ClusterStore

open ApiServer

variable {server : ApiServer σ}

/-- The write for a name of which a version was read: a create if there was none, and else a replace
that sends the version. -/
def writeCall (slice : Slice) : Option Json → Call
  | none => .create { slice with version := .null }.manifest
  | some version => .replace slice.name { slice with version }.manifest

/-- What such a write is reported as. -/
def writeVerb : Option Json → Verb
  | none => .create
  | some _ => .update

/-- What such a write does. -/
def writeOutcome : Option Json → UpsertOutcome
  | none => .created
  | some _ => .updated

/-- What an upsert does once it knows the version of its name. -/
def proceed (slice : Slice) (version? : Option Json) : Exchange Upserted :=
  match version? with
  | none => write { slice with version := .null } .create .created .create
  | some version => write { slice with version } .update .updated (.replace slice.name)

theorem proceed_eq_write (slice : Slice) (version? : Option Json) :
    ∃ version call, proceed slice version? =
        write { slice with version } (writeVerb version?) (writeOutcome version?) call ∧
      call { slice with version }.manifest = writeCall slice version? := by
  cases version? with
  | none => exact ⟨.null, .create, rfl, rfl⟩
  | some version => exact ⟨version, .replace slice.name, rfl, rfl⟩

/-- What the reply to the get of an upsert tells: the version of the object, `none` if there is no
object. -/
def readVersion (name : Json) (reply : Reply) : Except UpsertFault (Option Json) :=
  (found name reply).bind fun
    | none => .ok none
    | some object => ((versionOf object).mapError .crash).map some

theorem upsert_eq_proceed (slice : Slice) :
    upsert slice = .ask (.get slice.name) fun reply =>
      match readVersion slice.name reply with
      | .error fault => .done ⟨slice, .error fault⟩
      | .ok version? => proceed slice version? := by
  rw [upsert]
  congr 1
  funext reply
  rw [readVersion]
  rcases found slice.name reply with fault | (_ | object)
  · rfl
  · rfl
  · simp only [Except.bind]
    cases versionOf object <;> rfl

theorem fieldOf_metadata_manifest (slice : Slice) :
    fieldOf "metadata" (.obj []) slice.manifest = .ok slice.metadata := rfl

theorem objectName_manifest (slice : Slice) : Call.objectName slice.manifest = slice.name := by
  obtain ⟨fields, hmetadata, hname, -⟩ := slice.metadata_eq
  rw [Call.objectName, fieldOf_metadata_manifest, hmetadata]
  simp [Except.bind, fieldOf, hname, Except.toOption]

theorem versionOf_manifest (slice : Slice) : versionOf slice.manifest = .ok slice.version := by
  obtain ⟨fields, hmetadata, -, -, hversion⟩ := slice.metadata_eq
  rw [versionOf, fieldOf_metadata_manifest, hmetadata]
  exact congrArg Except.ok hversion

@[simp]
theorem target_writeCall (slice : Slice) (version? : Option Json) :
    (writeCall slice version?).target = slice.name := by
  cases version? with
  | none => exact objectName_manifest _
  | some version => rfl

@[simp]
theorem isWrite_writeCall (slice : Slice) (version? : Option Json) :
    (writeCall slice version?).isWrite = true := by
  cases version? <;> rfl

/-- The reply that a server gives to the get of an upsert tells the version of the name. -/
theorem readVersion_serve (hserver : server.IsVersioned) (s : σ) (name : Json) :
    readVersion name (server.serve s (.get name)).1 = .ok (server.version? s name) := by
  cases hstored : server.stored s name with
  | none =>
    obtain ⟨reason, hreply⟩ := hserver.get_absent s _ hstored
    simp [readVersion, hreply, found, version?, hstored, Except.bind]
  | some object =>
    obtain ⟨v, hversion, -⟩ := hserver.version s _ _ hstored
    -- A reply of null would count as no object, but null has no version.
    have hfound : found name (.ok object) = .ok (some object) := by
      cases object with
      | null => cases hversion
      | _ => rfl
    simp [readVersion, hserver.get_stored s _ _ hstored, hfound, hversion,
      version?_eq_some hstored hversion, Except.bind, Except.mapError, Except.map]

/-- An upsert goes on with the version that its name has when its get is served. -/
theorem upsert_eq (hserver : server.IsVersioned) (s : σ) (slice : Slice) :
    ∃ next, upsert slice = .ask (.get slice.name) next ∧
      next (server.serve s (.get slice.name)).1 =
        proceed slice (server.version? s slice.name) :=
  ⟨_, upsert_eq_proceed slice, by rw [readVersion_serve hserver]⟩

theorem write_steps {slice : Slice} {verb : Verb} {outcome : UpsertOutcome} {call : Json → Call}
    {own : List (Event σ)} {y : Exchange Upserted}
    (h : (write slice verb outcome call).Steps own y) :
    own = [] ∧ y = write slice verb outcome call ∨
      ∃ w, own = [w] ∧ w.call = call slice.manifest ∧
        (∀ failure, w.reply = .error failure →
          y = .done ⟨slice, .error (failure.storeFault verb slice.name)⟩) ∧
        ∀ object version, w.reply = .ok object → versionOf object = .ok version →
          y = .done ⟨{ slice with version }, .ok outcome⟩ := by
  cases own with
  | nil => exact .inl ⟨rfl, (Exchange.steps_nil.mp h).symm⟩
  | cons w rest =>
    right
    unfold write at h
    split at h
    · obtain ⟨hcall, hrest⟩ := h
      obtain ⟨rfl, rfl⟩ := Exchange.steps_done.mp hrest
      refine ⟨w, rfl, hcall, fun failure hreply => ?_, fun object version hreply hversion => ?_⟩
      · rw [hreply]
      · simp only [hreply, hversion]
    · cases (Exchange.steps_done.mp h).1

/-- The write of an upsert: what it sends, and what it makes of the reply. -/
theorem proceed_steps {slice : Slice} {version? : Option Json} {own : List (Event σ)}
    {y : Exchange Upserted} (h : (proceed slice version?).Steps own y) :
    own = [] ∧ y = proceed slice version? ∨
      ∃ w, own = [w] ∧ w.call = writeCall slice version? ∧
        (∀ failure, w.reply = .error failure → ∃ u, y = .done u ∧
          u.result = .error (failure.storeFault (writeVerb version?) slice.name)) ∧
        ∀ object version, w.reply = .ok object → versionOf object = .ok version →
          y = .done ⟨{ slice with version }, .ok (writeOutcome version?)⟩ := by
  obtain ⟨version, call, hproceed, hcall⟩ := proceed_eq_write slice version?
  rw [hproceed] at h ⊢
  refine (write_steps h).imp_right ?_
  rintro ⟨w, hown, hw, herror, hok⟩
  exact ⟨w, hown, hw.trans hcall, fun failure hreply => ⟨_, herror failure hreply, rfl⟩, hok⟩

/-- A write that was not sent is not reported as done. -/
theorem result_of_proceed_eq_done {slice : Slice} {version? : Option Json} {u : Upserted}
    (h : proceed slice version? = .done u) (outcome : UpsertOutcome) :
    u.result ≠ .ok outcome := by
  obtain ⟨version, call, hproceed, -⟩ := proceed_eq_write slice version?
  rw [hproceed] at h
  unfold write at h
  split at h
  · cases h
  · obtain rfl := Exchange.done.inj h
    exact fun h => by cases h

/-- A write for another version than that of the stored object is refused as a conflict. -/
theorem refuses_of_stale (hserver : server.IsVersioned) {s : σ} {slice : Slice} {object : Json}
    {version? : Option Json} (hstored : server.stored s slice.name = some object)
    (hstale : server.version? s slice.name ≠ version?) :
    server.Refuses s conflictStatus (server.serve s (writeCall slice version?)) := by
  cases version? with
  | none =>
    refine hserver.create_stored s _ object ?_
    rwa [objectName_manifest]
  | some v =>
    refine hserver.replace_stale s _ _ object hstored fun hsame => hstale ?_
    rw [versionOf_manifest] at hsame
    exact version?_eq_some hstored hsame.symm

theorem isConflict_storeFault (version? : Option Json) (reason : Option String) (name : Json) :
    ∃ fault, (ApiFailure.status (some conflictStatus) reason).storeFault (writeVerb version?) name =
      .store fault ∧ fault.isConflict = true := by
  cases version? <;> exact ⟨_, rfl, rfl⟩

/-- The two calls of an upsert: it reads the version of its name, writes under this version, and is
done with the reply. -/
structure IsUpsert (server : ApiServer σ) (slice : Slice) (read write : Event σ)
    (y : Exchange Upserted) : Prop where
  read_call : read.call = .get slice.name
  write_call : write.call = writeCall slice (server.version? read.before slice.name)
  failed : ∀ failure, write.reply = .error failure → ∃ u, y = .done u ∧
    u.result = .error (failure.storeFault
      (writeVerb (server.version? read.before slice.name)) slice.name)
  stored : ∀ object version, write.reply = .ok object → versionOf object = .ok version →
    y = .done ⟨{ slice with version },
      .ok (writeOutcome (server.version? read.before slice.name))⟩

/-- An upsert that ends in an outcome has had a write accepted. -/
theorem IsUpsert.isWrite_of_result {slice : Slice} {read write : Event σ} {u : Upserted}
    {outcome : UpsertOutcome} (h : IsUpsert server slice read write (.done u))
    (hresult : u.result = .ok outcome) : write.IsWrite := by
  refine ⟨by rw [h.write_call, isWrite_writeCall], ?_⟩
  cases hreply : write.reply with
  | ok object => exact ⟨object, rfl⟩
  | error failure =>
    obtain ⟨u', hu, hfailed⟩ := h.failed failure hreply
    obtain rfl := Exchange.done.inj hu
    cases hresult.symm.trans hfailed

/-- How far an upsert has come in a history: it has not begun, it has read the version of its name,
or it has written too. -/
theorem upsert_course (hserver : server.IsVersioned) {i : Nat} {slice : Slice} {s s' : σ}
    {events : List (Event σ)} {y : Exchange Upserted} (hhistory : server.IsHistory s events s')
    (hsteps : (upsert slice).Steps (eventsOf i events) y) :
    (eventsOf i events = [] ∧ y = upsert slice) ∨
    (∃ g, eventsOf i events = [g] ∧ g.call = .get slice.name ∧
      y = proceed slice (server.version? g.before slice.name)) ∨
    ∃ g w, eventsOf i events = [g, w] ∧ IsUpsert server slice g w y := by
  cases hown : eventsOf i events with
  | nil =>
    rw [hown] at hsteps
    exact .inl ⟨rfl, (Exchange.steps_nil.mp hsteps).symm⟩
  | cons g rest =>
    right
    obtain ⟨next, hupsert, hnext⟩ := upsert_eq hserver g.before slice
    rw [hown, hupsert] at hsteps
    obtain ⟨hcall, hrest⟩ := hsteps
    have hg : g ∈ events := List.mem_of_mem_filter (hown ▸ List.mem_cons_self)
    rw [← hcall, hhistory.serve_eq g hg] at hnext
    rw [hnext] at hrest
    rcases proceed_steps hrest with ⟨rfl, hy⟩ | ⟨w, rfl, hwrite, hfailed, hstored⟩
    · exact .inl ⟨g, rfl, hcall, hy⟩
    · exact .inr ⟨g, w, rfl, hcall, hwrite, hfailed, hstored⟩

section TwoCalls

variable {i : Nat} {events : List (Event σ)} {c : TwoCalls i events} {slice : Slice} {s s' : σ}
  {y : Exchange Upserted}

/-- The two calls of a client that stores a slice are those of an upsert. -/
theorem isUpsert_of_twoCalls (hserver : server.IsVersioned)
    (hhistory : server.IsHistory s events s') (hsteps : (upsert slice).Steps (eventsOf i events) y)
    (c : TwoCalls i events) : IsUpsert server slice c.read c.write y := by
  have hcourse := upsert_course hserver hhistory hsteps
  rw [c.eventsOf_eq] at hcourse
  rcases hcourse with ⟨hnil, -⟩ | ⟨g, hone, -⟩ | ⟨g, w, htwo, hupsert⟩
  · cases hnil
  · cases hone
  · cases htwo
    exact hupsert

/-- A client that stores a slice has read before it writes. -/
theorem exists_twoCalls_of_isWrite (hserver : server.IsVersioned)
    (hhistory : server.IsHistory s events s') (hsteps : (upsert slice).Steps (eventsOf i events) y)
    {w : Event σ} (hw : w ∈ eventsOf i events) (haccepted : w.IsWrite) :
    ∃ c : TwoCalls i events, c.write = w := by
  have hread {g : Event σ} (hget : g.call = .get slice.name) : w ≠ g := fun hsame => by
    have hiswrite := haccepted.1
    rw [hsame, hget] at hiswrite
    cases hiswrite
  rcases upsert_course hserver hhistory hsteps with
    ⟨hnil, -⟩ | ⟨g, hone, hget, -⟩ | ⟨g, w', htwo, hupsert⟩
  · rw [hnil] at hw
    cases hw
  · rw [hone, List.mem_singleton] at hw
    exact absurd hw (hread hget)
  · obtain ⟨c, -, rfl⟩ := TwoCalls.exists_of_eventsOf htwo
    rw [htwo, List.mem_pair] at hw
    exact ⟨c, (hw.resolve_left (hread hupsert.read_call)).symm⟩

/-- A client that ends in an outcome has made both calls, and its write was accepted. -/
theorem exists_twoCalls_of_result (hserver : server.IsVersioned)
    (hhistory : server.IsHistory s events s') {u : Upserted} {outcome : UpsertOutcome}
    (hsteps : (upsert slice).Steps (eventsOf i events) (.done u))
    (hresult : u.result = .ok outcome) : ∃ c : TwoCalls i events, c.write.IsWrite := by
  rcases upsert_course hserver hhistory hsteps with
    ⟨-, hdone⟩ | ⟨g, -, -, hdone⟩ | ⟨g, w, htwo, hupsert⟩
  · cases hdone
  · exact absurd hresult (result_of_proceed_eq_done hdone.symm outcome)
  · obtain ⟨c, rfl, rfl⟩ := TwoCalls.exists_of_eventsOf htwo
    exact ⟨c, hupsert.isWrite_of_result hresult⟩

/-- What the name has when the write is sent: what the get returned if nobody wrote it since, and
else an object that the write is refused for. -/
theorem IsUpsert.between (h : IsUpsert server slice c.read c.write y)
    (hserver : server.IsVersioned) (hhistory : server.IsHistory s events s') :
    ((∀ e ∈ c.between, ¬e.Writes slice.name) →
        server.stored c.write.before slice.name = server.stored c.read.before slice.name) ∧
      ((∃ e ∈ c.between, e.Writes slice.name) →
        server.Refuses c.write.before conflictStatus (c.write.reply, c.write.after)) := by
  obtain ⟨hread, hbetween, hwrite⟩ := c.isHistory hhistory
  have hkeeps := hserver.get_keeps c.read.before slice.name
  rw [← h.read_call, hread] at hkeeps
  obtain ⟨hkept, hwritten⟩ := hserver.version?_after hbetween slice.name
  rw [hkeeps.stored] at hkept
  refine ⟨hkept, fun hwrites => ?_⟩
  obtain ⟨object, hstored, hversion⟩ := hwritten hwrites
  rw [version?, version?, hkeeps.stored] at hversion
  -- The call sends the version that was read, and the object has another one by now.
  have hrefuses := refuses_of_stale hserver hstored hversion
  rw [← hwrite, h.write_call]
  exact hrefuses

/-- A write that somebody was faster than changes nothing and ends in a conflict. -/
theorem IsUpsert.conflict (h : IsUpsert server slice c.read c.write y)
    (hserver : server.IsVersioned) (hhistory : server.IsHistory s events s')
    (hwrites : ∃ e ∈ c.between, e.Writes slice.name) :
    server.Keeps c.write.before c.write.after ∧
      ∃ u fault, y = .done u ∧ u.result = .error (.store fault) ∧ fault.isConflict = true := by
  have hrefuses := (h.between hserver hhistory).2 hwrites
  obtain ⟨reason, herror⟩ := hrefuses.error
  obtain ⟨u, hu, hresult⟩ := h.failed _ herror
  obtain ⟨fault, hfault, hconflict⟩ := isConflict_storeFault _ reason slice.name
  exact ⟨hrefuses.keeps, u, fault, hu, hresult.trans (congrArg Except.error hfault), hconflict⟩

/-- A write that was accepted found what the get had returned: a create found nothing, and a replace
the object whose version it sent. -/
theorem IsUpsert.replaced (h : IsUpsert server slice c.read c.write y)
    (hserver : server.IsVersioned) (hhistory : server.IsHistory s events s')
    (haccepted : c.write.IsWrite) :
    (∀ e ∈ c.between, ¬e.Writes slice.name) ∧
      ((server.stored c.write.before slice.name = none ∧
        c.write.call = .create { slice with version := .null }.manifest ∧
        writeOutcome (server.version? c.read.before slice.name) = .created) ∨
      ∃ object version, server.stored c.write.before slice.name = some object ∧
        c.read.reply = .ok object ∧ versionOf object = .ok version ∧
        c.write.call = .replace slice.name { slice with version }.manifest ∧
        writeOutcome (server.version? c.read.before slice.name) = .updated) := by
  obtain ⟨hkept, hrefuses⟩ := h.between hserver hhistory
  have hnone : ∀ e ∈ c.between, ¬e.Writes slice.name := fun e he hwrites => by
    obtain ⟨reason, herror⟩ := (hrefuses ⟨e, he, hwrites⟩).error
    obtain ⟨-, object, hreply⟩ := haccepted
    cases herror.symm.trans hreply
  refine ⟨hnone, ?_⟩
  rw [hkept hnone, h.write_call]
  cases hstored : server.stored c.read.before slice.name with
  | none =>
    rw [version?_eq_none hstored]
    exact .inl ⟨rfl, rfl, rfl⟩
  | some object =>
    obtain ⟨version, hversion, -⟩ := hserver.version _ _ _ hstored
    have hreply := hserver.get_stored _ _ _ hstored
    rw [← h.read_call, (c.isHistory hhistory).1] at hreply
    rw [version?_eq_some hstored hversion]
    exact .inr ⟨object, version, rfl, hreply, hversion, rfl, rfl⟩

/-- A write that was accepted is what the server has afterwards, and the upsert takes over its
version. -/
theorem IsUpsert.accepted (h : IsUpsert server slice c.read c.write y)
    (hserver : server.IsVersioned) (hhistory : server.IsHistory s events s')
    (haccepted : c.write.IsWrite) :
    ∃ object version, c.write.reply = .ok object ∧
      server.stored c.write.after slice.name = some object ∧ versionOf object = .ok version ∧
      y = .done ⟨{ slice with version },
        .ok (writeOutcome (server.version? c.read.before slice.name))⟩ := by
  obtain ⟨-, -, hserve⟩ := c.isHistory hhistory
  obtain ⟨hiswrite, object, hreply⟩ := haccepted
  have hcases := hserver.serve_cases c.write.before c.write.call
  rw [hserve] at hcases
  rcases hcases with ⟨-, object', hstores⟩ | ⟨-, hfails⟩
  · have hstored := hstores.stored
    rw [h.write_call, target_writeCall] at hstored
    obtain ⟨version, hversion, -⟩ := hserver.version _ _ _ hstored
    exact ⟨object', version, hstores.reply, hstored, hversion,
      h.stored object' version hstores.reply hversion⟩
  · obtain ⟨failure, hfailed⟩ := hfails hiswrite
    cases hreply.symm.trans hfailed

end TwoCalls

end ClusterStore

open ApiServer in
/-- **No write is replaced unread.** Let any clients take turns in any order, and let one of them
store a slice. If its write is accepted, then nobody wrote the name since its own get: a create
found the name absent, and a replace was applied to the very object that the get had returned. If
somebody wrote the name in between, then its write changes nothing and ends in a conflict. And it
ends in an outcome exactly if its one write was accepted, with the version that the server gave to
this write. -/
theorem upsert_replaces_what_it_read {server : ApiServer σ} (hserver : server.IsVersioned) (s : σ)
    (clients : Nat → Exchange Upserted) (schedule : List Nat) (i : Nat) {slice : Slice}
    (hclient : clients i = ClusterStore.upsert slice) :
    let run := server.interleave schedule s clients
    (∀ w ∈ run.events, w.client = i → w.IsWrite → ∃ c : TwoCalls i run.events, c.write = w) ∧
      (∀ c : TwoCalls i run.events, c.read.call = .get slice.name ∧
        (c.write.IsWrite → (∀ e ∈ c.between, ¬e.Writes slice.name) ∧
          (c.write.call = .create { slice with version := .null }.manifest ∧
              server.stored c.write.before slice.name = none ∨
            ∃ object version, c.read.reply = .ok object ∧
              server.stored c.write.before slice.name = some object ∧
              ClusterStore.versionOf object = .ok version ∧
              c.write.call = .replace slice.name { slice with version }.manifest)) ∧
        ((∃ e ∈ c.between, e.Writes slice.name) →
          server.Keeps c.write.before c.write.after ∧
            ∃ u fault, run.clients i = .done u ∧ u.result = .error (.store fault) ∧
              fault.isConflict = true)) ∧
      ∀ u, run.clients i = .done u →
        ((∃ outcome, u.result = .ok outcome) ↔ ∃ w ∈ run.events, w.client = i ∧ w.IsWrite) ∧
          ∀ outcome, u.result = .ok outcome → ∃ (c : TwoCalls i run.events) (object : Json),
            c.write.Writes slice.name ∧ c.write.reply = .ok object ∧
              server.stored c.write.after slice.name = some object ∧
              ClusterStore.versionOf object = .ok u.slice.version ∧
              u.slice = { slice with version := u.slice.version } ∧
              (outcome = .created ↔ server.stored c.write.before slice.name = none) := by
  intro run
  obtain ⟨hhistory, hsteps⟩ := interleave_spec server schedule s clients
  specialize hsteps i
  rw [hclient] at hsteps
  have hupsert := ClusterStore.isUpsert_of_twoCalls hserver hhistory hsteps
  have hwrite (w : Event σ) (hw : w ∈ run.events) (hi : w.client = i) (haccepted : w.IsWrite) :
      ∃ c : TwoCalls i run.events, c.write = w :=
    ClusterStore.exists_twoCalls_of_isWrite hserver hhistory hsteps
      (List.mem_filter.mpr ⟨hw, by simpa using hi⟩) haccepted
  refine ⟨hwrite, fun c => ⟨(hupsert c).read_call, fun haccepted => ?_, fun hwrites => ?_⟩,
    fun u hu => ⟨⟨fun ⟨outcome, hresult⟩ => ?_, fun ⟨w, hw, hi, haccepted⟩ => ?_⟩,
      fun outcome hresult => ?_⟩⟩
  · obtain ⟨hnone, ⟨habsent, hcall, -⟩ | ⟨object, version, hstored, hreply, hversion, hcall, -⟩⟩ :=
      (hupsert c).replaced hserver hhistory haccepted
    · exact ⟨hnone, .inl ⟨hcall, habsent⟩⟩
    · exact ⟨hnone, .inr ⟨object, version, hreply, hstored, hversion, hcall⟩⟩
  · exact (hupsert c).conflict hserver hhistory hwrites
  · rw [hu] at hsteps
    obtain ⟨c, haccepted⟩ := ClusterStore.exists_twoCalls_of_result hserver hhistory hsteps hresult
    exact ⟨c.write, c.write_mem, c.write_client, haccepted⟩
  · obtain ⟨c, rfl⟩ := hwrite w hw hi haccepted
    obtain ⟨object, version, -, -, -, hdone⟩ := (hupsert c).accepted hserver hhistory haccepted
    obtain rfl := Exchange.done.inj (hu.symm.trans hdone)
    exact ⟨_, rfl⟩
  · rw [hu] at hsteps
    obtain ⟨c, haccepted⟩ := ClusterStore.exists_twoCalls_of_result hserver hhistory hsteps hresult
    obtain ⟨object, version, hreply, hstored, hversion, hdone⟩ :=
      (hupsert c).accepted hserver hhistory haccepted
    obtain rfl := Exchange.done.inj (hu.symm.trans hdone)
    obtain rfl := Except.ok.inj hresult
    have htarget : c.write.call.target = slice.name := by
      rw [(hupsert c).write_call, ClusterStore.target_writeCall]
    refine ⟨c, object, ⟨haccepted, htarget⟩, hreply, hstored, hversion, rfl, ?_⟩
    rcases ((hupsert c).replaced hserver hhistory haccepted).2 with
      ⟨habsent, -, houtcome⟩ | ⟨_, _, hfound, -, -, -, houtcome⟩
    · simp [habsent, houtcome]
    · simp [hfound, houtcome]

open ApiServer in
/-- Four clients store the very same slice. Of two that read before the name exists one creates it,
and of two that read it then one replaces it; the others meet conflicts. -/
theorem upsert_replaces_what_it_read_racing :
    let slice : Slice := ⟨"a", "driver", "node", ⟨"a", .int 1, .int 1⟩, [], [], .null⟩
    let run := PlainServer.asServer.interleave [0, 1, 0, 1, 2, 3, 2, 3] .empty
      fun _ => ClusterStore.upsert slice
    (∃ u fault, run.clients 1 = .done u ∧ u.result = .error (.store fault) ∧
        fault.isConflict = true) ∧
      (∃ u fault, run.clients 3 = .done u ∧ u.result = .error (.store fault) ∧
        fault.isConflict = true) ∧
      ∃ (c : TwoCalls 2 run.events) (object : Json), (∀ e ∈ c.between, ¬e.Writes "a") ∧
        c.write.Writes "a" ∧ PlainServer.asServer.stored c.write.after "a" = some object ∧
        ClusterStore.versionOf object = .ok "2" := by
  intro slice run
  have hcalls (i : Nat) := upsert_replaces_what_it_read PlainServer.isVersioned .empty
    (fun _ => ClusterStore.upsert slice) [0, 1, 0, 1, 2, 3, 2, 3] i rfl
  let c₁ : TwoCalls 1 run.events := ⟨[_], _, [_], _, [_, _, _, _], rfl, rfl, rfl, by simp⟩
  let c₃ : TwoCalls 3 run.events := ⟨[_, _, _, _, _], _, [_], _, [], rfl, rfl, rfl, by simp⟩
  have hcreated : ∃ e ∈ c₁.between, e.Writes slice.name :=
    ⟨_, List.mem_singleton_self _, ⟨rfl, _, rfl⟩, by decide +kernel⟩
  have hreplaced : ∃ e ∈ c₃.between, e.Writes slice.name :=
    ⟨_, List.mem_singleton_self _, ⟨rfl, _, rfl⟩, rfl⟩
  obtain ⟨u, hu, hresult, hversion⟩ :
      ∃ u, run.clients 2 = .done u ∧ u.result = .ok .updated ∧ u.slice.version = "2" :=
    ⟨_, rfl, by decide +kernel, by decide +kernel⟩
  obtain ⟨c, object, hwrites, -, hstored, hobject, -⟩ :=
    ((hcalls 2).2.2 u hu).2 .updated hresult
  obtain ⟨hunwritten, -⟩ := ((hcalls 2).2.1 c).2.1 hwrites.1
  exact ⟨(((hcalls 1).2.1 c₁).2.2 hcreated).2, (((hcalls 3).2.1 c₃).2.2 hreplaced).2,
    c, object, hunwritten, hwrites, hstored, hversion ▸ hobject⟩

end SliceAgent
