import SliceAgent.Store.Cluster
import SliceAgent.Proofs.Manifest

/-!
# Servers of the cluster

A server is known by its answers. `ApiServer.IsVersioned` is what clients may rely on: each object
has a version, no two writes give the same one, and a write that would replace an object under
another version is refused. Whatever else a server does, a write that it would have to store it may
also fail.

So the version of an object tells the history of its name (`stored_after`): as long as nobody writes
the name its object stays, and once somebody has, its version is one that was never seen before.

`PlainServer` is such a server, which stores what it is sent under the number of the write.
-/

namespace SliceAgent

/-! ### Calls -/

namespace Call

/-- The name in the metadata of an object, `null` if it has none. -/
def objectName (object : Json) : Json :=
  ((ClusterStore.fieldOf "metadata" (.obj []) object).bind
    (ClusterStore.fieldOf "name" .null)).toOption.getD .null

/-- The name of the object that a call is about. -/
def target : Call → Json
  | .get name => name
  | .create body => objectName body
  | .replace name _ => name

/-- Whether a call asks for a write. -/
def isWrite : Call → Bool
  | .get _ => false
  | .create _ | .replace _ _ => true

end Call

/-! ### What a server does -/

/-- A server: how it answers, what it has stored under each name, and which versions it has given
so far. -/
structure ApiServer (σ : Type) where
  serve : σ → Call → Reply × σ
  stored : σ → Json → Option Json
  issued : σ → Json → Prop

namespace ApiServer

variable {σ : Type}

/-- From one state to another no object changes. -/
structure Keeps (server : ApiServer σ) (s s' : σ) : Prop where
  stored : ∀ name, server.stored s' name = server.stored s name
  issued : ∀ v, server.issued s v → server.issued s' v

/-- An answer is a failure and changes nothing. -/
structure Fails (server : ApiServer σ) (s : σ) (answer : Reply × σ) : Prop where
  error : ∃ failure, answer.1 = .error failure
  keeps : server.Keeps s answer.2

/-- An answer is a failure with a status and changes nothing. -/
structure Refuses (server : ApiServer σ) (s : σ) (status : Int) (answer : Reply × σ) : Prop where
  error : ∃ reason, answer.1 = .error (.status (some status) reason)
  keeps : server.Keeps s answer.2

/-- An answer is an object that was stored under a name with a version that was never given
before. -/
structure Stores (server : ApiServer σ) (s : σ) (name object : Json) (answer : Reply × σ) :
    Prop where
  reply : answer.1 = .ok object
  stored : server.stored answer.2 name = some object
  others : ∀ other, other ≠ name → server.stored answer.2 other = server.stored s other
  fresh : ∀ v, ClusterStore.versionOf object = .ok v → ¬server.issued s v
  issued : ∀ v, server.issued s v → server.issued answer.2 v

/-- What clients rely on. -/
structure IsVersioned (server : ApiServer σ) : Prop where
  version : ∀ s name object, server.stored s name = some object →
    ∃ v, ClusterStore.versionOf object = .ok v ∧ v ≠ .null ∧ server.issued s v
  get_keeps : ∀ s name, server.Keeps s (server.serve s (.get name)).2
  get_stored : ∀ s name object, server.stored s name = some object →
    (server.serve s (.get name)).1 = .ok object
  get_absent : ∀ s name, server.stored s name = none →
    ∃ reason, (server.serve s (.get name)).1 = .error (.status (some absentStatus) reason)
  create_stored : ∀ s body object, server.stored s (Call.objectName body) = some object →
    server.Refuses s conflictStatus (server.serve s (.create body))
  create_absent : ∀ s body, server.stored s (Call.objectName body) = none →
    (∃ object, server.Stores s (Call.objectName body) object (server.serve s (.create body))) ∨
      server.Fails s (server.serve s (.create body))
  replace_absent : ∀ s name body, server.stored s name = none →
    server.Refuses s absentStatus (server.serve s (.replace name body))
  replace_stale : ∀ s name body object, server.stored s name = some object →
    ClusterStore.versionOf body ≠ ClusterStore.versionOf object →
    server.Refuses s conflictStatus (server.serve s (.replace name body))
  replace_current : ∀ s name body object, server.stored s name = some object →
    ClusterStore.versionOf body = ClusterStore.versionOf object →
    (∃ object', server.Stores s name object' (server.serve s (.replace name body))) ∨
      server.Fails s (server.serve s (.replace name body))

variable {server : ApiServer σ}

theorem Refuses.fails {s : σ} {status : Int} {answer : Reply × σ}
    (h : server.Refuses s status answer) : server.Fails s answer := by
  obtain ⟨reason, hreason⟩ := h.error
  exact ⟨⟨_, hreason⟩, h.keeps⟩

/-- **One call.** A call stores an object under its name, or it changes nothing; a write that
changes nothing has failed. -/
theorem IsVersioned.serve_cases (hserver : server.IsVersioned) (s : σ) (call : Call) :
    (call.isWrite = true ∧ ∃ object, server.Stores s call.target object (server.serve s call)) ∨
      server.Keeps s (server.serve s call).2 ∧
        (call.isWrite = true → ∃ failure, (server.serve s call).1 = .error failure) := by
  have hfails (h : server.Fails s (server.serve s call)) :
      server.Keeps s (server.serve s call).2 ∧
        (call.isWrite = true → ∃ failure, (server.serve s call).1 = .error failure) :=
    ⟨h.keeps, fun _ => h.error⟩
  cases call with
  | get name => exact .inr ⟨hserver.get_keeps s name, fun h => by cases h⟩
  | create body =>
    cases hstored : server.stored s (Call.objectName body) with
    | some object => exact .inr (hfails (hserver.create_stored s body object hstored).fails)
    | none =>
      rcases hserver.create_absent s body hstored with h | h
      · exact .inl ⟨rfl, h⟩
      · exact .inr (hfails h)
  | replace name body =>
    cases hstored : server.stored s name with
    | none => exact .inr (hfails (hserver.replace_absent s name body hstored).fails)
    | some object =>
      by_cases hversion : ClusterStore.versionOf body = ClusterStore.versionOf object
      · rcases hserver.replace_current s name body object hstored hversion with h | h
        · exact .inl ⟨rfl, h⟩
        · exact .inr (hfails h)
      · exact .inr (hfails (hserver.replace_stale s name body object hstored hversion).fails)

/-! ### Histories -/

/-- A call that was served: who asked it, what was answered, and the states around it. -/
structure Event (σ : Type) where
  client : Nat
  call : Call
  reply : Reply
  before : σ
  after : σ

/-- An event stores an object. -/
def Event.IsWrite (e : Event σ) : Prop :=
  e.call.isWrite = true ∧ ∃ object, e.reply = .ok object

/-- An event stores an object under a name. -/
def Event.Writes (e : Event σ) (name : Json) : Prop :=
  e.IsWrite ∧ e.call.target = name

/-- Events that a server goes through from one state to another. -/
def IsHistory (server : ApiServer σ) : σ → List (Event σ) → σ → Prop
  | s, [], s' => s = s'
  | s, e :: rest, s' =>
    e.before = s ∧ server.serve s e.call = (e.reply, e.after) ∧ server.IsHistory e.after rest s'

theorem isHistory_append {s s' : σ} {earlier later : List (Event σ)} :
    server.IsHistory s (earlier ++ later) s' ↔
      ∃ t, server.IsHistory s earlier t ∧ server.IsHistory t later s' := by
  induction earlier generalizing s with
  | nil => simp [IsHistory]
  | cons e rest ih =>
    simp only [List.cons_append, IsHistory, ih]
    constructor
    · rintro ⟨hbefore, hserve, t, hrest, hlater⟩
      exact ⟨t, ⟨hbefore, hserve, hrest⟩, hlater⟩
    · rintro ⟨t, ⟨hbefore, hserve, hrest⟩, hlater⟩
      exact ⟨hbefore, hserve, t, hrest, hlater⟩

/-- Every event of a history was served. -/
theorem IsHistory.serve_eq {s s' : σ} {events : List (Event σ)}
    (h : server.IsHistory s events s') :
    ∀ e ∈ events, server.serve e.before e.call = (e.reply, e.after) := by
  induction events generalizing s with
  | nil => simp
  | cons e rest ih =>
    obtain ⟨rfl, hserve, hrest⟩ := h
    simp only [List.forall_mem_cons]
    exact ⟨hserve, ih hrest⟩

/-- **A name over time.** A name that is not written keeps its object, and one that is written has
an object with a version that was not given before. -/
theorem IsVersioned.stored_after (hserver : server.IsVersioned) {s s' : σ}
    {events : List (Event σ)} (h : server.IsHistory s events s') (name : Json) :
    ((∀ e ∈ events, ¬e.Writes name) → server.stored s' name = server.stored s name) ∧
      ((∃ e ∈ events, e.Writes name) → ∃ object v, server.stored s' name = some object ∧
        ClusterStore.versionOf object = .ok v ∧ ¬server.issued s v) := by
  -- By induction from the first event on, which is why all versions given so far are kept in sight.
  induction events generalizing s with
  | nil =>
    obtain rfl : s = s' := h
    simp
  | cons e rest ih =>
    obtain ⟨rfl, hserve, hrest⟩ := h
    obtain ⟨hkept, hwritten⟩ := ih hrest
    have hcases := hserver.serve_cases e.before e.call
    rw [hserve] at hcases
    have hfirst : ∀ v, server.issued e.before v → server.issued e.after v := by
      rcases hcases with ⟨-, _, hstores⟩ | ⟨hkeeps, -⟩
      · exact hstores.issued
      · exact hkeeps.issued
    refine ⟨fun hnone => ?_, fun hsome => ?_⟩
    · rw [List.forall_mem_cons] at hnone
      rw [hkept hnone.2]
      rcases hcases with ⟨hwrite, object, hstores⟩ | ⟨hkeeps, -⟩
      · exact hstores.others name fun hname => hnone.1 ⟨⟨hwrite, object, hstores.reply⟩, hname.symm⟩
      · exact hkeeps.stored name
    · by_cases hlater : ∃ e ∈ rest, e.Writes name
      · obtain ⟨object, v, hstored, hversion, hfresh⟩ := hwritten hlater
        exact ⟨object, v, hstored, hversion, fun hv => hfresh (hfirst v hv)⟩
      · -- The first event is the last one that writes the name.
        obtain ⟨⟨hwrite, object, hreply⟩, hname⟩ : e.Writes name := by
          obtain ⟨e', he', hwrites⟩ := hsome
          rcases List.mem_cons.mp he' with rfl | hrest
          · exact hwrites
          · exact absurd ⟨e', hrest, hwrites⟩ hlater
        rcases hcases with ⟨-, object', hstores⟩ | ⟨-, hfailure⟩
        · have hstored : server.stored s' name = some object' := by
            rw [hkept fun e he hwrites => hlater ⟨e, he, hwrites⟩, ← hname]
            exact hstores.stored
          obtain ⟨v, hversion, -⟩ := hserver.version _ _ _ hstored
          exact ⟨object', v, hstored, hversion, hstores.fresh v hversion⟩
        · obtain ⟨failure, hfailed⟩ := hfailure hwrite
          cases hreply.symm.trans hfailed

end ApiServer

/-! ### Objects with versions -/

/-- The fields of an object and those of its metadata. -/
def metadata? : Json → Option (List (String × Json) × List (String × Json))
  | .obj top =>
    match Json.field? "metadata" top with
    | some (.obj metadata) => some (top, metadata)
    | _ => none
  | _ => none

/-- An object with another version in its metadata. -/
def withVersion (version object : Json) : Json :=
  match metadata? object with
  | some (top, metadata) =>
    .obj (Json.setField "metadata" (.obj (Json.setField "resourceVersion" version metadata)) top)
  | none => object

theorem versionOf_withVersion {object : Json} (version : Json)
    (h : (metadata? object).isSome = true) :
    ClusterStore.versionOf (withVersion version object) = .ok version := by
  obtain ⟨⟨top, metadata⟩, hmetadata⟩ := Option.isSome_iff_exists.mp h
  rw [withVersion, hmetadata]
  simp [ClusterStore.versionOf, ClusterStore.fieldOf, Except.bind, Json.field?_setField]

namespace ApiServer

/-- A server that stores each object that it is sent as it is sent, but for the version. -/
structure IsVerbatim {σ : Type} (server : ApiServer σ) : Prop extends server.IsVersioned where
  create_verbatim : ∀ s body, (metadata? body).isSome = true →
    server.stored s (Call.objectName body) = none →
    ∃ v, server.Stores s (Call.objectName body) (withVersion v body) (server.serve s (.create body))
  replace_verbatim : ∀ s name body object, (metadata? body).isSome = true →
    server.stored s name = some object →
    ClusterStore.versionOf body = ClusterStore.versionOf object →
    ∃ v, server.Stores s name (withVersion v body) (server.serve s (.replace name body))

end ApiServer

/-! ### A server that stores what it is sent -/

/-- Objects under their names, each with the number of the write that stored it. -/
structure PlainServer where
  objects : Json → Option Json
  writes : Nat
  numbered : ∀ name object, objects name = some object →
    ∃ n ≤ writes, ClusterStore.versionOf object = .ok (.text (toString n))

namespace PlainServer

/-- A server without objects. -/
def empty : PlainServer where
  objects _ := none
  writes := 0
  numbered _ _ h := by cases h

/-- The server with an object stored under a name, with the number of the write as its version. -/
def write (s : PlainServer) (name body : Json) (h : (metadata? body).isSome = true) :
    PlainServer where
  objects n :=
    if n = name then some (withVersion (.text (toString (s.writes + 1))) body) else s.objects n
  writes := s.writes + 1
  numbered n object hobject := by
    split at hobject
    · obtain rfl := Option.some.inj hobject
      exact ⟨s.writes + 1, Nat.le_refl _, versionOf_withVersion _ h⟩
    · obtain ⟨k, hk, hversion⟩ := s.numbered n object hobject
      exact ⟨k, Nat.le_succ_of_le hk, hversion⟩

/-- Stores an object that has metadata, and answers with it. -/
def accept (s : PlainServer) (name body : Json) : Reply × PlainServer :=
  if h : (metadata? body).isSome = true then
    (.ok (withVersion (.text (toString (s.writes + 1))) body), s.write name body h)
  else (.error (.status (some 422) (some "Invalid")), s)

/-- Answers a call. -/
def serve (s : PlainServer) : Call → Reply × PlainServer
  | .get name =>
    match s.objects name with
    | some object => (.ok object, s)
    | none => (.error (.status (some absentStatus) (some "Not Found")), s)
  | .create body =>
    match s.objects (Call.objectName body) with
    | some _ => (.error (.status (some conflictStatus) (some "AlreadyExists")), s)
    | none => s.accept (Call.objectName body) body
  | .replace name body =>
    match s.objects name with
    | some object =>
      if ClusterStore.versionOf body = ClusterStore.versionOf object then s.accept name body
      else (.error (.status (some conflictStatus) (some "Conflict")), s)
    | none => (.error (.status (some absentStatus) (some "Not Found")), s)

/-- The server by what can be said of it: the versions given so far are the numbers of its
writes. -/
def asServer : ApiServer PlainServer where
  serve := serve
  stored := objects
  issued s v := ∃ n ≤ s.writes, v = .text (toString n)

theorem keeps_self (s : PlainServer) : asServer.Keeps s s :=
  ⟨fun _ => rfl, fun _ h => h⟩

theorem stores_accept (s : PlainServer) (name : Json) {body : Json}
    (h : (metadata? body).isSome = true) :
    asServer.Stores s name (withVersion (.text (toString (s.writes + 1))) body)
      (s.accept name body) := by
  rw [accept, dif_pos h]
  refine ⟨rfl, if_pos rfl, fun other hother => if_neg hother, fun v hv => ?_, ?_⟩
  · obtain rfl := Except.ok.inj ((versionOf_withVersion _ h).symm.trans hv)
    rintro ⟨n, hn, heq⟩
    have := MemoryStore.toString_nat_injective (Json.text.inj heq)
    omega
  · rintro v ⟨n, hn, rfl⟩
    exact ⟨n, Nat.le_succ_of_le hn, rfl⟩

theorem stores_or_fails_accept (s : PlainServer) (name body : Json) :
    (∃ object, asServer.Stores s name object (s.accept name body)) ∨
      asServer.Fails s (s.accept name body) := by
  by_cases h : (metadata? body).isSome = true
  · exact .inl ⟨_, s.stores_accept name h⟩
  · rw [accept, dif_neg h]
    exact .inr ⟨⟨_, rfl⟩, s.keeps_self⟩

theorem isVersioned : asServer.IsVersioned where
  version s name object hobject := by
    obtain ⟨n, hn, hversion⟩ := s.numbered name object hobject
    exact ⟨_, hversion, by simp, n, hn, rfl⟩
  get_keeps s name := by
    simp only [asServer, serve]
    split <;> exact s.keeps_self
  get_stored s name object hobject := by
    change s.objects name = some object at hobject
    simp only [asServer, serve, hobject]
  get_absent s name hnone := by
    change s.objects name = none at hnone
    exact ⟨some "Not Found", by simp only [asServer, serve, hnone]⟩
  create_stored s body object hobject := by
    change s.objects (Call.objectName body) = some object at hobject
    simp only [asServer, serve, hobject]
    exact ⟨⟨_, rfl⟩, s.keeps_self⟩
  create_absent s body hnone := by
    change s.objects (Call.objectName body) = none at hnone
    simp only [asServer, serve, hnone]
    exact s.stores_or_fails_accept _ body
  replace_absent s name body hnone := by
    change s.objects name = none at hnone
    simp only [asServer, serve, hnone]
    exact ⟨⟨_, rfl⟩, s.keeps_self⟩
  replace_stale s name body object hobject hversion := by
    change s.objects name = some object at hobject
    simp only [asServer, serve, hobject, if_neg hversion]
    exact ⟨⟨_, rfl⟩, s.keeps_self⟩
  replace_current s name body object hobject hversion := by
    change s.objects name = some object at hobject
    simp only [asServer, serve, hobject, if_pos hversion]
    exact s.stores_or_fails_accept name body

theorem isVerbatim : asServer.IsVerbatim where
  toIsVersioned := isVersioned
  create_verbatim s body hbody hnone := by
    change s.objects (Call.objectName body) = none at hnone
    simp only [asServer, serve, hnone]
    exact ⟨_, s.stores_accept _ hbody⟩
  replace_verbatim s name body object hbody hobject hversion := by
    change s.objects name = some object at hobject
    simp only [asServer, serve, hobject, if_pos hversion]
    exact ⟨_, s.stores_accept name hbody⟩

end PlainServer

end SliceAgent
