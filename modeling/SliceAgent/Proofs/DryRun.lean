import SliceAgent.Proofs.Contents
import SliceAgent.Proofs.Upsert

/-!
# Dry runs

A dry run stores slices in memory instead of the cluster. Slices that were built from devices are
stored alike in both, if the cluster keeps what it is sent and nobody else writes to it: every
operation has the same answer, up to the numbering of versions (`dry_run_agrees`).

The two stores are compared name by name (`IsHeldAlike`): either both hold nothing, or both hold one
built slice, in memory itself and in the cluster as its manifest, each under the version that the
last upsert of the name wrote back. Operations keep this, and it determines their answers.
-/

namespace SliceAgent

open MemoryStore (Request)

/-! ### Answers of either store -/

/-- What a store answers to an operation: what it has fetched, or how it has stored a slice and what
it has made of it, or that it failed. -/
inductive Told where
  | fetched (found : Option Slice)
  | stored (outcome : UpsertOutcome) (slice : Slice)
  | failed

namespace Told

/-- The answer to a get. -/
def ofFetched {ε : Type} : Except ε (Option Slice) → Told
  | .ok found => .fetched found
  | .error _ => .failed

/-- The answer to an upsert. -/
def ofUpserted (u : Upserted) : Told :=
  match u.result with
  | .ok outcome => .stored outcome u.slice
  | .error _ => .failed

/-- The version that an answer writes back into a slice of a name. -/
def version? (name : Json) : Told → Option Json
  | .stored _ slice => if slice.name = name then some slice.version else none
  | _ => none

/-- Two answers are the same, but for versions and for the order in which maps list their entries.
No answer is the same as a failure. -/
inductive Agrees : Told → Told → Prop
  | absent : Agrees (.fetched none) (.fetched none)
  | held {a b : Slice} (h : b.unversioned.IsSame a.unversioned) :
    Agrees (.fetched (some a)) (.fetched (some b))
  | stored (outcome : UpsertOutcome) {a b : Slice} (h : a.unversioned = b.unversioned) :
    Agrees (.stored outcome a) (.stored outcome b)

end Told

/-- One operation of the store in memory. -/
def MemoryStore.tell (store : MemoryStore) : Request → MemoryStore × Told
  | .get name => (store, .ofFetched (store.get name))
  | .upsert slice =>
    let (store, u) := store.upsert slice
    (store, .ofUpserted u)

/-- One operation of the store in the cluster, with no other client in between. -/
def ClusterStore.tell {σ : Type} (server : ApiServer σ) (s : σ) : Request → σ × Told
  | .get name =>
    let (result, s, _) := (get name).run server.serve s
    (s, .ofFetched result)
  | .upsert slice =>
    let (u, s, _) := (upsert slice).run server.serve s
    (s, .ofUpserted u)

/-- Operations one after another, each with its answer. -/
def transcript {σ : Type} (tell : σ → Request → σ × Told) : σ → List Request → List (Request × Told)
  | _, [] => []
  | s, request :: rest => (request, (tell s request).2) :: transcript tell (tell s request).1 rest

/-- The version that was last written back into a slice of a name. -/
def lastVersion (name : Json) (log : List (Request × Told)) : Option Json :=
  log.reverse.findSome? fun e => e.2.version? name

@[simp]
theorem lastVersion_append (name : Json) (log : List (Request × Told)) (e : Request × Told) :
    lastVersion name (log ++ [e]) = (e.2.version? name).or (lastVersion name log) := by
  cases h : e.2.version? name <;> simp [lastVersion, h]

/-- Each get of a log fetches the version that was last written back under its name, and nothing if
there is none; what came before the log counts too. -/
def FetchesLast (earlier log : List (Request × Told)) : Prop :=
  ∀ before name told after, log = before ++ (.get name, told) :: after →
    ∃ found, told = .fetched found ∧ found.map (·.version) = lastVersion name (earlier ++ before)

theorem fetchesLast_cons {earlier rest : List (Request × Told)} {e : Request × Told}
    (hfirst : ∀ name, e.1 = .get name →
      ∃ found, e.2 = .fetched found ∧ found.map (·.version) = lastVersion name earlier)
    (hrest : FetchesLast (earlier ++ [e]) rest) : FetchesLast earlier (e :: rest) := by
  intro before name told after hlog
  cases before with
  | nil =>
    obtain ⟨rfl, rfl⟩ := List.cons.inj hlog
    simpa using hfirst name rfl
  | cons f before =>
    obtain ⟨rfl, rfl⟩ := List.cons.inj hlog
    simpa using hrest before name told after rfl

/-! ### Slices that were built -/

/-- A slice that was built from a device, whose memory is not larger than what can be read back. -/
def Slice.IsBuilt (slice : Slice) : Prop :=
  ∃ driver node, ∃ d : Device, slice = d.slice driver node ∧
    d.memorySize ≤ 10 ^ Quantity.precision

namespace Slice.IsBuilt

variable {slice : Slice}

theorem exists_name (h : slice.IsBuilt) : ∃ s, slice.name = .text s := by
  obtain ⟨driver, node, d, rfl, -⟩ := h
  exact ⟨_, rfl⟩

theorem version_eq (h : slice.IsBuilt) : slice.version = .null := by
  obtain ⟨driver, node, d, rfl, -⟩ := h
  rfl

theorem hasExactCapacities (h : slice.IsBuilt) : slice.HasExactCapacities := by
  obtain ⟨driver, node, d, rfl, hd⟩ := h
  intro e he c hc
  obtain rfl := List.mem_singleton.mp he
  obtain rfl := List.mem_singleton.mp hc
  exact ⟨rfl, by simpa using hd⟩

end Slice.IsBuilt

/-! ### One operation in the cluster -/

theorem isSome_metadata?_manifest (slice : Slice) :
    (metadata? slice.manifest).isSome = true := rfl

/-- Another version in a manifest is the manifest of the slice with that version. -/
theorem withVersion_manifest (slice : Slice) {version : Json} (h : version ≠ .null) :
    withVersion version slice.manifest = { slice with version }.manifest := by
  have hfields : Json.setField "resourceVersion" version
      ([("name", slice.name), ("labels", .ofEntries slice.labels)] ++
        if slice.version = .null then [] else [("resourceVersion", slice.version)]) =
      [("name", slice.name), ("labels", .ofEntries slice.labels),
        ("resourceVersion", version)] := by
    split <;> rfl
  have hmetadata : ({ slice with version } : Slice).metadata = .obj
      [("name", slice.name), ("labels", .ofEntries slice.labels),
        ("resourceVersion", version)] := by
    simp [Slice.metadata, h]
  rw [Slice.manifest, Slice.manifest, hmetadata, ← hfields]
  rfl

section Cluster

variable {σ : Type} {server : ApiServer σ} {slice : Slice} {s : σ}

open ApiServer ClusterStore

/-- The write of an upsert is accepted if nobody else writes. -/
theorem stores_writeCall (hserver : server.IsVerbatim) (s : σ) (slice : Slice) :
    ∃ v, v ≠ .null ∧ server.Stores s slice.name { slice with version := v }.manifest
      (server.serve s (writeCall slice (server.version? s slice.name))) := by
  -- The version that is stored is not null, so it shows in the manifest.
  have hmanifest {v v' : Json} {answer : Reply × σ}
      (h : server.Stores s slice.name (withVersion v { slice with version := v' }.manifest)
        answer) :
      ∃ v, v ≠ .null ∧ server.Stores s slice.name { slice with version := v }.manifest answer := by
    obtain ⟨w, hw, hne, -⟩ := hserver.version _ _ _ h.stored
    rw [versionOf_withVersion _ (isSome_metadata?_manifest _)] at hw
    obtain rfl := Except.ok.inj hw
    rw [withVersion_manifest _ hne] at h
    exact ⟨v, hne, h⟩
  cases hstored : server.stored s slice.name with
  | none =>
    obtain ⟨v, hv⟩ := hserver.create_verbatim s { slice with version := .null }.manifest rfl
      (by rwa [objectName_manifest])
    rw [objectName_manifest] at hv
    rw [version?_eq_none hstored]
    exact hmanifest hv
  | some object =>
    obtain ⟨w, hw, -⟩ := hserver.version _ _ _ hstored
    obtain ⟨v, hv⟩ := hserver.replace_verbatim s slice.name { slice with version := w }.manifest
      object rfl hstored (by rw [versionOf_manifest, hw])
    rw [version?_eq_some hstored hw]
    exact hmanifest hv

theorem run_write (slice : Slice) {verb : Verb} {outcome : UpsertOutcome} {call : Json → Call}
    {object version : Json} (hwritable : slice.isWritable = true)
    (hreply : (server.serve s (call slice.manifest)).1 = .ok object)
    (hversion : versionOf object = .ok version) :
    (write slice verb outcome call).run server.serve s =
      (⟨{ slice with version }, .ok outcome⟩, (server.serve s (call slice.manifest)).2,
        [call slice.manifest]) := by
  rw [write, if_pos hwritable]
  simp [Exchange.run, hreply, hversion]

/-- **An upsert in the cluster.** If nobody else writes, an upsert makes one get and one write,
creates or updates its name and takes over a version from the server, which then has the manifest of
the slice. -/
theorem run_upsert (hserver : server.IsVerbatim) (hwritable : slice.isWritable = true) (s : σ) :
    ∃ v s', (upsert slice).run server.serve s =
        (⟨{ slice with version := v }, .ok (writeOutcome (server.version? s slice.name))⟩, s',
          [.get slice.name, writeCall slice (server.version? s slice.name)]) ∧
      v ≠ .null ∧ server.stored s' slice.name = some { slice with version := v }.manifest ∧
      ∀ name, name ≠ slice.name → server.stored s' name = server.stored s name := by
  obtain ⟨next, hupsert, hnext⟩ := upsert_eq hserver.toIsVersioned s slice
  let t := (server.serve s (.get slice.name)).2
  have hkeeps : server.Keeps s t := hserver.get_keeps s slice.name
  have hversion : server.version? t slice.name = server.version? s slice.name := by
    rw [version?, hkeeps.stored]
    rfl
  obtain ⟨v, hne, hstores⟩ := stores_writeCall hserver t slice
  rw [hversion] at hstores
  have hrun : (proceed slice (server.version? s slice.name)).run server.serve t =
      (⟨{ slice with version := v }, .ok (writeOutcome (server.version? s slice.name))⟩,
        (server.serve t (writeCall slice (server.version? s slice.name))).2,
        [writeCall slice (server.version? s slice.name)]) := by
    cases hcase : server.version? s slice.name with
    | none =>
      rw [hcase] at hstores
      exact run_write { slice with version := .null } hwritable hstores.reply (versionOf_manifest _)
    | some w =>
      rw [hcase] at hstores
      exact run_write { slice with version := w } hwritable hstores.reply (versionOf_manifest _)
  refine ⟨v, _, ?_, hne, hstores.stored, fun name hname => ?_⟩
  · rw [hupsert, Exchange.run, hnext, hrun]
  · rw [hstores.others name hname, hkeeps.stored]

/-- **A get in the cluster.** It fetches nothing for a name that the server has no object of, and
the slice for a name that it has the manifest of; and it changes nothing. -/
theorem run_get (hserver : server.IsVersioned) (s : σ) (name : Json) :
    ∃ result s', (get name).run server.serve s = (result, s', [.get name]) ∧ server.Keeps s s' ∧
      (server.stored s name = none → result = .ok none) ∧
      ∀ slice : Slice, slice.HasExactCapacities → server.stored s name = some slice.manifest →
        result = .ok (some slice.reread) := by
  refine ⟨_, _, rfl, hserver.get_keeps s name, fun hnone => ?_, fun slice hexact hstored => ?_⟩
  · obtain ⟨reason, hreply⟩ := hserver.get_absent s name hnone
    simp [hreply, found]
  · have hfound : found name (.ok slice.manifest) = .ok (some slice.manifest) := rfl
    simp [hserver.get_stored s name _ hstored, hfound,
      Slice.ofManifest_manifest hexact, Except.mapError, Except.map]

end Cluster

/-! ### Both stores -/

/-- An operation of a dry run: it gets a name that can be one, or it stores a slice that was
built. -/
def MemoryStore.Request.IsPlain : Request → Prop
  | .get name => name.isKey = true
  | .upsert slice => slice.IsBuilt

section Both

variable {σ : Type} {server : ApiServer σ} {store : MemoryStore} {s : σ} {slice : Slice}
  {name : Json} {log log' : List (Request × Told)}

/-- Memory and cluster hold nothing under a name, or one built slice, which has in each the version
that was last written back there. -/
inductive IsHeldAlike (server : ApiServer σ) (store : MemoryStore) (s : σ)
    (log log' : List (Request × Told)) (name : Json) : Prop
  | absent (hstore : store.find? name = none) (hserver : server.stored s name = none)
    (hlog : lastVersion name log = none) (hlog' : lastVersion name log' = none)
  | held (slice : Slice) (v v' : Json) (hbuilt : slice.IsBuilt)
    (hstore : store.find? name = some { slice with version := v })
    (hserver : server.stored s name = some { slice with version := v' }.manifest)
    (hlog : lastVersion name log = some v) (hlog' : lastVersion name log' = some v')

/-- An operation that leaves a name alone changes nothing of it. -/
theorem IsHeldAlike.of_eq {store' : MemoryStore} {s' : σ} {told told' : Request × Told}
    (h : IsHeldAlike server store s log log' name) (hstore : store'.find? name = store.find? name)
    (hserver : server.stored s' name = server.stored s name)
    (htold : told.2.version? name = none) (htold' : told'.2.version? name = none) :
    IsHeldAlike server store' s' (log ++ [told]) (log' ++ [told']) name := by
  cases h with
  | absent h h' hlog hlog' =>
    exact .absent (hstore.trans h) (hserver.trans h') (by simp [htold, hlog])
      (by simp [htold', hlog'])
  | held slice v v' hbuilt h h' hlog hlog' =>
    exact .held slice v v' hbuilt (hstore.trans h) (hserver.trans h') (by simp [htold, hlog])
      (by simp [htold', hlog'])

/-- A slice comes back from its manifest as the same slice, whatever its version. -/
theorem Slice.unversioned_reread_isSame (slice : Slice) (v v' : Json) :
    ({ slice with version := v' }.reread).unversioned.IsSame
      ({ slice with version := v } : Slice).unversioned := by
  have hsame := ({ slice with version := v' } : Slice).reread_isSame
  exact ⟨hsame.name, hsame.driver, hsame.nodeName, hsame.pool, hsame.devices, hsame.labels, rfl⟩

/-- Where both hold the same, a get has the same answer, with the version last written back. -/
theorem IsHeldAlike.tell_get (h : IsHeldAlike server store s log log' name)
    (hserver : server.IsVersioned) (hkey : name.isKey = true) :
    ∃ found found' s', store.tell (.get name) = (store, .fetched found) ∧
      ClusterStore.tell server s (.get name) = (s', .fetched found') ∧ server.Keeps s s' ∧
      Told.Agrees (.fetched found) (.fetched found') ∧
      found.map (·.version) = lastVersion name log ∧
      found'.map (·.version) = lastVersion name log' := by
  obtain ⟨result, s', hrun, hkeeps, habsent, hpresent⟩ := run_get hserver s name
  have hcluster : ClusterStore.tell server s (.get name) = (s', .ofFetched result) := by
    simp only [ClusterStore.tell, hrun]
  have hmemory : store.tell (.get name) = (store, .fetched (store.find? name)) := by
    simp only [MemoryStore.tell, MemoryStore.get, hkey, if_true, Told.ofFetched]
  cases h with
  | absent hstore hstored hlog hlog' =>
    rw [habsent hstored] at hcluster
    rw [hstore] at hmemory
    exact ⟨none, none, s', hmemory, hcluster, hkeeps, .absent, hlog.symm, hlog'.symm⟩
  | held slice v v' hbuilt hstore hstored hlog hlog' =>
    rw [hpresent { slice with version := v' } hbuilt.hasExactCapacities hstored] at hcluster
    rw [hstore] at hmemory
    exact ⟨some _, some _, s', hmemory, hcluster, hkeeps,
      .held (slice.unversioned_reread_isSame v v'), hlog.symm, hlog'.symm⟩

/-- Where both hold the same, storing a built slice has the same outcome, and both hold this slice
then. -/
theorem IsHeldAlike.tell_upsert (h : IsHeldAlike server store s log log' slice.name)
    (hserver : server.IsVerbatim) (hbuilt : slice.IsBuilt) :
    ∃ outcome v v' s',
      store.tell (.upsert slice) =
        ((store.write slice).1, .stored outcome { slice with version := v }) ∧
      (store.write slice).2 = { slice with version := v } ∧
      ClusterStore.tell server s (.upsert slice) =
        (s', .stored outcome { slice with version := v' }) ∧
      server.stored s' slice.name = some { slice with version := v' }.manifest ∧
      ∀ name, name ≠ slice.name → server.stored s' name = server.stored s name := by
  obtain ⟨v', s', hrun, -, hstored', hothers⟩ := run_upsert hserver
    (Slice.isWritable_of_hasExactCapacities hbuilt.hasExactCapacities) s
  have hcluster : ClusterStore.tell server s (.upsert slice) =
      (s', .stored (ClusterStore.writeOutcome (server.version? s slice.name))
        { slice with version := v' }) := by
    simp only [ClusterStore.tell, hrun, Told.ofUpserted]
  have hkey : slice.name.isKey = true := by
    obtain ⟨t, ht⟩ := hbuilt.exists_name
    rw [ht]
    rfl
  refine ⟨_, (store.write slice).2.version, v', s', ?_, rfl, hcluster, hstored', hothers⟩
  cases h with
  | absent hstore hstored =>
    rw [ApiServer.version?_eq_none hstored, MemoryStore.tell,
      MemoryStore.upsert_of_absent hkey hstore]
    rfl
  | held held v w hheld hstore hstored =>
    -- A built slice has no version, so it is stored over any other.
    have haccepts : MemoryStore.accepts slice { held with version := v } = true := by
      simp [MemoryStore.accepts, hbuilt.version_eq]
    rw [ApiServer.version?_eq_some hstored (ClusterStore.versionOf_manifest _), MemoryStore.tell,
      MemoryStore.upsert_of_accepts hkey hstore haccepts]
    rfl

/-- **One operation.** Where both hold the same under all names, an operation has the same answer
and both hold the same after it. -/
theorem isHeldAlike_tell (hserver : server.IsVerbatim)
    (h : ∀ name, IsHeldAlike server store s log log' name) {request : Request}
    (hrequest : request.IsPlain) :
    let told := store.tell request
    let told' := ClusterStore.tell server s request
    told.2.Agrees told'.2 ∧
      (∀ name, request = .get name →
        (∃ found, told.2 = .fetched found ∧ found.map (·.version) = lastVersion name log) ∧
        ∃ found, told'.2 = .fetched found ∧ found.map (·.version) = lastVersion name log') ∧
      ∀ name, IsHeldAlike server told.1 told'.1 (log ++ [(request, told.2)])
        (log' ++ [(request, told'.2)]) name := by
  intro told told'
  cases request with
  | get name =>
    obtain ⟨found, found', s', hmemory, hcluster, hkeeps, hagrees, hlast, hlast'⟩ :=
      (h name).tell_get hserver.toIsVersioned hrequest
    simp only [told, told', hmemory, hcluster]
    refine ⟨hagrees, fun n hn => ?_, fun n => (h n).of_eq rfl (hkeeps.stored n) rfl rfl⟩
    obtain rfl := Request.get.inj hn
    exact ⟨⟨found, rfl, hlast⟩, found', rfl, hlast'⟩
  | upsert slice =>
    obtain ⟨outcome, v, v', s', hmemory, hwritten, hcluster, hstored, hothers⟩ :=
      (h slice.name).tell_upsert hserver hrequest
    obtain ⟨t, ht⟩ := hrequest.exists_name
    simp only [told, told', hmemory, hcluster]
    refine ⟨.stored outcome rfl, fun n hn => (by cases hn), fun n => ?_⟩
    by_cases hn : n = slice.name
    · subst hn
      refine .held slice v v' hrequest ?_ hstored (by simp [Told.version?])
        (by simp [Told.version?])
      rw [MemoryStore.find?_write, if_pos (Json.same_self _), hwritten]
    · have hsame : slice.name.same n = false := by
        rw [Bool.eq_false_iff]
        intro hsame
        rw [ht] at hsame hn
        exact hn (Json.same_text_iff.mp (Json.same_symm hsame))
      have hversion (outcome : UpsertOutcome) (v : Json) :
          (Told.stored outcome { slice with version := v }).version? n = none :=
        if_neg (Ne.symm hn)
      refine (h n).of_eq ?_ (hothers n hn) (hversion outcome v) (hversion outcome v')
      rw [MemoryStore.find?_write, hsame, if_neg (by simp)]

/-- **A sequence of operations.** Where both hold the same under all names, operations have the same
answers, and each get the version last written back. -/
theorem transcripts_agree (hserver : server.IsVerbatim)
    (h : ∀ name, IsHeldAlike server store s log log' name) {requests : List Request}
    (hrequests : ∀ request ∈ requests, request.IsPlain) :
    List.Forall₂ (fun e e' => e.1 = e'.1 ∧ e.2.Agrees e'.2)
        (transcript MemoryStore.tell store requests)
        (transcript (ClusterStore.tell server) s requests) ∧
      FetchesLast log (transcript MemoryStore.tell store requests) ∧
      FetchesLast log' (transcript (ClusterStore.tell server) s requests) := by
  -- By induction on the operations; the logs so far tell what was written back before them.
  induction requests generalizing store s log log' with
  | nil =>
    refine ⟨.nil, ?_, ?_⟩ <;>
    · intro before name told after hlog
      cases before <;> cases hlog
  | cons request rest ih =>
    rw [List.forall_mem_cons] at hrequests
    obtain ⟨hagrees, hfetched, hheld⟩ := isHeldAlike_tell hserver h hrequests.1
    obtain ⟨hrest, hlast, hlast'⟩ := ih hheld hrequests.2
    exact ⟨.cons ⟨rfl, hagrees⟩ hrest,
      fetchesLast_cons (fun name hname => (hfetched name hname).1) hlast,
      fetchesLast_cons (fun name hname => (hfetched name hname).2) hlast'⟩

/-- **A dry run agrees with the cluster.** Take any operations that store slices built from devices
and get them, one after another against an empty store in memory and against a server that has no
objects yet and keeps what it is sent. Every operation has the same answer from both: slices are
created or updated alike, and never refused; a get fetches nothing from both, or slices that differ
in their versions only. And in both the version that a get fetches is the one that the last upsert
of its name has written back. -/
theorem dry_run_agrees (hserver : server.IsVerbatim) (hempty : ∀ name, server.stored s name = none)
    (requests : List Request) (hrequests : ∀ request ∈ requests, request.IsPlain) :
    let memory := transcript MemoryStore.tell {} requests
    let cluster := transcript (ClusterStore.tell server) s requests
    List.Forall₂ (fun e e' => e.1 = e'.1 ∧ e.2.Agrees e'.2) memory cluster ∧
      FetchesLast [] memory ∧ FetchesLast [] cluster :=
  transcripts_agree hserver (fun name => .absent rfl (hempty name) rfl rfl) hrequests

/-- Two devices, one of them stored twice, against a server that has already counted some writes:
both stores fetch the slice under their own versions. -/
theorem dry_run_agrees_two_devices :
    let a := (⟨"a", "u", 10 ^ 28, 0, .primary, "0000:00:01.0", 0⟩ : Device).slice "driver" "node"
    let b := (⟨"b", "v", 1024, -1, .primary, "0000:00:02.0", 3⟩ : Device).slice "driver" "node"
    let server : PlainServer := ⟨fun _ => none, 7, fun _ _ h => by cases h⟩
    let earlier : List Request := [.get a.name, .upsert a, .upsert b, .upsert a]
    let memory := transcript MemoryStore.tell {}
    let cluster := transcript (ClusterStore.tell PlainServer.asServer) server
    List.Forall₂ (fun e e' => e.1 = e'.1 ∧ e.2.Agrees e'.2)
        (memory (earlier ++ [.get a.name])) (cluster (earlier ++ [.get a.name])) ∧
      (∃ slice, memory (earlier ++ [.get a.name]) =
            memory earlier ++ [(.get a.name, .fetched (some slice))] ∧
          slice.version = .text "3") ∧
      ∃ slice, cluster (earlier ++ [.get a.name]) =
            cluster earlier ++ [(.get a.name, .fetched (some slice))] ∧
          slice.version = .text "10" := by
  intro a b server earlier memory cluster
  have ha : a.IsBuilt := ⟨_, _, _, rfl, Nat.le_refl _⟩
  have hb : b.IsBuilt := ⟨_, _, _, rfl, by decide⟩
  have hrequests : ∀ request ∈ earlier ++ [.get a.name], request.IsPlain := by
    simp only [earlier, List.cons_append, List.nil_append, List.forall_mem_cons]
    exact ⟨rfl, ha, hb, ha, rfl, by simp⟩
  obtain ⟨hagree, hmemory, hcluster⟩ := dry_run_agrees (s := server) PlainServer.isVerbatim
    (fun _ => rfl) (earlier ++ [.get a.name]) hrequests
  -- In each log the get comes last, and the answers before it tell the version.
  have hlast {all log : List (Request × Told)} {told : Told} {version : Json}
      (h : FetchesLast [] all) (hall : all = log ++ [(.get a.name, told)])
      (hversion : lastVersion a.name log = some version) :
      ∃ slice, all = log ++ [(.get a.name, .fetched (some slice))] ∧ slice.version = version := by
    obtain ⟨found, rfl, hfound⟩ := h log a.name told [] hall
    rw [List.nil_append, hversion] at hfound
    obtain ⟨slice, rfl, hslice⟩ := Option.map_eq_some_iff.mp hfound
    exact ⟨slice, hall, hslice⟩
  have hmem : memory (earlier ++ [.get a.name]) = memory earlier ++ [(.get a.name, _)] := rfl
  have hclu : cluster (earlier ++ [.get a.name]) = cluster earlier ++ [(.get a.name, _)] := rfl
  exact ⟨hagree, hlast hmemory hmem (by decide +kernel), hlast hcluster hclu (by decide +kernel)⟩

end Both

end SliceAgent
