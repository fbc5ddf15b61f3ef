import SliceAgent.Proofs.Cycle
import SliceAgent.Proofs.Upsert

/-!
# Whatever the cluster answers

An upsert in the cluster makes one or two calls, and how it ends is told by their replies alone:
there are five ways for it to go (`Course`), one of which every run takes (`course_of_run`). If each
reply is an object, a status or a failure of the connection, then the upsert stores its slice or
fails as a store does, unless it cannot read the version in an object or cannot write out its slice
(`Derails`).

That exception is one to all slices of a cycle. As long as no upsert derails, the cycle tries every
slice and is complete, whatever the cluster answers; but one that does leaves the slices after it
untried (`cluster_keeps_contract`).
-/

namespace SliceAgent

variable {σ α : Type}

/-- The calls of an exchange, each with its reply. -/
def Exchange.transcript (serve : σ → Call → Reply × σ) : Exchange α → σ → List (Call × Reply)
  | .done _, _ => []
  | .ask call next, s =>
    (call, (serve s call).1) :: (next (serve s call).1).transcript serve (serve s call).2

/-- A reply is an object, a status or a failure of the connection. -/
def Reply.IsPlain : Reply → Prop
  | .ok (.obj _) | .error (.status _ _) | .error (.transport _) => True
  | _ => False

namespace ClusterStore

/-! ### Versions of objects -/

/-- An object whose metadata, if it has any, is an object too. -/
def HasMetadata (object : Json) : Prop :=
  ∃ metadata, fieldOf "metadata" (.obj []) object = .ok (.obj metadata)

/-- The version can be read of just those objects whose metadata is an object. -/
theorem exists_versionOf_iff {object : Json} :
    (∃ version, versionOf object = .ok version) ↔ HasMetadata object := by
  rw [HasMetadata, versionOf]
  cases fieldOf "metadata" (.obj []) object with
  | error crash => simp [Except.bind]
  | ok metadata => cases metadata <;> simp [Except.bind, fieldOf]

/-! ### How an upsert can go -/

/-- The ways in which an upsert can go, by the replies to its calls, and how it ends then. -/
inductive Course (slice : Slice) : List (Call × Reply) → Except UpsertFault UpsertOutcome → Prop
  /-- The get tells nothing of the name. -/
  | unread (reply : Reply) (fault : UpsertFault)
    (read : readVersion slice.name reply = .error fault) :
    Course slice [(.get slice.name, reply)] (.error fault)
  /-- The slice cannot be written out. -/
  | unwritable (reply : Reply) (version? : Option Json)
    (read : readVersion slice.name reply = .ok version?) (long : slice.isWritable = false) :
    Course slice [(.get slice.name, reply)] (.error (.crash .digitLimit))
  /-- The write fails. -/
  | refused (reply : Reply) (version? : Option Json)
    (read : readVersion slice.name reply = .ok version?) (short : slice.isWritable = true)
    (failure : ApiFailure) :
    Course slice [(.get slice.name, reply), (writeCall slice version?, .error failure)]
      (.error (failure.storeFault (writeVerb version?) slice.name))
  /-- The slice is written, but the version of the object is not to be read. -/
  | garbled (reply : Reply) (version? : Option Json)
    (read : readVersion slice.name reply = .ok version?) (short : slice.isWritable = true)
    (object : Json) (crash : Crash) (version : versionOf object = .error crash) :
    Course slice [(.get slice.name, reply), (writeCall slice version?, .ok object)]
      (.error (.crash crash))
  /-- The slice is written. -/
  | stored (reply : Reply) (version? : Option Json)
    (read : readVersion slice.name reply = .ok version?) (short : slice.isWritable = true)
    (object version : Json) (answered : versionOf object = .ok version) :
    Course slice [(.get slice.name, reply), (writeCall slice version?, .ok object)]
      (.ok (writeOutcome version?))

/-- **Every run of an upsert takes one of the courses.** -/
theorem course_of_run (serve : σ → Call → Reply × σ) (slice : Slice) (s : σ) :
    Course slice ((upsert slice).transcript serve s) ((upsert slice).run serve s).1.result := by
  rw [upsert_eq_proceed, Exchange.transcript, Exchange.run]
  set reply := (serve s (.get slice.name)).1
  set t := (serve s (.get slice.name)).2
  cases hread : readVersion slice.name reply with
  | error fault => exact .unread reply fault hread
  | ok version? =>
    obtain ⟨version, call, hproceed, hcall⟩ := proceed_eq_write slice version?
    simp only [hproceed]
    cases hwritable : slice.isWritable with
    | false =>
      have hlong : ¬({ slice with version } : Slice).isWritable = true := by
        rw [Bool.not_eq_true]
        exact hwritable
      rw [write, if_neg hlong]
      exact .unwritable reply version? hread hwritable
    | true =>
      rw [write, if_pos (by exact hwritable), Exchange.transcript, Exchange.run, hcall]
      cases hwrite : (serve t (writeCall slice version?)).1 with
      | error failure => exact .refused reply version? hread hwritable failure
      | ok object =>
        simp only [Exchange.transcript, Exchange.run]
        cases hversion : versionOf object with
        | error crash => exact .garbled reply version? hread hwritable object crash hversion
        | ok version => exact .stored reply version? hread hwritable object version hversion

/-! ### How an upsert ends -/

/-- What a create does is to create, and what a replace does is to update. -/
def outcomeOfCall : Call → UpsertOutcome
  | .create _ => .created
  | _ => .updated

theorem outcomeOfCall_writeCall (slice : Slice) (version? : Option Json) :
    outcomeOfCall (writeCall slice version?) = writeOutcome version? := by
  cases version? <;> rfl

/-- An upsert cannot read the version in an object that it was answered, or it cannot write out its
slice once the get has told what there is. -/
def Derails (slice : Slice) (transcript : List (Call × Reply)) : Prop :=
  (∃ e ∈ transcript, ∃ object, e.2 = .ok object ∧ ¬HasMetadata object) ∨
    slice.isWritable = false ∧
      ∃ e ∈ transcript, ∃ version?, readVersion slice.name e.2 = .ok version?

theorem not_hasMetadata_iff {object : Json} :
    ¬HasMetadata object ↔ ∃ crash, versionOf object = .error crash := by
  rw [← exists_versionOf_iff]
  cases versionOf object <;> simp

/-- The version of an object is known if it can be read. -/
theorem readVersion_obj (name : Json) (fields : List (String × Json)) :
    readVersion name (.ok (.obj fields)) = ((versionOf (.obj fields)).mapError .crash).map some :=
  rfl

/-- A get fails as a store does, but never with a conflict, unless it is answered with an object
whose version is not to be read. -/
theorem readVersion_error {name : Json} {reply : Reply} {fault : UpsertFault}
    (hreply : reply.IsPlain) (h : readVersion name reply = .error fault) :
    (∃ object crash, reply = .ok object ∧ versionOf object = .error crash ∧ fault = .crash crash) ∨
      (∃ failure, reply = .error failure) ∧
        ∃ f, fault = .store f ∧ f.isConflict = false := by
  match reply, hreply with
  | .ok (.obj fields), _ =>
    rw [readVersion_obj] at h
    cases hversion : versionOf (.obj fields) with
    | error crash =>
      obtain rfl : fault = .crash crash := by
        simpa [hversion, Except.mapError, Except.map, eq_comm] using h
      exact .inl ⟨_, crash, rfl, hversion, rfl⟩
    | ok version => simp [hversion, Except.mapError, Except.map] at h
  | .error (.status code reason), _ =>
    refine .inr ⟨⟨_, rfl⟩, ?_⟩
    rw [readVersion, found] at h
    split at h
    · cases h
    · obtain rfl : fault = .store (.refused .get name code reason) := by
        simpa [Except.bind, ApiFailure.storeFault, eq_comm] using h
      exact ⟨_, rfl, rfl⟩
  | .error (.transport e), _ =>
    obtain rfl : fault = .store (.unreachable .get name e) := by
      simpa [readVersion, found, Except.bind, ApiFailure.storeFault, eq_comm] using h
    exact .inr ⟨⟨_, rfl⟩, _, rfl, rfl⟩

/-- A get that tells of the name is not answered with an object whose version is not to be read. -/
theorem hasMetadata_of_readVersion {name object : Json} {reply : Reply} {version? : Option Json}
    (hreply : reply.IsPlain) (h : readVersion name reply = .ok version?)
    (hobject : reply = .ok object) : HasMetadata object := by
  match reply, hreply with
  | .ok (.obj fields), _ =>
    obtain rfl := Except.ok.inj hobject
    rw [readVersion_obj] at h
    cases hversion : versionOf (.obj fields) with
    | error crash => simp [hversion, Except.mapError, Except.map] at h
    | ok version => exact exists_versionOf_iff.mp ⟨version, hversion⟩
  | .error _, _ => cases hobject

/-- A write that fails does so as a store does, and with a conflict just for that status. -/
theorem storeFault_write {failure : ApiFailure} (hplain : Reply.IsPlain (.error failure))
    (version? : Option Json) (name : Json) :
    ∃ fault, failure.storeFault (writeVerb version?) name = .store fault ∧
      (fault.isConflict = true ↔ ∃ reason, failure = .status (some conflictStatus) reason) := by
  match failure, hplain with
  | .status code reason, _ =>
    refine ⟨_, rfl, ?_⟩
    cases version? <;> simp [StoreFault.isConflict, writeVerb]
  | .transport e, _ => exact ⟨_, rfl, by simp [StoreFault.isConflict]⟩

namespace Course

variable {slice : Slice} {transcript : List (Call × Reply)}
  {result : Except UpsertFault UpsertOutcome}

/-- An upsert crashes exactly if it derails. -/
theorem crash_iff (h : Course slice transcript result) (hplain : ∀ e ∈ transcript, e.2.IsPlain) :
    (∃ crash, result = .error (.crash crash)) ↔ Derails slice transcript := by
  cases h with
  | unread reply fault read =>
    rcases readVersion_error (hplain _ (List.mem_singleton_self _)) read with
      ⟨object, crash, hobject, hversion, rfl⟩ | ⟨⟨failure, hfailure⟩, f, rfl, -⟩
    · exact iff_of_true ⟨crash, rfl⟩ (.inl ⟨_, List.mem_singleton_self _, object, hobject,
        not_hasMetadata_iff.mpr ⟨crash, hversion⟩⟩)
    · obtain rfl : reply = .error failure := hfailure
      exact iff_of_false (by simp) (by simp [Derails, read])
  | unwritable reply version? read long =>
    exact iff_of_true ⟨_, rfl⟩ (.inr ⟨long, _, List.mem_singleton_self _, version?, read⟩)
  | refused reply version? read short failure =>
    simp only [List.forall_mem_cons] at hplain
    obtain ⟨fault, hfault, -⟩ := storeFault_write hplain.2.1 version? slice.name
    have hread : ∀ object, reply = .ok object → HasMetadata object := fun _ hobject =>
      hasMetadata_of_readVersion hplain.1 read hobject
    exact iff_of_false (by simp [hfault]) (by simpa [Derails, short] using hread)
  | garbled reply version? read short object crash version =>
    exact iff_of_true ⟨_, rfl⟩ (.inl ⟨_, List.mem_cons_of_mem _ (List.mem_singleton_self _), object,
      rfl, not_hasMetadata_iff.mpr ⟨crash, version⟩⟩)
  | stored reply version? read short object version answered =>
    simp only [List.forall_mem_cons] at hplain
    have hread : ∀ object, reply = .ok object → HasMetadata object := fun _ hobject =>
      hasMetadata_of_readVersion hplain.1 read hobject
    have hwritten : HasMetadata object := exists_versionOf_iff.mp ⟨version, answered⟩
    exact iff_of_false (by simp) (by simpa [Derails, short, hwritten] using hread)

/-- An upsert ends in a conflict exactly if its write is answered with that status. -/
theorem conflict_iff (h : Course slice transcript result)
    (hplain : ∀ e ∈ transcript, e.2.IsPlain) :
    (∃ fault, result = .error (.store fault) ∧ fault.isConflict = true) ↔
      ∃ e ∈ transcript, e.1.isWrite = true ∧
        ∃ reason, e.2 = .error (.status (some conflictStatus) reason) := by
  have hget : (Call.get slice.name).isWrite = false := rfl
  cases h with
  | unread reply fault read =>
    refine iff_of_false ?_ (by simp [hget])
    rcases readVersion_error (hplain _ (List.mem_singleton_self _)) read with
      ⟨object, crash, -, -, rfl⟩ | ⟨-, f, rfl, hf⟩
    · simp
    · simp [hf]
  | unwritable => exact iff_of_false (by simp) (by simp [hget])
  | refused reply version? read short failure =>
    simp only [List.forall_mem_cons] at hplain
    obtain ⟨fault, hfault, hconflict⟩ := storeFault_write hplain.2.1 version? slice.name
    simp [hfault, hconflict, hget]
  | garbled => exact iff_of_false (by simp) (by simp [hget])
  | stored => exact iff_of_false (by simp) (by simp [hget])

/-- An upsert ends in an outcome exactly if its write is answered with an object whose version can
be read; then it did what the write does. -/
theorem outcome_iff (h : Course slice transcript result) (outcome : UpsertOutcome) :
    result = .ok outcome ↔ ∃ e ∈ transcript, e.1.isWrite = true ∧ outcomeOfCall e.1 = outcome ∧
      ∃ object, e.2 = .ok object ∧ HasMetadata object := by
  have hget : (Call.get slice.name).isWrite = false := rfl
  cases h with
  | unread => exact iff_of_false (by simp) (by simp [hget])
  | unwritable => exact iff_of_false (by simp) (by simp [hget])
  | refused => exact iff_of_false (by simp) (by simp [hget])
  | garbled reply version? read short object crash version =>
    have hgarbled : ¬HasMetadata object := not_hasMetadata_iff.mpr ⟨crash, version⟩
    exact iff_of_false (by simp) (by simp [hget, hgarbled])
  | stored reply version? read short object version answered =>
    have hwritten : HasMetadata object := exists_versionOf_iff.mp ⟨version, answered⟩
    simp [hget, hwritten, outcomeOfCall_writeCall]

end Course

/-! ### Cycles over the cluster -/

/-- The store in the cluster as a cycle uses it. -/
def asStore (serve : σ → Call → Reply × σ) : Store σ where
  upsert s slice :=
    let (u, s, _) := (upsert slice).run serve s
    (s, u)
  records := clusterRecords

/-- Each reply in a transcript was given to its call. -/
theorem exists_serve_of_mem_transcript {serve : σ → Call → Reply × σ} {x : Exchange α} {s : σ}
    {e : Call × Reply} (he : e ∈ x.transcript serve s) : ∃ t, e.2 = (serve t e.1).1 := by
  induction x generalizing s with
  | done => cases he
  | ask call next ih =>
    rcases List.mem_cons.mp he with rfl | hrest
    · exact ⟨s, rfl⟩
    · exact ih _ hrest

/-- A slice that can be written out does not derail if all objects have metadata. -/
theorem not_derails {serve : σ → Call → Reply × σ}
    (hserve : ∀ s call object, (serve s call).1 = .ok object → HasMetadata object) {slice : Slice}
    (hslice : slice.isWritable = true) (s : σ) :
    ¬Derails slice ((upsert slice).transcript serve s) := by
  rintro (⟨e, he, object, hobject, hgarbled⟩ | ⟨hlong, -⟩)
  · obtain ⟨t, ht⟩ := exists_serve_of_mem_transcript he
    exact hgarbled (hserve t e.1 object (ht.symm.trans hobject))
  · rw [hslice] at hlong
    cases hlong

end ClusterStore

open ClusterStore in
/-- **The cluster keeps the contract of a store, but for answers without metadata.** Whatever the
cluster answers, be it an object, a status or a failure of the connection, an upsert is an outcome
exactly if its write is answered with an object whose version can be read, and a conflict exactly if
its write is answered with that status. It fails in some other way than stores do exactly if it is
answered with an object whose metadata is none, or if its slice is too long to be written out.

So if all objects have metadata and all slices can be written out, a cycle tries every slice and is
complete. In any case it tries the slices in their order; and if an attempt fails in that other way,
it is the last one, and the cycle ends with it. -/
theorem cluster_keeps_contract {serve : σ → Call → Reply × σ}
    (hserve : ∀ s call, (serve s call).1.IsPlain) :
    (∀ (slice : Slice) (s : σ),
      let transcript := (upsert slice).transcript serve s
      let result := ((upsert slice).run serve s).1.result
      (∀ outcome, result = .ok outcome ↔ ∃ e ∈ transcript, e.1.isWrite = true ∧
        outcomeOfCall e.1 = outcome ∧ ∃ object, e.2 = .ok object ∧ HasMetadata object) ∧
      ((∃ fault, result = .error (.store fault) ∧ fault.isConflict = true) ↔
        ∃ e ∈ transcript, e.1.isWrite = true ∧
          ∃ reason, e.2 = .error (.status (some conflictStatus) reason)) ∧
      ((∃ crash, result = .error (.crash crash)) ↔ Derails slice transcript)) ∧
    ∀ (id : Identity) (duration : Binary64) (p : Progress) (s : σ) (scan : ScanReport)
      (devices : List (String × Device)), scan.result = .devices devices →
      IsKeyedByName devices →
      let report := runCycle (asStore serve) id duration p s scan
      ((∀ s call object, (serve s call).1 = .ok object → HasMetadata object) →
        (∀ slice ∈ slicesInOrder id devices, slice.isWritable = true) →
          report.PublishesEach (asStore serve) id p s devices) ∧
        report.attempts.map (·.slice) <+: slicesInOrder id devices ∧
        ∀ crash, report.ending = .crashed crash →
          ∃ a, report.attempts.getLast? = some a ∧ a.result = .error (.crash crash) := by
  have hplain (slice : Slice) (s : σ) : ∀ e ∈ (upsert slice).transcript serve s, e.2.IsPlain :=
    fun e he => by
      obtain ⟨t, ht⟩ := exists_serve_of_mem_transcript he
      exact ht ▸ hserve t e.1
  refine ⟨fun slice s => ?_, fun id duration p s scan devices hscan hdevices =>
    ⟨fun hmetadata hwritable => ?_, runCycle_prefix hscan _ id duration p s⟩⟩
  · have hcourse := course_of_run serve slice s
    exact ⟨hcourse.outcome_iff, hcourse.conflict_iff (hplain slice s),
      hcourse.crash_iff (hplain slice s)⟩
  · refine runCycle_publishesEach hscan hdevices (fun t slice hslice crash hcrash => ?_) duration p
      s
    exact not_derails hmetadata (hwritable slice hslice) t
      (((course_of_run serve slice t).crash_iff (hplain slice t)).mp ⟨crash, hcrash⟩)

namespace ClusterStore

/-- A cluster that has no objects and answers each write with the given one. -/
def answering (object : Json) : Unit → Call → Reply × Unit
  | _, .get _ => (.error (.status (some absentStatus) (some "Not Found")), ())
  | _, _ => (.ok object, ())

theorem isPlain_answering (fields : List (String × Json)) (s : Unit) (call : Call) :
    (answering (.obj fields) s call).1.IsPlain := by
  cases call <;> exact trivial

end ClusterStore

open ClusterStore in
/-- Two devices are published to a cluster that answers with objects of its own making. -/
theorem cluster_keeps_contract_of_created :
    let id : Identity := ⟨"mock-accel.example.com", "node-1"⟩
    let device (name : String) : Device := ⟨name, "U", 1024, 0, .primary, "0000:11:00.0", 0⟩
    let devices := [("b", device "b"), ("a", device "a")]
    let serve := answering (.obj [("metadata", .obj [("resourceVersion", "1")])])
    (runCycle (asStore serve) id (.ofInt 1) {} () ⟨.devices devices, [], []⟩).PublishesEach
      (asStore serve) id {} () devices := by
  intro id device devices serve
  have hdevices : IsKeyedByName devices := ⟨by simp [devices, device], by simp [devices]⟩
  have hmetadata : ∀ s call object, (serve s call).1 = .ok object → HasMetadata object := by
    rintro s (name | body | ⟨name, body⟩) object hobject
    · cases hobject
    all_goals
      cases hobject
      exact ⟨_, rfl⟩
  have hwritable : ∀ slice ∈ slicesInOrder id devices, slice.isWritable = true := by
    intro slice hslice
    rw [(slicesInOrder_perm id devices).mem_iff] at hslice
    revert slice
    decide +kernel
  exact ((cluster_keeps_contract (isPlain_answering _)).2 id (.ofInt 1) {} ()
    ⟨.devices devices, [], []⟩ devices rfl hdevices).1 hmetadata hwritable

open ClusterStore in
/-- A cluster that answers a create with metadata that is null: the upsert crashes, and the cycle
ends before the second device was tried. -/
theorem cluster_contract_broken_by_null :
    let id : Identity := ⟨"mock-accel.example.com", "node-1"⟩
    let device (name : String) : Device := ⟨name, "U", 1024, 0, .primary, "0000:11:00.0", 0⟩
    let devices := [("a", device "a"), ("b", device "b")]
    let serve := answering (.obj [("metadata", .null)])
    let report := runCycle (asStore serve) id (.ofInt 1) {} () ⟨.devices devices, [], []⟩
    (∀ s call, (serve s call).1.IsPlain) ∧
      ((upsert ((device "a").slice id.driver id.node)).run serve ()).1.result =
        .error (.crash (.noObject .null)) ∧
      report.attempts.length = 1 ∧ report.ending = .crashed (.noObject .null) := by
  intro id device devices serve report
  have hslices : buildSlices id.driver id.node devices =
      devices.map fun e => e.2.slice id.driver id.node := by
    rw [buildSlices, sortByKey, List.mergeSort_of_pairwise (by simp [devices])]
  refine ⟨isPlain_answering _, by decide +kernel, ?_, ?_⟩
  · simp only [report, runCycle, hslices]
    decide +kernel
  · have hcrash : (publish (asStore serve) () (devices.map fun e =>
        e.2.slice id.driver id.node)).2.findSome? (·.crash?) = some (.noObject .null) := by
      decide +kernel
    simp only [report, runCycle, hslices, endOfAttempts, hcrash]

end SliceAgent
