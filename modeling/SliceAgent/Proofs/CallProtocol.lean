import SliceAgent.Proofs.Answers
import SliceAgent.Proofs.DryRun
import SliceAgent.Proofs.Lookup

/-!
# The calls of an upsert

An upsert in the cluster is a protocol of two phases. Its get either tells nothing (`TellsNothing`),
and then this is all that happens, or it tells what there is under the name (`Tells`): no object, or
an object of some version. Only then is something written, in one call whose body is the manifest of
the slice with just that version in its metadata (`sentManifest`).

What the caller is left with is told by the reply to the write. Only a reply that is an object gives
the slice a version that is stored; after any other one it has the version that was read, which
need not be the one that it came with (`upsert_follows_protocol`). A slice with a capacity that is
too long to be written out is not sent at all (`upsert_ended_by_long_capacity`).
-/

namespace SliceAgent

/-! ### Versions in objects -/

/-- The version in the metadata of an object, `null` if it has none. -/
def versionIn (object : Json) : Json :=
  (Json.at? [.field "metadata", .field "resourceVersion"] object).getD .null

namespace ClusterStore

theorem versionOf_eq {object : Json} (h : HasMetadata object) :
    versionOf object = .ok (versionIn object) := by
  obtain ⟨metadata, hmetadata⟩ := h
  rw [versionOf, hmetadata]
  cases object with
  | obj top =>
    have hfield := Except.ok.inj hmetadata
    cases hfound : Json.field? "metadata" top with
    | none =>
      rw [hfound] at hfield
      obtain rfl := Json.obj.inj hfield
      simp [Except.bind, fieldOf, versionIn, Json.at?, Json.step?, hfound]
    | some v =>
      rw [hfound] at hfield
      obtain rfl : v = .obj metadata := hfield
      cases hversion : Json.field? "resourceVersion" metadata <;>
        simp [Except.bind, fieldOf, versionIn, Json.at?, Json.step?, hfound, hversion]
  | _ => cases hmetadata

/-! ### Replies -/

/-- A reply that a call can be given: a status, a failure of the connection, or an object whose
metadata, if it has any, is an object. A get can also be given `null`. -/
inductive IsReplyTo : Call → Reply → Prop
  | status (call : Call) (code : Option Int) (reason : Option String) :
    IsReplyTo call (.error (.status code reason))
  | transport (call : Call) (error : ForeignError) : IsReplyTo call (.error (.transport error))
  | object (call : Call) (object : Json) (h : HasMetadata object) : IsReplyTo call (.ok object)
  | null (name : Json) : IsReplyTo (.get name) (.ok .null)

/-- What the reply to a get tells of the name: that there is no object, or the version of the
object. -/
inductive Tells : Reply → Option Json → Prop
  | absent (reason : Option String) : Tells (.error (.status (some 404) reason)) none
  | null : Tells (.ok .null) none
  | object (object : Json) (h : HasMetadata object) : Tells (.ok object) (some (versionIn object))

/-- A reply to a get that tells nothing of the name. -/
inductive TellsNothing : Reply → Prop
  | status (code : Option Int) (reason : Option String) (h : code ≠ some 404) :
    TellsNothing (.error (.status code reason))
  | transport (error : ForeignError) : TellsNothing (.error (.transport error))

/-- Each reply to a get tells something or nothing. -/
theorem IsReplyTo.tells {name : Json} {reply : Reply} (h : IsReplyTo (.get name) reply) :
    TellsNothing reply ∨ ∃ version?, Tells reply version? := by
  cases h with
  | status _ code reason =>
    by_cases hcode : code = some 404
    · subst hcode
      exact .inr ⟨none, .absent reason⟩
    · exact .inl (.status code reason hcode)
  | transport _ error => exact .inl (.transport error)
  | object _ object h => exact .inr ⟨_, .object object h⟩
  | null => exact .inr ⟨none, .null⟩

theorem IsReplyTo.isPlain {call : Call} {failure : ApiFailure}
    (h : IsReplyTo call (.error failure)) : Reply.IsPlain (.error failure) := by
  cases h <;> exact trivial

theorem IsReplyTo.hasMetadata {call : Call} {object : Json} (h : IsReplyTo call (.ok object))
    (hcall : call.isWrite = true) : HasMetadata object := by
  cases h with
  | object _ _ h => exact h
  | null => cases hcall

theorem Tells.readVersion_eq {reply : Reply} {version? : Option Json} (h : Tells reply version?)
    (name : Json) : readVersion name reply = .ok version? := by
  cases h with
  | absent reason => rfl
  | null => rfl
  | object object h =>
    -- An object with metadata is not null, which would tell that there is none.
    have hfound : found name (.ok object) = .ok (some object) := by
      cases object with
      | null => obtain ⟨_, h⟩ := h; cases h
      | _ => rfl
    rw [readVersion, hfound]
    simp only [Except.bind, versionOf_eq h]
    rfl

theorem TellsNothing.readVersion_eq {reply : Reply} (h : TellsNothing reply) (name : Json) :
    ∃ fault, readVersion name reply = .error (.store fault) ∧ fault.isConflict = false := by
  cases h with
  | status code reason h =>
    refine ⟨.refused .get name code reason, ?_, rfl⟩
    rw [readVersion, found, if_neg (show code ≠ some absentStatus from h)]
    rfl
  | transport error => exact ⟨.unreachable .get name error, rfl, rfl⟩

/-! ### Writes -/

/-- The object that a slice is sent as: its manifest, whose metadata have the version that was read
in place of the one that the slice came with, and none if there is none. -/
def sentManifest (slice : Slice) (version : Json) : Json :=
  .obj
    [("apiVersion", "resource.k8s.io/v1"),
     ("kind", "ResourceSlice"),
     ("metadata", .obj ([("name", slice.name), ("labels", .ofEntries slice.labels)] ++
       if version = .null then [] else [("resourceVersion", version)])),
     ("spec", slice.spec)]

/-- A slice that keeps its version is sent as its manifest. -/
theorem sentManifest_version (slice : Slice) :
    sentManifest slice slice.version = slice.manifest := rfl

/-- The write that follows on what a get told: a create of the slice without a version, or a replace
with the version that was read. -/
def sentCall (slice : Slice) : Option Json → Call
  | none => .create (sentManifest slice .null)
  | some version => .replace slice.name (sentManifest slice version)

theorem sentCall_eq (slice : Slice) (version? : Option Json) :
    sentCall slice version? = writeCall slice version? := by
  cases version? with
  | none => exact congrArg Call.create (sentManifest_version { slice with version := .null })
  | some version =>
    exact congrArg (Call.replace slice.name) (sentManifest_version { slice with version })

theorem isWrite_sentCall (slice : Slice) (version? : Option Json) :
    (sentCall slice version?).isWrite = true := by
  cases version? <;> rfl

/-- The slice as it is sent, with the version that was read. -/
def sentSlice (slice : Slice) (version? : Option Json) : Slice :=
  { slice with version := version?.getD .null }

/-- A slice that is too long to be written out is not sent. -/
theorem proceed_of_not_isWritable {slice : Slice} (hlong : slice.isWritable = false)
    (version? : Option Json) :
    proceed slice version? = .done ⟨sentSlice slice version?, .error (.crash .digitLimit)⟩ := by
  have hnot (version : Json) : ¬({ slice with version } : Slice).isWritable = true := by
    rw [Bool.not_eq_true]
    exact hlong
  cases version? <;> rw [proceed, write, if_neg (hnot _)] <;> rfl

section Write

variable {σ : Type} {serve : σ → Call → Reply × σ} {slice : Slice} {s : σ}

/-- The write of an upsert is one call, whose reply decides on the outcome and on the version that
the slice is left with. -/
theorem run_proceed (hshort : slice.isWritable = true) (version? : Option Json) :
    (proceed slice version?).run serve s =
      (match (serve s (sentCall slice version?)).1 with
        | .error failure =>
          ⟨sentSlice slice version?, .error (failure.storeFault (writeVerb version?) slice.name)⟩
        | .ok object =>
          match versionOf object with
          | .error crash => ⟨sentSlice slice version?, .error (.crash crash)⟩
          | .ok version => ⟨{ slice with version }, .ok (writeOutcome version?)⟩,
        (serve s (sentCall slice version?)).2, [sentCall slice version?]) := by
  have hwritable (version : Json) : ({ slice with version } : Slice).isWritable = true := hshort
  rw [sentCall_eq]
  cases version? <;> rw [proceed, write, if_pos (hwritable _)] <;> rfl

/-- An object is stored. -/
theorem proceed_of_ok (hshort : slice.isWritable = true) {version? : Option Json} {object : Json}
    (hreply : IsReplyTo (sentCall slice version?) (.ok object))
    (hserve : (serve s (sentCall slice version?)).1 = .ok object) :
    ((proceed slice version?).run serve s).1 =
      ⟨{ slice with version := versionIn object }, .ok (writeOutcome version?)⟩ := by
  have hversion : versionOf object = .ok (versionIn object) :=
    versionOf_eq (hreply.hasMetadata (isWrite_sentCall slice version?))
  rw [run_proceed hshort, hserve]
  simp only [hversion]

/-- A write that fails does so as a store does, with a conflict just for that status, and leaves the
slice as it was sent. -/
theorem proceed_of_error (hshort : slice.isWritable = true) {version? : Option Json}
    {failure : ApiFailure} (hreply : IsReplyTo (sentCall slice version?) (.error failure))
    (hserve : (serve s (sentCall slice version?)).1 = .error failure) :
    ∃ fault, ((proceed slice version?).run serve s).1 =
        ⟨sentSlice slice version?, .error (.store fault)⟩ ∧
      (fault.isConflict = true ↔ ∃ reason, failure = .status (some 409) reason) := by
  obtain ⟨fault, hfault, hconflict⟩ := storeFault_write hreply.isPlain version? slice.name
  refine ⟨fault, ?_, hconflict⟩
  rw [run_proceed hshort, hserve]
  simp only [hfault]

end Write

/-! ### Both calls -/

section Upsert

variable {σ : Type} {serve : σ → Call → Reply × σ} {slice : Slice} {s : σ}

/-- An upsert whose get tells nothing fails, and the slice stays as it was. -/
theorem run_upsert_of_tellsNothing (h : TellsNothing (serve s (.get slice.name)).1) :
    ∃ fault, fault.isConflict = false ∧ (upsert slice).run serve s =
      (⟨slice, .error (.store fault)⟩, (serve s (.get slice.name)).2, [.get slice.name]) := by
  obtain ⟨fault, hread, hconflict⟩ := h.readVersion_eq slice.name
  refine ⟨fault, hconflict, ?_⟩
  rw [upsert_eq_proceed, Exchange.run]
  simp only [hread]
  rfl

/-- The run of an upsert whose get tells something is that get and the run of the rest. -/
theorem run_upsert_of_tells {version? : Option Json}
    (h : Tells (serve s (.get slice.name)).1 version?) :
    let rest := (proceed slice version?).run serve (serve s (.get slice.name)).2
    (upsert slice).run serve s = (rest.1, rest.2.1, .get slice.name :: rest.2.2) := by
  rw [upsert_eq_proceed, Exchange.run]
  simp only [h.readVersion_eq slice.name]

theorem run_upsert_of_not_isWritable {version? : Option Json}
    (h : Tells (serve s (.get slice.name)).1 version?) (hlong : slice.isWritable = false) :
    (upsert slice).run serve s =
      (⟨sentSlice slice version?, .error (.crash .digitLimit)⟩, (serve s (.get slice.name)).2,
        [.get slice.name]) := by
  rw [run_upsert_of_tells h, proceed_of_not_isWritable hlong]
  rfl

/-- An upsert whose get tells something makes one write more. -/
theorem run_upsert_of_isWritable {version? : Option Json}
    (h : Tells (serve s (.get slice.name)).1 version?) (hshort : slice.isWritable = true) :
    let t := (serve s (.get slice.name)).2
    (upsert slice).run serve s =
      (((proceed slice version?).run serve t).1, (serve t (sentCall slice version?)).2,
        [.get slice.name, sentCall slice version?]) := by
  simp only [run_upsert_of_tells h, run_proceed hshort]

end Upsert

end ClusterStore

open ClusterStore in
/-- **An upsert follows its protocol.** Whatever the replies to its calls are, each a status, a
failure of the connection or an object with or without metadata, an upsert makes one get and at most
one write.

If the get tells nothing, the upsert fails as a store does, without a conflict, and leaves the slice
as it was. If it tells that there is no object, the upsert sends one create of the manifest without
a version, and else one replace of the manifest with the version that was read; only a slice that is
too long to be written out is not sent, and then the upsert crashes. The object is created or
updated exactly if the reply to the write is an object, and then the slice has the version in it.
The status 409 is a conflict and every other failure none, and after each the slice has the version
that was sent. -/
theorem upsert_follows_protocol {σ : Type} (serve : σ → Call → Reply × σ) (slice : Slice) (s : σ)
    (hget : IsReplyTo (.get slice.name) (serve s (.get slice.name)).1)
    (hwrite : ∀ call, call.isWrite = true →
      IsReplyTo call (serve (serve s (.get slice.name)).2 call).1) :
    let reply := (serve s (.get slice.name)).1
    let t := (serve s (.get slice.name)).2
    let run := (upsert slice).run serve s
    sentManifest slice slice.version = slice.manifest ∧
    (run.2.2 = [.get slice.name] ∨
      ∃ call, call.isWrite = true ∧ run.2.2 = [.get slice.name, call]) ∧
    (TellsNothing reply ∨ ∃ version?, Tells reply version?) ∧
    (TellsNothing reply → ∃ fault, fault.isConflict = false ∧
      run = (⟨slice, .error (.store fault)⟩, t, [.get slice.name])) ∧
    ∀ version?, Tells reply version? →
      let call := sentCall slice version?
      let sent := sentSlice slice version?
      (slice.isWritable = false →
        run = (⟨sent, .error (.crash .digitLimit)⟩, t, [.get slice.name])) ∧
      (slice.isWritable = true →
        run.2 = ((serve t call).2, [.get slice.name, call]) ∧
        (∀ object, (serve t call).1 = .ok object →
          run.1 = ⟨{ slice with version := versionIn object }, .ok (writeOutcome version?)⟩) ∧
        ∀ failure, (serve t call).1 = .error failure → ∃ fault,
          run.1 = ⟨sent, .error (.store fault)⟩ ∧
          (fault.isConflict = true ↔ ∃ reason, failure = .status (some 409) reason)) := by
  intro reply t run
  refine ⟨sentManifest_version slice, ?_, hget.tells, run_upsert_of_tellsNothing,
    fun version? h => ⟨run_upsert_of_not_isWritable h, fun hshort => ?_⟩⟩
  · rcases hget.tells with h | ⟨version?, h⟩
    · obtain ⟨fault, -, hrun⟩ := run_upsert_of_tellsNothing h
      exact .inl (by rw [show run = _ from hrun])
    · cases hwritable : slice.isWritable with
      | false => exact .inl (by rw [show run = _ from run_upsert_of_not_isWritable h hwritable])
      | true =>
        exact .inr ⟨sentCall slice version?, isWrite_sentCall slice version?,
          by rw [show run = _ from run_upsert_of_isWritable h hwritable]⟩
  · have hrun : run = _ := run_upsert_of_isWritable h hshort
    have hanswer := hwrite (sentCall slice version?) (isWrite_sentCall slice version?)
    rw [hrun]
    exact ⟨rfl, fun object hobject => proceed_of_ok hshort (hobject ▸ hanswer) hobject,
      fun failure hfailure => proceed_of_error hshort (hfailure ▸ hanswer) hfailure⟩

namespace ClusterStore

/-- A cluster that gives the replies of a script one after another, and then a status. -/
def scripted : List Reply → Call → Reply × List Reply
  | [], _ => (.error (.status (some 500) none), [])
  | reply :: rest, _ => (reply, rest)

end ClusterStore

open ClusterStore in
/-- A slice that comes with one version is replaced with the version that its get tells, and keeps
that one when the replace is a conflict. -/
theorem upsert_follows_protocol_of_conflict :
    let slice : Slice := ⟨"a", "driver", "node", ⟨"a", .int 1, .int 1⟩, [], [], "7"⟩
    let script : List Reply :=
      [.ok (.obj [("metadata", .obj [("resourceVersion", "8")])]),
        .error (.status (some 409) (some "Conflict"))]
    let run := (upsert slice).run scripted script
    run.1.slice = { slice with version := "8" } ∧
      (∃ fault, run.1.result = .error (.store fault) ∧ fault.isConflict = true) ∧
      run.2 = ([], [.get "a", .replace "a" { slice with version := "8" }.manifest]) := by
  intro slice script run
  have hmetadata : HasMetadata (.obj [("metadata", .obj [("resourceVersion", "8")])]) := ⟨_, rfl⟩
  obtain ⟨-, -, -, -, hsent⟩ :=
    upsert_follows_protocol scripted slice script (.object _ _ hmetadata)
      fun call _ => .status call (some 409) (some "Conflict")
  obtain ⟨hcalls, -, hfailure⟩ := (hsent _ (.object _ hmetadata)).2 rfl
  obtain ⟨fault, hrun, hconflict⟩ := hfailure _ rfl
  refine ⟨congrArg Upserted.slice hrun, ⟨fault, congrArg Upserted.result hrun,
    hconflict.mpr ⟨_, rfl⟩⟩, ?_⟩
  rw [sentCall_eq] at hcalls
  exact hcalls

open ClusterStore in
/-- A slice that was read from an object with a capacity of 5001 digits is not created, though there
is none of its name and a create would be answered with an object: the upsert makes its get only and
crashes. -/
theorem upsert_ended_by_long_capacity :
    let stored : Json := .obj
      [("metadata", .obj [("name", "a")]),
       ("spec", .obj [("devices", .arr [.obj [("name", "d"),
         ("capacity", .obj [("memory", .obj [("value", "1e5000")])])]])])]
    let slice : Slice := ⟨"a", "", "", ⟨"", .int 0, .int 1⟩,
      [⟨"d", [], [("memory", { value := 10 ^ 5000 })]⟩], [], .null⟩
    let script : List Reply :=
      [.error (.status (some 404) (some "Not Found")),
        .ok (.obj [("metadata", .obj [("resourceVersion", "1")])])]
    Slice.ofManifest stored = .ok slice ∧
      ∃ rest, (upsert slice).run scripted script =
        (⟨slice, .error (.crash .digitLimit)⟩, rest, [.get "a"]) := by
  intro stored slice script
  have hread : Slice.ofManifest stored = .ok slice := by decide +kernel
  have hlong : slice.isWritable = false := by decide +kernel
  have habsent : Tells (scripted script (.get slice.name)).1 none := .absent (some "Not Found")
  exact ⟨hread, _, run_upsert_of_not_isWritable habsent hlong⟩

end SliceAgent
