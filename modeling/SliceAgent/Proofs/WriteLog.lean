import SliceAgent.Proofs.Contents
import Mathlib.Data.List.Basic

/-!
# The store in memory as a log of writes

Whatever its callers do, the store in memory says no more than a log of the writes that took place.
A get finds the slice of the last write of its name, an upsert is judged by that slice alone, and
the version that it writes is the number of upserts in the log, this one included.

Callers hold slices of their own, which they make and change as they like between their calls, and
an upsert that succeeds changes the version of its caller's slice in place. A `Session` is the store
with its callers, a `Ledger` the log with the same callers. What relates the two is
`MemoryStore.IsToldBy`: one write keeps it (`IsToldBy.insert`), so one action does and has the same
answer from both (`act_spec`), and so do all actions one after another (`store_is_told_by_log`).
-/

namespace SliceAgent

/-! ### Logs of writes -/

/-- A write that took place: the slice as it was stored, and whether an upsert stored it. -/
structure LoggedWrite where
  slice : Slice
  counted : Bool

/-- The writes that took place, the last one at the end. -/
abbrev WriteLog := List LoggedWrite

namespace WriteLog

/-- The slice that was last written under a name. -/
def latest? (log : WriteLog) (name : Json) : Option Slice :=
  (log.reverse.find? fun w => w.slice.name.same name).map (·.slice)

/-- The number of upserts that succeeded. -/
def successes (log : WriteLog) : Nat :=
  log.countP (·.counted)

/-- How an upsert of a slice ends after some writes. -/
def judge (log : WriteLog) (slice : Slice) : Except UpsertFault UpsertOutcome :=
  if !slice.name.isKey then .error (.crash (.noName slice.name))
  else match log.latest? slice.name with
    | none => .ok .created
    | some last =>
      if slice.version = .null ∨ slice.version.same last.version = true then .ok .updated
      else .error (.store (.stale slice.name last.version slice.version))

theorem latest?_concat (log : WriteLog) (w : LoggedWrite) (name : Json) :
    latest? (log ++ [w]) name =
      if w.slice.name.same name then some w.slice else log.latest? name := by
  rw [latest?, List.reverse_concat, List.find?_cons]
  cases w.slice.name.same name <;> rfl

theorem successes_concat (log : WriteLog) (w : LoggedWrite) :
    successes (log ++ [w]) = log.successes + if w.counted then 1 else 0 := by
  rw [successes, List.countP_append, List.countP_singleton, successes]

theorem isSome_latest?_iff {log : WriteLog} {name : Json} :
    (log.latest? name).isSome = true ↔ ∃ w ∈ log, w.slice.name.same name = true := by
  simp [latest?, List.find?_isSome]

end WriteLog

/-! ### Callers -/

/-- What a caller does, with a slice of its own if one is needed. -/
inductive CallerAction where
  /-- It makes another slice of it, in whatever way. -/
  | change (own : Nat) (slice : Slice)
  | get (name : Json)
  | upsert (own : Nat)
  | put (own : Nat)

/-- What a caller is told. -/
inductive CallerAnswer where
  | nothing
  | fetched (result : Except Crash (Option Slice))
  | upserted (result : Except UpsertFault UpsertOutcome)
  | put (result : Except Crash Unit)

/-- The actions of all callers, in their order. -/
def actAll {σ : Type} (act : σ → CallerAction → CallerAnswer × σ) :
    σ → List CallerAction → List CallerAnswer × σ
  | s, [] => ([], s)
  | s, action :: rest =>
    let (answer, s) := act s action
    let (answers, s) := actAll act s rest
    (answer :: answers, s)

/-- The store in memory, and the slices that are its callers' own. -/
structure Session where
  store : MemoryStore
  own : Nat → Slice

/-- One action of a caller of the store. An upsert leaves its slice as the store does. -/
def Session.act (session : Session) : CallerAction → CallerAnswer × Session
  | .change i slice => (.nothing, { session with own := Function.update session.own i slice })
  | .get name => (.fetched (session.store.get name), session)
  | .upsert i =>
    let (store, u) := session.store.upsert (session.own i)
    (.upserted u.result, ⟨store, Function.update session.own i u.slice⟩)
  | .put i =>
    match session.store.put (session.own i) with
    | .ok store => (.put (.ok ()), { session with store })
    | .error crash => (.put (.error crash), session)

/-- A log of writes, and the slices that are its callers' own. -/
structure Ledger where
  log : WriteLog
  own : Nat → Slice

namespace Ledger

/-- The slice of a caller with the version that its upsert writes if it succeeds. -/
def numbered (ledger : Ledger) (i : Nat) : Slice :=
  { ledger.own i with version := .text (toString (ledger.log.successes + 1)) }

/-- One action of a caller, told from the log. -/
def act (ledger : Ledger) : CallerAction → CallerAnswer × Ledger
  | .change i slice => (.nothing, { ledger with own := Function.update ledger.own i slice })
  | .get name =>
    (.fetched (if name.isKey then .ok (ledger.log.latest? name) else .error (.noName name)), ledger)
  | .upsert i =>
    match ledger.log.judge (ledger.own i) with
    | .ok outcome => (.upserted (.ok outcome),
        ⟨ledger.log ++ [⟨ledger.numbered i, true⟩],
          Function.update ledger.own i (ledger.numbered i)⟩)
    | .error fault => (.upserted (.error fault), ledger)
  | .put i =>
    if (ledger.own i).name.isKey then
      (.put (.ok ()), { ledger with log := ledger.log ++ [⟨ledger.own i, false⟩] })
    else (.put (.error (.noName (ledger.own i).name)), ledger)

end Ledger

/-! ### What the log tells of the store -/

namespace MemoryStore

/-- What a log tells of a store that it is the log of. -/
structure IsToldBy (store : MemoryStore) (log : WriteLog) : Prop where
  /-- What is found under a name is the slice of the last write to it. -/
  find : ∀ name, store.find? name = log.latest? name
  /-- The upserts that succeeded are counted, and nothing else is. -/
  writes : store.writes = log.successes
  /-- No name is there twice. -/
  distinct : store.names.Pairwise fun a b => a.same b = false
  /-- Each slice is under its own name. -/
  own_name : ∀ e ∈ store.slices, e.1.same e.2.name = true

variable {store : MemoryStore} {slice : Slice} {log : WriteLog}

theorem isToldBy_empty : IsToldBy {} [] :=
  ⟨fun _ => rfl, rfl, .nil, by simp⟩

theorem isSome_find?_iff {name : Json} :
    (store.find? name).isSome = true ↔ ∃ n ∈ store.names, n.same name = true := by
  simp [find?, names, List.find?_isSome]

/-- Putting a slice under its name adds no name that counts as one that is there. -/
theorem distinct_insert {name : Json} {slices : List (Json × Slice)}
    (h : (slices.map (·.1)).Pairwise fun a b => a.same b = false) :
    ((insert name slice slices).map (·.1)).Pairwise fun a b => a.same b = false := by
  rw [keys_insert]
  split
  · exact h
  · rename_i hnew
    refine List.pairwise_append.mpr ⟨h, List.pairwise_singleton _ _, fun a ha b hb => ?_⟩
    rw [List.mem_singleton.mp hb]
    simp only [List.any_eq_true, not_exists, not_and, Bool.not_eq_true] at hnew
    exact hnew a ha

/-- Putting a slice under its name leaves each slice under its own. -/
theorem own_name_insert {slices : List (Json × Slice)}
    (h : ∀ e ∈ slices, e.1.same e.2.name = true) :
    ∀ e ∈ insert slice.name slice slices, e.1.same e.2.name = true := by
  induction slices with
  | nil => simp [insert]
  | cons e rest ih =>
    rw [List.forall_mem_cons] at h
    rw [insert]
    split
    · rename_i hsame
      exact List.forall_mem_cons.mpr ⟨hsame, h.2⟩
    · exact List.forall_mem_cons.mpr ⟨h.1, ih h.2⟩

/-- **One write.** A slice that is put under its name, and counted if an upsert does it, is one
write more in the log. -/
theorem IsToldBy.insert (h : store.IsToldBy log) (slice : Slice) (counted : Bool) :
    IsToldBy ⟨insert slice.name slice store.slices, store.writes + if counted then 1 else 0⟩
      (log ++ [⟨slice, counted⟩]) where
  find name := by
    rw [find?_insert _ _ _ _ _ store.writes, WriteLog.latest?_concat, ← h.find]
  writes := by rw [WriteLog.successes_concat, h.writes]
  distinct := distinct_insert h.distinct
  own_name := own_name_insert h.own_name

/-- The write of an upsert is one of the slice with the next version. -/
theorem IsToldBy.write (h : store.IsToldBy log) (slice : Slice) :
    let numbered := { slice with version := .text (toString (log.successes + 1)) }
    (store.write slice).2 = numbered ∧
      (store.write slice).1.IsToldBy (log ++ [⟨numbered, true⟩]) := by
  rw [← h.writes]
  exact ⟨rfl, h.insert { slice with version := .text (toString (store.writes + 1)) } true⟩

/-- **One upsert** ends as the log judges: it writes the slice with the next version, or it leaves
the store and the slice as they were. -/
theorem IsToldBy.upsert (h : store.IsToldBy log) (slice : Slice) :
    store.upsert slice = match log.judge slice with
      | .ok outcome => ((store.write slice).1, ⟨(store.write slice).2, .ok outcome⟩)
      | .error fault => (store, ⟨slice, .error fault⟩) := by
  rw [WriteLog.judge, ← h.find]
  cases hkey : slice.name.isKey with
  | false => simp [MemoryStore.upsert, hkey]
  | true =>
    cases hfound : store.find? slice.name with
    | none => simp [upsert_of_absent hkey hfound]
    | some stored =>
      cases haccepts : accepts slice stored with
      | true =>
        have hcurrent : slice.version = .null ∨ slice.version.same stored.version = true := by
          simpa [accepts] using haccepts
        simp [upsert_of_accepts hkey hfound haccepts, hcurrent]
      | false =>
        have hstale : ¬(slice.version = .null ∨ slice.version.same stored.version = true) := by
          simpa [accepts] using haccepts
        simp [upsert_of_not_accepts hkey hfound haccepts, hstale]

end MemoryStore

namespace Session

/-- A session agrees with a ledger: the log tells what the store holds, and their callers have the
same slices. -/
structure Agrees (session : Session) (ledger : Ledger) : Prop where
  told : session.store.IsToldBy ledger.log
  own : session.own = ledger.own

variable {session : Session} {ledger : Ledger}

/-- **One action** has the same answer from both, which agree after it too. -/
theorem Agrees.act (h : session.Agrees ledger) (action : CallerAction) :
    (session.act action).1 = (ledger.act action).1 ∧
      (session.act action).2.Agrees (ledger.act action).2 := by
  cases action with
  | change i slice => exact ⟨rfl, h.told, by simp only [Session.act, Ledger.act, h.own]⟩
  | get name =>
    refine ⟨?_, h⟩
    simp only [Session.act, Ledger.act, MemoryStore.get, h.told.find]
  | upsert i =>
    obtain ⟨hslice, htold⟩ := h.told.write (ledger.own i)
    simp only [Session.act, Ledger.act, h.own, h.told.upsert]
    cases ledger.log.judge (ledger.own i) with
    | ok outcome => exact ⟨rfl, htold, by simp only [hslice, Ledger.numbered]⟩
    | error fault => exact ⟨rfl, h.told, by simp⟩
  | put i =>
    simp only [Session.act, Ledger.act, h.own, MemoryStore.put]
    cases (ledger.own i).name.isKey with
    | true => exact ⟨rfl, h.told.insert (ledger.own i) false, rfl⟩
    | false => exact ⟨rfl, h⟩

/-- What the next upsert of a slice does: it is answered as the log judges, and either the slice
gets the next number, with its caller and in the store, or nothing changes at all. -/
structure UpsertsAsJudged (session : Session) (ledger : Ledger) (i : Nat) : Prop where
  answer : (session.act (.upsert i)).1 = .upserted (ledger.log.judge (session.own i))
  written : ∀ outcome, ledger.log.judge (session.own i) = .ok outcome →
    (session.act (.upsert i)).2.own = Function.update session.own i (ledger.numbered i) ∧
      (session.act (.upsert i)).2.store.find? (session.own i).name = some (ledger.numbered i)
  refused : ∀ fault, ledger.log.judge (session.own i) = .error fault →
    (session.act (.upsert i)).2 = session

theorem Agrees.upsertsAsJudged (h : session.Agrees ledger) (i : Nat) :
    session.UpsertsAsJudged ledger i := by
  obtain ⟨hwritten, -⟩ := h.told.write (session.own i)
  have hslice : (session.store.write (session.own i)).2 = ledger.numbered i := by
    rw [hwritten, Ledger.numbered, h.own]
  constructor
  all_goals simp only [Session.act, h.told.upsert]
  · cases ledger.log.judge (session.own i) <;> rfl
  · intro outcome hjudge
    simp only [hjudge, hslice, MemoryStore.find?_write, Json.same_self, if_true, and_self]
  · intro fault hjudge
    simp only [hjudge, Function.update_eq_self]

/-- **All actions**, one after another. -/
theorem Agrees.actAll (h : session.Agrees ledger) (actions : List CallerAction) :
    (actAll Session.act session actions).1 = (actAll Ledger.act ledger actions).1 ∧
      (actAll Session.act session actions).2.Agrees (actAll Ledger.act ledger actions).2 := by
  induction actions generalizing session ledger with
  | nil => exact ⟨rfl, h⟩
  | cons action rest ih =>
    obtain ⟨hanswer, hagrees⟩ := h.act action
    obtain ⟨hanswers, hrest⟩ := ih hagrees
    exact ⟨congrArg₂ List.cons hanswer hanswers, hrest⟩

end Session

/-! ### Versions in the log -/

namespace WriteLog

/-- The upserts in a log wrote the numbers from one on as their versions. -/
def IsNumbered (log : WriteLog) : Prop :=
  (log.filter (·.counted)).map (·.slice.version) =
    (List.range log.successes).map fun i => .text (toString (i + 1))

end WriteLog

namespace Ledger

variable {ledger : Ledger}

theorem isNumbered_act (h : ledger.log.IsNumbered) (action : CallerAction) :
    (ledger.act action).2.log.IsNumbered := by
  cases action with
  | change i slice => exact h
  | get name => exact h
  | upsert i =>
    rw [act]
    split
    · simp only [WriteLog.IsNumbered] at h ⊢
      simp only [WriteLog.successes_concat, if_true, List.filter_append, List.map_append, h,
        List.range_succ]
      rfl
    · exact h
  | put i =>
    rw [act]
    split
    · simpa [WriteLog.IsNumbered, WriteLog.successes_concat] using h
    · exact h

theorem isNumbered_actAll (h : ledger.log.IsNumbered) (actions : List CallerAction) :
    (actAll act ledger actions).2.log.IsNumbered := by
  induction actions generalizing ledger with
  | nil => exact h
  | cons action rest ih => exact ih (isNumbered_act h action)

end Ledger

/-! ### Sorted names -/

/-- The code points of a name that is a text, in order. -/
def codesOf (name : Json) : List Nat :=
  (codes? name).getD []

/-- A name that is a text. -/
def Json.IsText (name : Json) : Prop :=
  (codes? name).isSome = true

instance (name : Json) : Decidable name.IsText :=
  inferInstanceAs (Decidable (_ = true))

/-- Only a text counts as the same as that text. -/
theorem Json.IsText.same_iff {a b : Json} (h : b.IsText) : a.same b = true ↔ a = b := by
  cases b with
  | text s => exact same_text_iff
  | torn t =>
    rw [Json.same_iff, normal]
    constructor
    · intro hsame
      cases a with
      | torn t' => rwa [normal] at hsame
      | float x =>
        rw [normal] at hsame
        split at hsame <;> cases hsame
      | _ => rw [normal] at hsame; cases hsame
    · rintro rfl
      rw [normal]
  | _ => cases h

/-- Codes come before others as words of a dictionary do. -/
theorem codesLe_iff {s t : List Nat} : codesLe s t = true ↔ ¬List.Lex (· < ·) t s := by
  induction s generalizing t with
  | nil => simp [codesLe]
  | cons m s ih =>
    cases t with
    | nil => simp [codesLe]
    | cons n t =>
      rw [codesLe, Bool.or_eq_true, Bool.and_eq_true, ih, List.cons_lex_cons_iff]
      rcases Nat.lt_trichotomy m n with hmn | rfl | hnm
      · simp [hmn, Nat.ne_of_gt hmn, Nat.le_of_lt hmn]
      · simp
      · simp [hnm, Nat.ne_of_gt hnm, Nat.le_of_lt hnm]

theorem codesLe_trans {s t u : List Nat} (hst : codesLe s t = true) (htu : codesLe t u = true) :
    codesLe s u = true :=
  codesLe_iff.mpr (List.le_trans (codesLe_iff.mp hst) (codesLe_iff.mp htu))

theorem codesLe_total (s t : List Nat) : (codesLe s t || codesLe t s) = true := by
  rw [Bool.or_eq_true, codesLe_iff, codesLe_iff]
  exact List.le_total s t

/-- Names that are texts can be sorted, by their codes. -/
theorem sortNames?_of_isText {names : List Json} (h : ∀ n ∈ names, n.IsText) :
    ∃ sorted, sortNames? names = some sorted ∧ sorted.Perm names ∧
      sorted.Pairwise fun a b => ¬List.Lex (· < ·) (codesOf b) (codesOf a) := by
  let key (n : Json) : List Nat × Json := (codesOf n, n)
  have hkeys : names.mapM (fun n => (codes? n).map (·, n)) = some (names.map key) := by
    induction names with
    | nil => rfl
    | cons n rest ih =>
      obtain ⟨hn, hrest⟩ := List.forall_mem_cons.mp h
      obtain ⟨codes, hcodes⟩ := Option.isSome_iff_exists.mp hn
      rw [List.mapM_cons, ih hrest, hcodes]
      simp [key, codesOf, hcodes]
  have hsorted : ((names.map key).mergeSort fun a b => codesLe a.1 b.1).map (·.2) =
      names.mergeSort fun a b => codesLe (codesOf a) (codesOf b) := by
    rw [← List.map_mergeSort (r := fun a b => codesLe (codesOf a) (codesOf b)) (f := key),
      List.map_map]
    · exact List.map_id _
    · exact fun _ _ _ _ => rfl
  have hascending : (names.mergeSort fun a b => codesLe (codesOf a) (codesOf b)).Pairwise
      fun a b => codesLe (codesOf a) (codesOf b) = true := by
    refine List.pairwise_mergeSort ?_ ?_ names
    · exact fun _ _ _ hab hbc => codesLe_trans hab hbc
    · exact fun a b => codesLe_total (codesOf a) (codesOf b)
  refine ⟨_, ?_, List.mergeSort_perm names _, hascending.imp codesLe_iff.mp⟩
  rw [sortNames?]
  simp only [hkeys, hsorted]
  split
  · rename_i hlength
    match names, hlength with
    | [], _ => simp
    | [n], _ => simp
  · rfl

namespace MemoryStore

variable {store : MemoryStore} {log : WriteLog}

/-- If all names are texts, the store has just those that were written. -/
theorem IsToldBy.mem_names_iff (h : store.IsToldBy log) (htext : ∀ w ∈ log, w.slice.name.IsText)
    {n : Json} : n ∈ store.names ↔ ∃ w ∈ log, w.slice.name = n := by
  constructor
  · intro hn
    have hfound : (store.find? n).isSome = true := isSome_find?_iff.mpr ⟨n, hn, Json.same_self n⟩
    rw [h.find, WriteLog.isSome_latest?_iff] at hfound
    obtain ⟨w, hw, hsame⟩ := hfound
    exact ⟨w, hw, ((htext w hw).same_iff.mp (Json.same_symm hsame)).symm⟩
  · rintro ⟨w, hw, rfl⟩
    have hlatest : (log.latest? w.slice.name).isSome = true :=
      WriteLog.isSome_latest?_iff.mpr ⟨w, hw, Json.same_self _⟩
    rw [← h.find, isSome_find?_iff] at hlatest
    obtain ⟨n, hn, hsame⟩ := hlatest
    rwa [← (htext w hw).same_iff.mp hsame]

/-- The names of a store, sorted: each one that was written, once. -/
structure ListsNames (store : MemoryStore) (log : WriteLog) (sorted : List Json) : Prop where
  sorted_eq : sortNames? store.names = some sorted
  size_eq : store.size = sorted.length
  mem_iff : ∀ n, n ∈ sorted ↔ ∃ w ∈ log, w.slice.name = n
  nodup : sorted.Nodup
  ascending : sorted.Pairwise fun a b => ¬List.Lex (· < ·) (codesOf b) (codesOf a)

theorem IsToldBy.exists_listsNames (h : store.IsToldBy log)
    (htext : ∀ w ∈ log, w.slice.name.IsText) : ∃ sorted, store.ListsNames log sorted := by
  have hnames : ∀ n ∈ store.names, n.IsText := fun n hn => by
    obtain ⟨w, hw, rfl⟩ := (h.mem_names_iff htext).mp hn
    exact htext w hw
  have hnodup : store.names.Nodup := h.distinct.imp fun {a b} hdistinct hab => by
    rw [hab, Json.same_self] at hdistinct
    cases hdistinct
  obtain ⟨sorted, hsorted, hperm, hascending⟩ := sortNames?_of_isText hnames
  exact ⟨sorted, hsorted, by rw [hperm.length_eq, names, List.length_map, size],
    fun n => hperm.mem_iff.trans (h.mem_names_iff htext), hperm.nodup_iff.mpr hnodup, hascending⟩

end MemoryStore

/-! ### Sessions -/

/-- **The store in memory refines a log of writes.** After any actions of any callers, all answers
were those that the log gives, and the callers' slices are as the log leaves them. So a get finds
what was last written, each slice is under its own name, and the upserts that succeeded wrote the
numbers from one on. The next upsert of any slice ends as the log judges: either the next number
becomes the version of the slice, with its caller and in the store, or nothing changes at all. And
the store lists the names that were ever written. -/
theorem store_is_told_by_log (own : Nat → Slice) (actions : List CallerAction) :
    let answers := (actAll Session.act ⟨{}, own⟩ actions).1
    let session := (actAll Session.act ⟨{}, own⟩ actions).2
    let ledger := (actAll Ledger.act ⟨[], own⟩ actions).2
    (answers = (actAll Ledger.act ⟨[], own⟩ actions).1 ∧ session.own = ledger.own) ∧
      session.store.IsToldBy ledger.log ∧ ledger.log.IsNumbered ∧
      (∀ i, session.UpsertsAsJudged ledger i) ∧
      ((∀ w ∈ ledger.log, w.slice.name.IsText) →
        ∃ sorted, session.store.ListsNames ledger.log sorted) := by
  intro answers session ledger
  have hempty : Session.Agrees ⟨{}, own⟩ ⟨[], own⟩ := ⟨MemoryStore.isToldBy_empty, rfl⟩
  have hnumbered : (Ledger.log ⟨[], own⟩).IsNumbered := rfl
  obtain ⟨hanswers, hagrees⟩ := hempty.actAll actions
  exact ⟨⟨hanswers, hagrees.own⟩, hagrees.told, Ledger.isNumbered_actAll hnumbered actions,
    hagrees.upsertsAsJudged, hagrees.told.exists_listsNames⟩

/-- One caller stores a slice, another one changes it, and then the first is refused. -/
theorem store_is_told_by_log_two_callers :
    let slice : Slice := ⟨"a", "driver", "node", ⟨"a", .int 1, .int 1⟩, [], [], .null⟩
    let own (i : Nat) : Slice := if i = 0 then slice else { slice with name := "b" }
    let actions : List CallerAction :=
      [.upsert 0, .change 2 { slice with version := "1" }, .upsert 2, .put 1]
    let session := (actAll Session.act ⟨{}, own⟩ actions).2
    let ledger := (actAll Ledger.act ⟨[], own⟩ actions).2
    ledger.log.judge (session.own 0) = .error (.store (.stale "a" "2" "1")) ∧
      (session.act (.upsert 0)).2 = session ∧
      ∃ sorted, session.store.ListsNames ledger.log sorted := by
  intro slice own actions session ledger
  obtain ⟨-, -, -, hupserts, hnames⟩ := store_is_told_by_log own actions
  have hjudge : ledger.log.judge (session.own 0) = .error (.store (.stale "a" "2" "1")) := by
    decide +kernel
  have htext : ∀ w ∈ ledger.log, w.slice.name.IsText := by
    decide +kernel
  exact ⟨hjudge, (hupserts 0).refused _ hjudge, hnames htext⟩

end SliceAgent
