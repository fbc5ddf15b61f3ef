import SliceAgent.Store.Memory

/-!
# Versions in the store in memory

The store in memory gives every write that succeeds a number of its own, counted over all names, and
that number is the version of the slice from then on. So two versions are equal only if they come
from one write, and a slice that carries the version it was handed out with is accepted exactly as
long as nobody has written its name since (`no_lost_update`).

A history is a list of `Request`s: the calls of all clients in the order in which the store served
them, so that a statement about every history is one about every number of clients and every order
of their calls. Only `put`, which stores versions that the store did not give, is left out.
-/

namespace SliceAgent

namespace Json

/-! ### Values that count as the same -/

theorem same_iff {a b : Json} : a.same b = true ↔ a.normal = b.normal := by
  rw [same, decide_eq_true_eq]

@[simp]
theorem same_self (a : Json) : a.same a = true :=
  same_iff.mpr rfl

theorem same_symm {a b : Json} (h : a.same b = true) : b.same a = true :=
  same_iff.mpr (same_iff.mp h).symm

theorem same_trans {a b c : Json} (h : a.same b = true) (h' : b.same c = true) :
    a.same c = true :=
  same_iff.mpr ((same_iff.mp h).trans (same_iff.mp h'))

/-- Of values that count as the same, all can be compared with a further one alike. -/
theorem same_congr {a b : Json} (h : a.same b = true) (c : Json) : c.same a = c.same b := by
  rw [same, same, same_iff.mp h]

theorem isKey_normal (a : Json) : a.normal.isKey = a.isKey := by
  cases a with
  | float x =>
    rw [normal]
    split <;> rfl
  | _ => rw [normal] <;> rfl

/-- Of values that count as the same, all can serve as a name or none. -/
theorem isKey_congr {a b : Json} (h : a.same b = true) : a.isKey = b.isKey := by
  rw [← isKey_normal a, same_iff.mp h, isKey_normal]

end Json

namespace MemoryStore

variable {store : MemoryStore} {slice stored : Slice} {name : Json}

/-! ### Lookups -/

/-- Names that count as the same find the same slice. -/
theorem find?_congr {a b : Json} (h : a.same b = true) (store : MemoryStore) :
    store.find? a = store.find? b := by
  rw [find?, find?]
  simp only [Json.same_congr h]

/-- A slice that was put under a name is found under it, and all others as before. -/
theorem find?_insert (name n : Json) (slice : Slice) (slices : List (Json × Slice)) (k l : Nat) :
    find? ⟨insert name slice slices, k⟩ n =
      if name.same n then some slice else find? ⟨slices, l⟩ n := by
  simp only [find?]
  induction slices with
  | nil =>
    cases h : name.same n <;> simp [insert, h]
  | cons e r ih =>
    obtain ⟨m, s⟩ := e
    rw [insert]
    cases hm : m.same name with
    | true =>
      rw [if_pos rfl]
      cases h : name.same n with
      | true => simp [Json.same_trans hm h]
      | false =>
        have hmn : m.same n = false := by
          rw [Bool.eq_false_iff]
          intro hmn
          rw [Json.same_trans (Json.same_symm hm) hmn] at h
          cases h
        simp [hmn]
    | false =>
      rw [if_neg (by simp)]
      cases hmn : m.same n with
      | true =>
        have h : name.same n = false := by
          rw [Bool.eq_false_iff]
          intro h
          rw [Json.same_trans hmn (Json.same_symm h)] at hm
          cases hm
        simp [hmn, h]
      | false => simpa [hmn] using ih

theorem find?_write (store : MemoryStore) (slice : Slice) (n : Json) :
    (store.write slice).1.find? n =
      if slice.name.same n then some (store.write slice).2 else store.find? n :=
  find?_insert _ _ _ _ _ _

/-! ### How storing a slice ends -/

/-- A slice whose name is not in the store is created. -/
theorem upsert_of_absent (hkey : slice.name.isKey = true) (h : store.find? slice.name = none) :
    store.upsert slice =
      ((store.write slice).1, ⟨(store.write slice).2, .ok .created⟩) := by
  simp [upsert, hkey, h]

/-- A slice that may take the place of the stored one is updated. -/
theorem upsert_of_accepts (hkey : slice.name.isKey = true)
    (h : store.find? slice.name = some stored) (haccepts : accepts slice stored = true) :
    store.upsert slice =
      ((store.write slice).1, ⟨(store.write slice).2, .ok .updated⟩) := by
  simp [upsert, hkey, h, haccepts]

/-- A slice whose version is out of date is refused. -/
theorem upsert_of_not_accepts (hkey : slice.name.isKey = true)
    (h : store.find? slice.name = some stored) (haccepts : accepts slice stored = false) :
    store.upsert slice =
      (store, ⟨slice, .error (.store (.stale slice.name stored.version slice.version))⟩) := by
  simp [upsert, hkey, h, haccepts]

/-- Storing a slice under a name that can be one is a write, or else it is refused for its version
and nothing changes. -/
theorem upsert_cases (store : MemoryStore) (slice : Slice) :
    (slice.name.isKey = true ∧
      ∃ outcome, store.upsert slice =
        ((store.write slice).1, ⟨(store.write slice).2, .ok outcome⟩)) ∨
    ∃ fault, store.upsert slice = (store, ⟨slice, .error fault⟩) := by
  cases hkey : slice.name.isKey with
  | false => exact .inr ⟨_, by simp [upsert, hkey]; rfl⟩
  | true =>
    cases h : store.find? slice.name with
    | none => exact .inl ⟨rfl, _, upsert_of_absent hkey h⟩
    | some stored =>
      cases haccepts : accepts slice stored with
      | true => exact .inl ⟨rfl, _, upsert_of_accepts hkey h haccepts⟩
      | false => exact .inr ⟨_, upsert_of_not_accepts hkey h haccepts⟩

/-! ### Histories -/

/-- A call that a client makes of the store. -/
inductive Request where
  | get (name : Json)
  | upsert (slice : Slice)

/-- What the store answers. -/
inductive Answer where
  | fetched (result : Except Crash (Option Slice))
  | upserted (u : Upserted)

namespace Answer

/-- The slice that an answer hands out with its version: one that was fetched, or the caller's own
once it is stored. -/
def slice? : Answer → Option Slice
  | .fetched (.ok found) => found
  | .upserted ⟨slice, .ok _⟩ => some slice
  | _ => none

/-- Whether an answer tells of a write to a name. -/
def writes (name : Json) : Answer → Bool
  | .upserted ⟨slice, .ok _⟩ => slice.name.same name
  | _ => false

/-- A write to a name is one to every name that counts as the same. -/
theorem writes_congr {a b : Json} (h : a.same b = true) (answer : Answer) :
    answer.writes a = answer.writes b := by
  unfold writes
  split
  · exact Json.same_congr h _
  · rfl

end Answer

/-- Serves a call. -/
def serve (store : MemoryStore) : Request → MemoryStore × Answer
  | .get name => (store, .fetched (store.get name))
  | .upsert slice =>
    let (store, u) := store.upsert slice
    (store, .upserted u)

/-- Serves the calls of all clients, in their order. -/
def serveAll : MemoryStore → List Request → MemoryStore × List Answer
  | store, [] => (store, [])
  | store, request :: rest =>
    let (store, answer) := store.serve request
    let (store, answers) := serveAll store rest
    (store, answer :: answers)

/-! ### Numbers of writes -/

theorem toString_nat_injective {m n : Nat} (h : toString m = toString n) : m = n := by
  rw [← Nat.ofDigitChars_ten_toDigits (n := m), ← Nat.ofDigitChars_ten_toDigits (n := n),
    ← Nat.toList_repr, ← Nat.toList_repr]
  exact congrArg (fun s : String => Nat.ofDigitChars 10 s.toList 0) h

/-- The version of a name is that of the `n`-th write. -/
def HasVersion (store : MemoryStore) (name : Json) (n : Nat) : Prop :=
  n ≤ store.writes ∧
    ∃ stored, store.find? name = some stored ∧ stored.version = .text (toString n)

/-- A store that only clients write to: each slice is found under its own name, with the number of
a write as its version. -/
structure IsNumbered (store : MemoryStore) : Prop where
  name_same : ∀ name stored, store.find? name = some stored → stored.name.same name = true
  hasVersion : ∀ name stored, store.find? name = some stored → ∃ n, store.HasVersion name n

theorem isNumbered_empty : IsNumbered {} :=
  ⟨fun _ _ h => by simp [find?] at h, fun _ _ h => by simp [find?] at h⟩

/-- A write gives its name the next number. -/
theorem hasVersion_write (store : MemoryStore) (slice : Slice) (h : slice.name.same name = true) :
    (store.write slice).1.HasVersion name (store.writes + 1) :=
  ⟨Nat.le_refl _, (store.write slice).2, by rw [find?_write, if_pos h], rfl⟩

/-- A write to another name changes no version. -/
theorem HasVersion.write_of_not_same {n : Nat} (hversion : store.HasVersion name n)
    (h : slice.name.same name = false) : (store.write slice).1.HasVersion name n := by
  obtain ⟨hn, stored, hfound, hstored⟩ := hversion
  exact ⟨Nat.le_succ_of_le hn, stored, by rwa [find?_write, h, if_neg (by simp)], hstored⟩

/-- A write keeps a store numbered. -/
theorem IsNumbered.write (hstore : store.IsNumbered) (slice : Slice) :
    (store.write slice).1.IsNumbered where
  name_same n found hfound := by
    rw [find?_write] at hfound
    split at hfound
    · rename_i hsame
      obtain rfl : (store.write slice).2 = found := by simpa using hfound
      exact hsame
    · exact hstore.name_same n found hfound
  hasVersion n found hfound := by
    cases hsame : slice.name.same n with
    | true => exact ⟨_, hasVersion_write store slice hsame⟩
    | false =>
      rw [find?_write, hsame, if_neg (by simp)] at hfound
      obtain ⟨m, hm⟩ := hstore.hasVersion n found hfound
      exact ⟨m, hm.write_of_not_same hsame⟩

/-- **One call.** A call either writes a name, which gets the next number, or leaves its version as
it is; and it keeps the store numbered. -/
theorem serve_spec (hstore : store.IsNumbered) (request : Request) :
    (store.serve request).1.IsNumbered ∧
      ∀ name n, store.HasVersion name n →
        (store.serve request).1.HasVersion name
          (if (store.serve request).2.writes name then store.writes + 1 else n) := by
  cases request with
  | get name => exact ⟨hstore, fun _ _ h => h⟩
  | upsert slice =>
    rcases store.upsert_cases slice with ⟨-, outcome, hu⟩ | ⟨fault, hu⟩
    · simp only [serve, hu]
      refine ⟨hstore.write slice, fun name n h => ?_⟩
      change (store.write slice).1.HasVersion name (if slice.name.same name then _ else n)
      cases hsame : slice.name.same name with
      | true => exact hasVersion_write store slice hsame
      | false => exact h.write_of_not_same hsame
    · simp only [serve, hu]
      exact ⟨hstore, fun _ _ h => h⟩

/-- **A history.** Calls keep the store numbered, and after them the version of a name is the one
that it had exactly if none of them wrote it. -/
theorem serveAll_spec (hstore : store.IsNumbered) (requests : List Request) :
    (store.serveAll requests).1.IsNumbered ∧
      ∀ name n, store.HasVersion name n → ∃ m, n ≤ m ∧
        (store.serveAll requests).1.HasVersion name m ∧
        (m = n ↔ ∀ answer ∈ (store.serveAll requests).2, answer.writes name = false) := by
  induction requests generalizing store with
  | nil => exact ⟨hstore, fun name n h => ⟨n, Nat.le_refl _, h, by simp [serveAll]⟩⟩
  | cons request rest ih =>
    obtain ⟨hserved, hversions⟩ := serve_spec hstore request
    obtain ⟨hrest, hafter⟩ := ih hserved
    refine ⟨hrest, fun name n h => ?_⟩
    obtain ⟨m, hm, hversion, hsame⟩ := hafter name _ (hversions name n h)
    have hn : n ≤ store.writes := h.1
    refine ⟨m, ?_, hversion, ?_⟩
    · split at hm <;> omega
    · simp only [serveAll, List.forall_mem_cons]
      cases hwrites : (store.serve request).2.writes name with
      | true =>
        simp only [hwrites, if_true] at hm
        simp only [Bool.true_eq_false, false_and, iff_false]
        omega
      | false => simpa [hwrites] using hsame

/-! ### No write is lost -/

/-- A slice is handed out with the number of the last write to its name. -/
theorem hasVersion_of_slice? (hstore : store.IsNumbered) {request : Request} {held : Slice}
    (h : (store.serve request).2.slice? = some held) :
    held.name.isKey = true ∧ ∃ n, held.version = .text (toString n) ∧
      (store.serve request).1.HasVersion held.name n := by
  cases request with
  | get name =>
    cases hkey : name.isKey with
    | false => simp [serve, get, hkey, Answer.slice?] at h
    | true =>
      have hfound : store.find? name = some held := by
        simpa [serve, get, hkey, Answer.slice?] using h
      have hsame := hstore.name_same name held hfound
      obtain ⟨n, hn, stored, hstored, hversion⟩ := hstore.hasVersion name held hfound
      obtain rfl : held = stored := Option.some.inj (hfound.symm.trans hstored)
      exact ⟨(Json.isKey_congr hsame).trans hkey, n, hversion, hn, held,
        (find?_congr hsame store).trans hfound, hversion⟩
  | upsert slice =>
    rcases store.upsert_cases slice with ⟨hkey, outcome, hu⟩ | ⟨fault, hu⟩
    · obtain rfl : (store.write slice).2 = held := by simpa [serve, hu, Answer.slice?] using h
      simp only [serve, hu]
      exact ⟨hkey, store.writes + 1, rfl, hasVersion_write store slice (Json.same_self _)⟩
    · simp [serve, hu, Answer.slice?] at h

/-- A slice with the number of a write is accepted in place of one with the same number only. -/
theorem accepts_of_numbers {m n : Nat} (hslice : slice.version = .text (toString n))
    (hstored : stored.version = .text (toString m)) :
    accepts slice stored = decide (m = n) := by
  rw [accepts, hslice, hstored, Json.same_text]
  simp only [reduceCtorEq, decide_false, Bool.false_or, decide_eq_decide]
  exact ⟨fun h => (toString_nat_injective h).symm, fun h => h ▸ rfl⟩

/-- **No lost update.** Take any history of calls of any clients, and a slice that was handed out at
some point of it, by a get or by a write that succeeded. Whoever stores a slice of that name with
that version updates it if the name was not written since, and meets a conflict if it was, whatever
was written and however often. -/
theorem no_lost_update (earlier later : List Request) (call : Request) {held slice : Slice}
    (hheld : ((serveAll {} earlier).1.serve call).2.slice? = some held)
    (hname : slice.name.same held.name = true) (hversion : slice.version = held.version) :
    let store := ((serveAll {} earlier).1.serve call).1
    let answers := (store.serveAll later).2
    let result := ((store.serveAll later).1.upsert slice).2.result
    ((∀ answer ∈ answers, answer.writes slice.name = false) → result = .ok .updated) ∧
      ((∃ answer ∈ answers, answer.writes slice.name = true) →
        ∃ fault, result = .error (.store fault) ∧ fault.isConflict = true) := by
  intro store answers result
  obtain ⟨hnumbered, -⟩ := serveAll_spec isNumbered_empty earlier
  obtain ⟨hkey, n, hn, hhanded⟩ := hasVersion_of_slice? hnumbered hheld
  obtain ⟨-, hafter⟩ := serveAll_spec (serve_spec hnumbered call).1 later
  obtain ⟨m, -, ⟨-, stored, hfound, hstored⟩, hsame⟩ := hafter held.name n hhanded
  have hslicekey : slice.name.isKey = true := (Json.isKey_congr hname).trans hkey
  have hslice : (store.serveAll later).1.find? slice.name = some stored :=
    (find?_congr hname _).trans hfound
  have haccepts := accepts_of_numbers (hversion.trans hn) hstored
  simp only [Answer.writes_congr hname]
  constructor
  · intro hnone
    rw [decide_eq_true (hsame.mpr hnone)] at haccepts
    simp only [result, upsert_of_accepts hslicekey hslice haccepts]
  · rintro ⟨answer, hanswer, hwrite⟩
    have hne : m ≠ n := fun h => by
      rw [hsame.mp h answer hanswer] at hwrite
      cases hwrite
    rw [decide_eq_false hne] at haccepts
    exact ⟨.stale slice.name stored.version slice.version,
      by simp only [result, upsert_of_not_accepts hslicekey hslice haccepts], rfl⟩

/-- A slice that was fetched is still accepted after another name was written, and no longer once
someone has stored the very same slice again. -/
theorem no_lost_update_two_writers :
    let slice : Slice := ⟨"a", "driver", "node", ⟨"a", .int 1, .int 1⟩, [], [], .null⟩
    let other : Slice := { slice with name := "b" }
    let held : Slice := { slice with version := "1" }
    let store := ((serveAll {} [.upsert slice, .upsert other]).1.serve (.get "a")).1
    ((serveAll {} [.upsert slice, .upsert other]).1.serve (.get "a")).2.slice? = some held ∧
      ((store.serveAll [.upsert other]).1.upsert held).2.result = .ok .updated ∧
      ∃ fault, ((store.serveAll [.upsert other, .upsert slice, .get "a"]).1.upsert held).2.result =
        .error (.store fault) ∧ fault.isConflict = true := by
  intro slice other held store
  have hheld : ((serveAll {} [.upsert slice, .upsert other]).1.serve (.get "a")).2.slice? =
      some held := by decide +kernel
  have hname : held.name.same held.name = true := Json.same_self _
  exact ⟨hheld,
    (no_lost_update _ [.upsert other] _ hheld hname rfl).1 (by decide +kernel),
    (no_lost_update _ [.upsert other, .upsert slice, .get "a"] _ hheld hname rfl).2
      (by decide +kernel)⟩

end MemoryStore

end SliceAgent
