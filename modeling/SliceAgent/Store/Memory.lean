import SliceAgent.Store.Fault
import SliceAgent.Json.Writer
import SliceAgent.Log

/-!
# The store in memory

A dry run keeps slices in memory, with versions as the cluster gives them: the version of a slice
is the number of writes that succeeded, this one included. A slice without a version is always
stored; one with a version only if the object of its name is absent or has that version.

The store holds each slice under the name that was first written, and two names are the same if
they count as the same value.
-/

namespace SliceAgent

/-- The stored slices under their names, and the number of writes that succeeded. -/
structure MemoryStore where
  slices : List (Json × Slice) := []
  writes : Nat := 0

namespace MemoryStore

/-- The slice stored under a name. -/
def find? (store : MemoryStore) (name : Json) : Option Slice :=
  (store.slices.find? fun e => e.1.same name).map (·.2)

/-- Puts a slice under a name, in its place if it is there and else at the end. -/
def insert (name : Json) (slice : Slice) : List (Json × Slice) → List (Json × Slice)
  | [] => [(name, slice)]
  | (n, s) :: r => if n.same name then (n, slice) :: r else (n, s) :: insert name slice r

/-- The slice of a name. -/
def get (store : MemoryStore) (name : Json) : Except Crash (Option Slice) :=
  if name.isKey then .ok (store.find? name) else .error (.noName name)

/-- Whether a slice may take the place of a stored one. -/
def accepts (slice stored : Slice) : Bool :=
  slice.version = .null || slice.version.same stored.version

/-- The store with one write more, and the slice with the version of that write. -/
def write (store : MemoryStore) (slice : Slice) : MemoryStore × Slice :=
  let slice := { slice with version := .text (toString (store.writes + 1)) }
  (⟨insert slice.name slice store.slices, store.writes + 1⟩, slice)

/-- Stores a slice unless its version is out of date. -/
def upsert (store : MemoryStore) (slice : Slice) : MemoryStore × Upserted :=
  if !slice.name.isKey then (store, ⟨slice, .error (.crash (.noName slice.name))⟩)
  else match store.find? slice.name with
    | none =>
      let (store, slice) := store.write slice
      (store, ⟨slice, .ok .created⟩)
    | some stored =>
      if accepts slice stored then
        let (store, slice) := store.write slice
        (store, ⟨slice, .ok .updated⟩)
      else
        (store, ⟨slice, .error (.store (.stale slice.name stored.version slice.version))⟩)

/-- Stores a slice as it is, as another writer would. -/
def put (store : MemoryStore) (slice : Slice) : Except Crash MemoryStore :=
  if slice.name.isKey then .ok { store with slices := insert slice.name slice store.slices }
  else .error (.noName slice.name)

/-- The names in the store. -/
def names (store : MemoryStore) : List Json :=
  store.slices.map (·.1)

/-- The number of names in the store. -/
def size (store : MemoryStore) : Nat :=
  store.slices.length

end MemoryStore

/-- A number as a fraction. An infinity is one beyond all numbers that are read, and what is no
number is neither less nor greater than any. -/
def fraction? : Json → Option (Int × Nat)
  | .bool b => some (if b then 1 else 0, 1)
  | .int n => some (n, 1)
  | .float x => some <| match x.decode with
    | .finite negative m e =>
      if 0 ≤ e then (signed negative (m * Nat.pow 2 e.toNat), 1)
      else (signed negative m, Nat.pow 2 (-e).toNat)
    | .infinite negative => (signed negative (Nat.pow 10 digitLimit), 1)
    | .notANumber => (0, 0)
  | _ => none

/-- The codes of a text. -/
def codes? : Json → Option (List Nat)
  | .text s => some (s.toList.map Char.toNat)
  | .torn t => some (t.map Text.CodePoint.code)
  | _ => none

/-- Whether a list of codes does not come after another one: the first codes that differ decide,
and else a list comes before those that go on. -/
def codesLe : List Nat → List Nat → Bool
  | [], _ => true
  | _ :: _, [] => false
  | m :: r, n :: s => decide (m < n) || (m == n && codesLe r s)

/-- Sorts names; `none` if they cannot be compared. Texts compare by code point and numbers by
value, one kind not with the other. -/
def sortNames? (names : List Json) : Option (List Json) :=
  let sortBy {α : Type} (le : α → α → Bool) (keys : List (α × Json)) : List Json :=
    (keys.mergeSort fun a b => le a.1 b.1).map (·.2)
  let texts := names.mapM fun n => (codes? n).map (·, n)
  let numbers := names.mapM fun n => (fraction? n).map (·, n)
  if names.length ≤ 1 then some names
  else match texts, numbers with
    | some keys, _ => some (sortBy codesLe keys)
    | none, some keys =>
      some (sortBy (fun a b => decide (a.1 * (b.2 : Int) ≤ b.1 * (a.2 : Int))) keys)
    | none, none => none

/-- What the store in memory logs of a write. -/
def memoryRecords (u : Upserted) : List Record :=
  match u.result with
  | .ok .created =>
    [.message .debug memoryLogger s!"Created ResourceSlice {u.slice.name.shown} in memory"]
  | .ok .updated =>
    [.message .debug memoryLogger s!"Updated ResourceSlice {u.slice.name.shown} in memory"]
  | .error _ => []

end SliceAgent
