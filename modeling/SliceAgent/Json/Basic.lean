import SliceAgent.Decimal.Binary64
import SliceAgent.Text.CodePoint

/-!
# JSON values

`Json` keeps whole numbers apart from floating-point ones, whole numbers of any size, and the
fields of an object in the order in which they were first written. A text with half of a pair of
surrogates in it is kept apart from the texts of characters.

An object has texts for names. A map that a program builds can have other keys beside them; it is
kept as a table, which no JSON text holds (`Json.ofEntries`).

`Json.setField` and `Json.field?` treat a list of fields as a map: the first field of a name counts,
and setting a name that is there keeps its place.
-/

namespace SliceAgent

/-- A JSON value. -/
inductive Json where
  | null
  | bool (b : Bool)
  | int (n : Int)
  | float (x : Binary64)
  | text (s : String)
  /-- A text with half of a pair of surrogates in it. -/
  | torn (t : Text.CodeText)
  | arr (items : List Json)
  | obj (fields : List (String × Json))
  /-- A map that has keys beside texts. -/
  | table (entries : List (Json × Json))
  deriving Repr, Inhabited

namespace Json

instance : Coe String Json := ⟨.text⟩

/-- A text of code points as a value. -/
def ofPoints (t : Text.CodeText) : Json :=
  match t.string? with
  | some s => .text s
  | none => .torn t

/-! ### Equality -/

mutual

/-- Whether two values are equal. -/
def beq : Json → Json → Bool
  | .null, .null => true
  | .bool a, .bool b => a == b
  | .int m, .int n => m == n
  | .float x, .float y => x == y
  | .text s, .text t => s == t
  | .torn s, .torn t => s == t
  | .arr xs, .arr ys => beqItems xs ys
  | .obj fs, .obj gs => beqFields fs gs
  | .table es, .table ds => beqEntries es ds
  | _, _ => false
termination_by structural a => a

/-- Whether two lists of items are equal. -/
def beqItems : List Json → List Json → Bool
  | [], [] => true
  | x :: xs, y :: ys => beq x y && beqItems xs ys
  | _, _ => false
termination_by structural a => a

/-- Whether two lists of fields are equal. -/
def beqFields : List (String × Json) → List (String × Json) → Bool
  | [], [] => true
  | (m, x) :: fs, (n, y) :: gs => m == n && beq x y && beqFields fs gs
  | _, _ => false
termination_by structural a => a

/-- Whether two lists of entries are equal. -/
def beqEntries : List (Json × Json) → List (Json × Json) → Bool
  | [], [] => true
  | (k, x) :: es, (l, y) :: ds => beq k l && beq x y && beqEntries es ds
  | _, _ => false
termination_by structural a => a

end

mutual

theorem eq_of_beq : ∀ {a b : Json}, beq a b = true → a = b := by
  intro a b h
  cases a <;> cases b <;> simp_all [beq]
  · exact eq_of_beqItems h
  · exact eq_of_beqFields h
  · exact eq_of_beqEntries h

theorem eq_of_beqItems : ∀ {xs ys : List Json}, beqItems xs ys = true → xs = ys
  | [], [], _ => rfl
  | x :: xs, y :: ys, h => by
    simp only [beqItems, Bool.and_eq_true] at h
    rw [eq_of_beq h.1, eq_of_beqItems h.2]
  | [], _ :: _, h => by simp [beqItems] at h
  | _ :: _, [], h => by simp [beqItems] at h

theorem eq_of_beqFields : ∀ {fs gs : List (String × Json)}, beqFields fs gs = true → fs = gs
  | [], [], _ => rfl
  | (m, x) :: fs, (n, y) :: gs, h => by
    simp only [beqFields, Bool.and_eq_true, beq_iff_eq] at h
    rw [h.1.1, eq_of_beq h.1.2, eq_of_beqFields h.2]
  | [], _ :: _, h => by simp [beqFields] at h
  | _ :: _, [], h => by simp [beqFields] at h

theorem eq_of_beqEntries : ∀ {es ds : List (Json × Json)}, beqEntries es ds = true → es = ds
  | [], [], _ => rfl
  | (k, x) :: es, (l, y) :: ds, h => by
    simp only [beqEntries, Bool.and_eq_true] at h
    rw [eq_of_beq h.1.1, eq_of_beq h.1.2, eq_of_beqEntries h.2]
  | [], _ :: _, h => by simp [beqEntries] at h
  | _ :: _, [], h => by simp [beqEntries] at h

end

mutual

theorem beq_self : ∀ a : Json, beq a a = true
  | .null | .bool _ | .int _ | .float _ | .text _ | .torn _ => by simp [beq]
  | .arr xs => by rw [beq]; exact beqItems_self xs
  | .obj fs => by rw [beq]; exact beqFields_self fs
  | .table es => by rw [beq]; exact beqEntries_self es

theorem beqItems_self : ∀ xs : List Json, beqItems xs xs = true
  | [] => by simp [beqItems]
  | x :: xs => by simp [beqItems, beq_self x, beqItems_self xs]

theorem beqFields_self : ∀ fs : List (String × Json), beqFields fs fs = true
  | [] => by simp [beqFields]
  | (_, x) :: fs => by simp [beqFields, beq_self x, beqFields_self fs]

theorem beqEntries_self : ∀ es : List (Json × Json), beqEntries es es = true
  | [] => by simp [beqEntries]
  | (k, x) :: es => by simp [beqEntries, beq_self k, beq_self x, beqEntries_self es]

end

instance : DecidableEq Json := fun a b =>
  decidable_of_iff (beq a b = true) ⟨eq_of_beq, fun h => h ▸ beq_self a⟩

/-! ### Fields -/

/-- The value of the first field of a name. -/
def field? (name : String) (fields : List (String × Json)) : Option Json :=
  (fields.find? (·.1 == name)).map (·.2)

/-- Gives a field a value, in its place if it is there and else at the end. -/
def setField (name : String) (value : Json) : List (String × Json) → List (String × Json)
  | [] => [(name, value)]
  | (n, v) :: r => if n = name then (n, value) :: r else (n, v) :: setField name value r

/-- Gives several fields their values, one after another. -/
def setFields (new fields : List (String × Json)) : List (String × Json) :=
  new.foldl (fun acc f => setField f.1 f.2 acc) fields

@[simp]
theorem field?_nil (name : String) : field? name [] = none := rfl

/-- A field that was set has its value, and the others keep theirs. -/
theorem field?_setField (name n : String) (value : Json) (fields : List (String × Json)) :
    field? n (setField name value fields) = if n = name then some value else field? n fields := by
  induction fields with
  | nil =>
    by_cases h : n = name
    · simp [setField, field?, h]
    · have h' : ¬ name = n := fun e => h e.symm
      simp [setField, field?, h, h']
  | cons f r ih =>
    obtain ⟨m, v⟩ := f
    simp only [setField]
    by_cases hm : m = name
    · subst hm
      by_cases h : n = m
      · simp [field?, h]
      · have h' : ¬ m = n := fun e => h e.symm
        simp [field?, h, h']
    · by_cases h : n = m
      · subst h
        simp [field?, hm]
      · have h' : ¬ m = n := fun e => h e.symm
        rw [if_neg hm]
        simpa [field?, h'] using ih

/-! ### Entries -/

/-- The fields that entries are, if all their keys are texts. -/
def textFields? : List (Json × Json) → Option (List (String × Json))
  | [] => some []
  | (.text name, v) :: r => (textFields? r).map ((name, v) :: ·)
  | _ => none

/-- The map that has entries: an object if all keys are texts. -/
def ofEntries (entries : List (Json × Json)) : Json :=
  match textFields? entries with
  | some fields => .obj fields
  | none => .table entries

/-- The entries of a map. -/
def entries? : Json → Option (List (Json × Json))
  | .obj fields => some (fields.map fun (name, v) => (.text name, v))
  | .table entries => some entries
  | _ => none

theorem textFields?_eq_some {entries : List (Json × Json)} {fields : List (String × Json)}
    (h : textFields? entries = some fields) :
    fields.map (fun f => (.text f.1, f.2)) = entries := by
  fun_induction textFields? entries generalizing fields with
  | case1 =>
    obtain rfl := Option.some.inj h
    rfl
  | case2 name v rest ih =>
    obtain ⟨others, hothers, rfl⟩ := Option.map_eq_some_iff.mp h
    rw [List.map_cons, ih hothers]
  | case3 => cases h

/-- A map has the entries that it was made of. -/
@[simp]
theorem entries?_ofEntries (entries : List (Json × Json)) :
    (ofEntries entries).entries? = some entries := by
  rw [ofEntries]
  split
  · rename_i fields hfields
    exact congrArg some (textFields?_eq_some hfields)
  · rfl

/-- Sorted by code point, the fields of an object have one order. -/
def sortFields {α : Type} (fields : List (String × α)) : List (String × α) :=
  fields.mergeSort fun a b => decide (a.1 ≤ b.1)

end Json

end SliceAgent
