import SliceAgent.Proofs.Manifest

/-!
# Looking into values

A place in a value is told by the steps that lead to it, each to a field of an object or to an item
of an array (`Json.at?`). Objects whose names are distinct are maps: what is found under a name does
not depend on the order of the fields (`field?_of_perm`), and setting fields keeps their names
distinct (`nodup_setFields`). So it makes no difference to what is found at a place whether a value
or its normal form is looked into (`at?_normal`), and two values that count as the same show the
same at each place.
-/

namespace SliceAgent.Json

/-! ### Fields of a map -/

section Fields

variable {name : String} {v : Json} {fields : List (String × Json)}

theorem mem_of_field? (h : field? name fields = some v) : (name, v) ∈ fields := by
  rw [field?, Option.map_eq_some_iff] at h
  obtain ⟨f, hfind, rfl⟩ := h
  obtain rfl : f.1 = name := by simpa using List.find?_some hfind
  exact List.mem_of_find?_eq_some hfind

theorem field?_eq_none_iff : field? name fields = none ↔ name ∉ fields.map (·.1) := by
  rw [field?, Option.map_eq_none_iff, List.find?_eq_none, List.mem_map]
  constructor
  · rintro h ⟨f, hf, rfl⟩
    exact h f hf (beq_self_eq_true f.1)
  · intro h f hf hname
    exact h ⟨f, hf, beq_iff_eq.mp hname⟩

/-- Under distinct names just the fields that are there are found. -/
theorem field?_eq_some_iff (h : (fields.map (·.1)).Nodup) :
    field? name fields = some v ↔ (name, v) ∈ fields := by
  refine ⟨mem_of_field?, fun hmem => ?_⟩
  cases hfound : field? name fields with
  | none => exact absurd (List.mem_map_of_mem hmem) (field?_eq_none_iff.mp hfound)
  | some w =>
    have heq := List.inj_on_of_nodup_map h (mem_of_field? hfound) hmem rfl
    exact congrArg some (Prod.ext_iff.mp heq).2

/-- Under distinct names the order of the fields makes no difference. -/
theorem field?_of_perm {fields' : List (String × Json)} (hperm : fields.Perm fields')
    (h : (fields.map (·.1)).Nodup) : field? name fields = field? name fields' := by
  have h' : (fields'.map (·.1)).Nodup := (hperm.map _).nodup_iff.mp h
  ext v
  rw [field?_eq_some_iff h, field?_eq_some_iff h', hperm.mem_iff]

/-- Values that are changed under their names are found changed. -/
theorem field?_map {α : Type} (f : α → Json) (entries : List (String × α)) :
    field? name (entries.map fun e => (e.1, f e.2)) =
      (entries.find? (·.1 == name)).map fun e => f e.2 := by
  rw [field?, List.find?_map, Option.map_map]
  rfl

theorem field?_cons (name : String) (f : String × Json) (rest : List (String × Json)) :
    field? name (f :: rest) = if f.1 = name then some f.2 else field? name rest := by
  by_cases h : f.1 = name
  · simp [field?, h]
  · rw [field?, List.find?_cons_of_neg (by simpa using h), if_neg h, field?]

/-- Under distinct names, what is found among the fields that are kept is what is found and kept. -/
theorem field?_filter (h : (fields.map (·.1)).Nodup) (p : Json → Bool) :
    field? name (fields.filter fun f => p f.2) = (field? name fields).filter p := by
  have hkept : ((fields.filter fun f => p f.2).map (·.1)).Nodup :=
    h.sublist (List.filter_sublist.map _)
  ext v
  rw [field?_eq_some_iff hkept, List.mem_filter, Option.filter_eq_some_iff, field?_eq_some_iff h]

end Fields

/-! ### Fields that are set -/

section SetFields

variable {name : String} {v : Json} {new fields : List (String × Json)}

theorem mem_names_setField {n : String} :
    n ∈ (setField name v fields).map (·.1) ↔ n = name ∨ n ∈ fields.map (·.1) := by
  rw [← not_iff_not, ← field?_eq_none_iff, field?_setField, not_or, ← field?_eq_none_iff]
  by_cases h : n = name <;> simp [h]

theorem nodup_setField (h : (fields.map (·.1)).Nodup) :
    ((setField name v fields).map (·.1)).Nodup := by
  induction fields with
  | nil => simp [setField]
  | cons f rest ih =>
    obtain ⟨hnew, hrest⟩ := List.nodup_cons.mp h
    rw [setField]
    split
    · exact h
    · rename_i hne
      refine List.nodup_cons.mpr ⟨?_, ih hrest⟩
      rw [mem_names_setField, not_or]
      exact ⟨hne, hnew⟩

theorem setFields_cons (f : String × Json) :
    setFields (f :: new) fields = setFields new (setField f.1 f.2 fields) := rfl

theorem mem_names_setFields {n : String} :
    n ∈ (setFields new fields).map (·.1) ↔ n ∈ new.map (·.1) ∨ n ∈ fields.map (·.1) := by
  induction new generalizing fields with
  | nil => simp [setFields]
  | cons f rest ih =>
    rw [setFields_cons, ih, mem_names_setField, List.map_cons, List.mem_cons, or_left_comm,
      or_assoc]

theorem nodup_setFields (h : (fields.map (·.1)).Nodup) :
    ((setFields new fields).map (·.1)).Nodup := by
  induction new generalizing fields with
  | nil => exact h
  | cons f rest ih => exact ih (nodup_setField h)

/-- Fields that are set, under distinct names, are found before those that were there. -/
theorem field?_setFields (h : (new.map (·.1)).Nodup) :
    field? name (setFields new fields) = (field? name new).or (field? name fields) := by
  induction new generalizing fields with
  | nil => rfl
  | cons f rest ih =>
    obtain ⟨hnew, hrest⟩ := List.nodup_cons.mp h
    rw [setFields_cons, ih hrest, field?_setField, field?_cons]
    by_cases hname : f.1 = name
    · subst hname
      simp [field?_eq_none_iff.mpr hnew]
    · have hname' : ¬name = f.1 := fun e => hname e.symm
      simp [hname, hname']

end SetFields

/-! ### Places -/

/-- A step into a value. -/
inductive Step where
  | field (name : String)
  | item (place : Nat)
  deriving DecidableEq, Repr

/-- Where a step leads to. -/
def step? : Step → Json → Option Json
  | .field name, .obj fields => field? name fields
  | .item place, .arr items => items[place]?
  | _, _ => none

/-- What is found at the end of some steps. -/
def at? : List Step → Json → Option Json
  | [], v => some v
  | s :: rest, v => (step? s v).bind (at? rest)

@[simp]
theorem at?_singleton (s : Step) (v : Json) : at? [s] v = step? s v :=
  Option.bind_fun_some _

theorem at?_append (earlier later : List Step) (v : Json) :
    at? (earlier ++ later) v = (at? earlier v).bind (at? later) := by
  induction earlier generalizing v with
  | nil => rfl
  | cons s rest ih =>
    rw [List.cons_append, at?, at?, Option.bind_assoc]
    exact Option.bind_congr fun w _ => ih w

theorem at?_append_of_eq {earlier : List Step} {v w : Json} (h : at? earlier v = some w)
    (later : List Step) : at? (earlier ++ later) v = at? later w := by
  rw [at?_append, h, Option.bind_some]

/-! ### Normal forms -/

@[simp]
theorem sortFields_singleton {α : Type} (f : String × α) : sortFields [f] = [f] :=
  List.mergeSort_singleton f

theorem normalItems_eq (items : List Json) : normalItems items = items.map normal := by
  induction items with
  | nil => rfl
  | cons v rest ih => rw [normalItems, ih, List.map_cons]

theorem normalFields_eq (fields : List (String × Json)) :
    normalFields fields = fields.map fun f => (f.1, f.2.normal) := by
  induction fields with
  | nil => rfl
  | cons f rest ih => rw [normalFields, ih, List.map_cons]

mutual

/-- Whether each object in a value has each name once. -/
def hasDistinctNames : Json → Bool
  | .arr items => allHaveDistinctNames items
  | .obj fields => decide (fields.map (·.1)).Nodup && fieldsHaveDistinctNames fields
  | .table entries => decide (entries.map (·.1)).Nodup && entriesHaveDistinctNames entries
  | _ => true

/-- Whether each item of an array is such a value. -/
def allHaveDistinctNames : List Json → Bool
  | [] => true
  | v :: r => hasDistinctNames v && allHaveDistinctNames r

/-- Whether each field of an object has such a value. -/
def fieldsHaveDistinctNames : List (String × Json) → Bool
  | [] => true
  | (_, v) :: r => hasDistinctNames v && fieldsHaveDistinctNames r

/-- Whether each entry of a table has such a value. -/
def entriesHaveDistinctNames : List (Json × Json) → Bool
  | [] => true
  | (_, v) :: r => hasDistinctNames v && entriesHaveDistinctNames r

end

theorem nodup_of_hasDistinctNames {fields : List (String × Json)}
    (h : hasDistinctNames (.obj fields) = true) : (fields.map (·.1)).Nodup := by
  simp only [hasDistinctNames, Bool.and_eq_true, decide_eq_true_eq] at h
  exact h.1

theorem allHaveDistinctNames_iff {items : List Json} :
    allHaveDistinctNames items = true ↔ ∀ v ∈ items, v.hasDistinctNames = true := by
  induction items with
  | nil => simp [allHaveDistinctNames]
  | cons v rest ih => simp [allHaveDistinctNames, ih]

theorem hasDistinctNames_obj {fields : List (String × Json)} :
    hasDistinctNames (.obj fields) = true ↔
      (fields.map (·.1)).Nodup ∧ ∀ f ∈ fields, f.2.hasDistinctNames = true := by
  have hfields : fieldsHaveDistinctNames fields = true ↔
      ∀ f ∈ fields, f.2.hasDistinctNames = true := by
    induction fields with
    | nil => simp [fieldsHaveDistinctNames]
    | cons f rest ih => simp [fieldsHaveDistinctNames, ih]
  rw [hasDistinctNames, Bool.and_eq_true, decide_eq_true_eq, hfields]

theorem hasDistinctNames_step? {s : Step} {v w : Json} (hv : v.hasDistinctNames = true)
    (h : step? s v = some w) : w.hasDistinctNames = true := by
  match s, v with
  | .field name, .obj fields => exact (hasDistinctNames_obj.mp hv).2 _ (mem_of_field? h)
  | .item place, .arr items =>
    rw [hasDistinctNames, allHaveDistinctNames_iff] at hv
    exact hv w (List.mem_of_getElem? h)

/-- A step into the normal form leads to the normal form of what it leads to. -/
theorem step?_normal (s : Step) {v : Json} (hv : v.hasDistinctNames = true) :
    step? s v.normal = (step? s v).map normal := by
  cases v with
  | obj fields =>
    rw [normal, normalFields_eq]
    cases s with
    | item place => rfl
    | field name =>
      have hperm := sortFields_perm (fields.map fun f => (f.1, f.2.normal))
      have hnames : ((fields.map fun f => (f.1, f.2.normal)).map (·.1)).Nodup := by
        rw [List.map_map]
        exact nodup_of_hasDistinctNames hv
      rw [step?, field?_of_perm hperm ((hperm.map _).nodup_iff.mpr hnames), field?_map, step?,
        field?, Option.map_map]
      rfl
  | arr items =>
    rw [normal, normalItems_eq]
    cases s with
    | item place => exact List.getElem?_map
    | field name => rfl
  | float x =>
    rw [normal]
    cases s <;> split <;> rfl
  | _ => cases s <;> rfl

/-- **Normal forms show the same.** At each place of the normal form there is the normal form of
what is there. -/
theorem at?_normal (path : List Step) {v : Json} (hv : v.hasDistinctNames = true) :
    at? path v.normal = (at? path v).map normal := by
  induction path generalizing v with
  | nil => rfl
  | cons s rest ih =>
    rw [at?, at?, step?_normal s hv]
    cases h : step? s v with
    | none => rfl
    | some w => exact ih (hasDistinctNames_step? hv h)

end SliceAgent.Json
