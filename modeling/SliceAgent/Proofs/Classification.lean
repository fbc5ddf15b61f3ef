import SliceAgent.Device
import SliceAgent.Proofs.Digits

/-!
# Names of virtual functions

The name of a virtual function is the name of its parent, the marker `_vf` and a number
(`IsFunctionName`). A name is that of a function of at most one parent, since its number is the
longest run of digits at its end, and just such names are classified as virtual
(`DeviceKind.ofName_eq_virtual_iff`).

A name can be classified by the last marker in it as well (`DeviceKind.ofLastMarker?`). Within the
number and the last two characters of the marker no other marker begins, so the last one is the one
before the number, and its parent is never found to be without a name
(`DeviceKind.ofLastMarker?_eq`).
-/

namespace SliceAgent

/-- The marker between the name of the parent and the number of a virtual function. -/
def functionMarker : String := "_vf"

/-- A name is that of a virtual function of a parent: the name of the parent, the marker and some
digits. -/
def IsFunctionName (name parent : String) : Prop :=
  parent ≠ "" ∧ ∃ number : String, number ≠ "" ∧ (∀ c ∈ number.toList, c.isDigit = true) ∧
    name = parent ++ functionMarker ++ number

/-! ### The number at the end of a name -/

section Number

variable {name parent number : String}

theorem reverse_toList_append_marker (parent number : String) :
    (parent ++ functionMarker ++ number).toList.reverse =
      number.toList.reverse ++ 'f' :: 'v' :: '_' :: parent.toList.reverse := by
  simp [functionMarker]

/-- The number is the run of digits at the end of a name, since the marker ends in a letter. -/
theorem takeWhile_dropWhile_reverse (parent : String)
    (h : ∀ c ∈ number.toList, c.isDigit = true) :
    (parent ++ functionMarker ++ number).toList.reverse.takeWhile Char.isDigit =
        number.toList.reverse ∧
      (parent ++ functionMarker ++ number).toList.reverse.dropWhile Char.isDigit =
        'f' :: 'v' :: '_' :: parent.toList.reverse := by
  have hdigits : ∀ c ∈ number.toList.reverse, c.isDigit = true := by simpa using h
  have hletter : ¬ 'f'.isDigit = true := by decide
  rw [reverse_toList_append_marker, List.takeWhile_append_of_pos hdigits,
    List.dropWhile_append_of_pos hdigits, List.takeWhile_cons_of_neg hletter,
    List.dropWhile_cons_of_neg hletter, List.append_nil]
  exact ⟨rfl, rfl⟩

/-- A name is that of a function of one parent at most. -/
theorem IsFunctionName.unique {other : String} (h : IsFunctionName name parent)
    (hother : IsFunctionName name other) : parent = other := by
  obtain ⟨-, number, -, hdigits, rfl⟩ := h
  obtain ⟨-, number', -, hdigits', hname⟩ := hother
  have hparent := (takeWhile_dropWhile_reverse parent hdigits).2
  rw [hname, (takeWhile_dropWhile_reverse other hdigits').2] at hparent
  simpa [String.toList_inj, eq_comm] using hparent

end Number

namespace DeviceKind

/-! ### The kind of a name -/

/-- The names that are classified as virtual functions of a parent. -/
theorem ofName_eq_virtual_iff {name parent : String} :
    (∃ h, ofName name = .virtual parent h) ↔ IsFunctionName name parent := by
  unfold ofName
  dsimp only
  split
  · -- The pattern has told the number, the marker and the parent, all of them backwards.
    rename_i d ds c before hnumber hrest
    have hreverse : name.toList.reverse = (d :: ds) ++ 'f' :: 'v' :: '_' :: c :: before := by
      rw [← hnumber, ← hrest, List.takeWhile_append_dropWhile]
    have hdigits : ∀ c ∈ (String.ofList (d :: ds).reverse).toList, c.isDigit = true := by
      intro c hc
      rw [String.toList_ofList, List.mem_reverse, ← hnumber] at hc
      exact List.mem_takeWhile_imp hc
    have hfunction : IsFunctionName name (.ofList (before.reverse ++ [c])) := by
      refine ⟨by simp, .ofList (d :: ds).reverse, by simp, hdigits, ?_⟩
      rw [← String.toList_inj, ← List.reverse_inj, hreverse, reverse_toList_append_marker]
      simp
    constructor
    · rintro ⟨h, hkind⟩
      cases hkind
      exact hfunction
    · intro h
      obtain rfl := hfunction.unique h
      exact ⟨h.1, rfl⟩
  · rename_i hother
    refine iff_of_false (by simp) ?_
    rintro ⟨hparent, number, hnumber, hdigits, rfl⟩
    obtain ⟨htake, hdrop⟩ := takeWhile_dropWhile_reverse parent hdigits
    obtain ⟨d, ds, hd⟩ : ∃ d ds, number.toList.reverse = d :: ds :=
      List.exists_cons_of_ne_nil (by simpa using hnumber)
    obtain ⟨c, before, hc⟩ : ∃ c before, parent.toList.reverse = c :: before :=
      List.exists_cons_of_ne_nil (by simpa using hparent)
    exact hother d ds c before (htake.trans hd) (by rw [hdrop, hc])

/-- All other names are those of primary functions. -/
theorem ofName_eq_primary {name : String} (h : ¬∃ parent, IsFunctionName name parent) :
    ofName name = .primary := by
  cases hkind : ofName name with
  | primary => rfl
  | virtual parent hparent => exact absurd ⟨parent, ofName_eq_virtual_iff.mp ⟨_, hkind⟩⟩ h

end DeviceKind

/-! ### The last marker in a name -/

/-- Splits a text around the last place at which a marker stands. -/
def splitAtLast? (marker : List Char) : List Char → Option (List Char × List Char)
  | [] => none
  | c :: r =>
    match splitAtLast? marker r with
    | some (before, after) => some (c :: before, after)
    | none =>
      if marker.isPrefixOf (c :: r) then some ([], (c :: r).drop marker.length) else none

/-- The kind of device that a name stands for, by the last marker in it: a virtual function if that
is not at the beginning and only digits are behind it. What is before it is the name of the parent,
which must not be empty. -/
def DeviceKind.ofLastMarker? (name : String) : Except DeviceFault DeviceKind :=
  match splitAtLast? functionMarker.toList name.toList with
  | none => .ok .primary
  | some (parent, number) =>
    if 0 < parent.length ∧ number ≠ [] ∧ (number.all fun c => decide (c.toNat < 128)) ∧
        number.all Text.isDigitSign then DeviceKind.virtual? (.ofList parent)
    else .ok .primary

section LastMarker

variable {m : Char} {marker before after s : List Char}

/-- A text is split around an occurrence of the marker. -/
theorem eq_of_splitAtLast? (h : splitAtLast? marker s = some (before, after)) :
    s = before ++ (marker ++ after) := by
  induction s generalizing before with
  | nil => cases h
  | cons c r ih =>
    rw [splitAtLast?] at h
    split at h
    · rename_i before' after' hrest
      obtain ⟨rfl, rfl⟩ := Prod.mk.inj (Option.some.inj h)
      rw [ih hrest, List.cons_append]
    split at h
    · rename_i hmarker
      obtain ⟨rest, hrest⟩ := List.isPrefixOf_iff_prefix.mp hmarker
      obtain ⟨rfl, rfl⟩ := Prod.mk.inj (Option.some.inj h)
      rw [← hrest, List.drop_left, List.nil_append]
    · cases h

/-- There is no marker where its first character is missing. -/
theorem splitAtLast?_of_not_mem (h : m ∉ s) : splitAtLast? (m :: marker) s = none := by
  induction s with
  | nil => rfl
  | cons c r ih =>
    rw [List.mem_cons, not_or] at h
    simp [splitAtLast?, ih h.2, List.isPrefixOf_cons_cons, h.1]

/-- A marker is the last one if its first character is missing behind it. -/
theorem splitAtLast?_append (before : List Char) (h : m ∉ marker ++ after) :
    splitAtLast? (m :: marker) (before ++ (m :: marker ++ after)) = some (before, after) := by
  induction before with
  | nil =>
    simp [splitAtLast?, splitAtLast?_of_not_mem h]
  | cons c r ih => rw [List.cons_append, splitAtLast?, ih]

/-- The digits of ASCII are told by being digits of any script and characters of ASCII. -/
theorem isDigitSign_ascii : ∀ n < 128,
    Text.isDigitSign (Char.ofNat n) = (Char.ofNat n).isDigit := by
  decide +kernel

theorem isDigit_iff_isDigitSign {c : Char} :
    c.isDigit = true ↔ c.toNat < 128 ∧ Text.isDigitSign c = true := by
  have hascii (h : c.toNat < 128) : Text.isDigitSign c = c.isDigit := by
    simpa using isDigitSign_ascii c.toNat h
  constructor
  · intro h
    have hlt : c.toNat < 128 := by
      simp only [Char.isDigit, Bool.and_eq_true, decide_eq_true_eq, UInt32.le_iff_toNat_le] at h
      exact h.2.trans_lt (by decide)
    exact ⟨hlt, (hascii hlt).trans h⟩
  · rintro ⟨hlt, h⟩
    rwa [← hascii hlt]

end LastMarker

/-- **By the last marker.** A name is classified by the last marker in it as it is by the number at
its end, and the parent always has a name. -/
theorem DeviceKind.ofLastMarker?_eq (name : String) : ofLastMarker? name = .ok (ofName name) := by
  by_cases hfunction : ∃ parent, IsFunctionName name parent
  · obtain ⟨parent, hparent⟩ := hfunction
    obtain ⟨h, hkind⟩ := ofName_eq_virtual_iff.mpr hparent
    obtain ⟨-, number, hnumber, hdigits, rfl⟩ := hparent
    have hlast : splitAtLast? functionMarker.toList (parent ++ functionMarker ++ number).toList =
        some (parent.toList, number.toList) := by
      -- No other marker begins behind the first character of the one before the number.
      have hmarker : '_' ∉ ['v', 'f'] ++ number.toList := fun hmem => by
        rcases List.mem_append.mp hmem with hmem | hmem
        · exact absurd hmem (by decide)
        · exact absurd (hdigits _ hmem) (by decide)
      have hsplit := splitAtLast?_append parent.toList hmarker
      simpa [functionMarker] using hsplit
    have hascii : (number.toList.all fun c => decide (c.toNat < 128)) = true :=
      List.all_eq_true.mpr fun c hc => by simpa using (isDigit_iff_isDigitSign.mp (hdigits c hc)).1
    have hsigns : number.toList.all Text.isDigitSign = true :=
      List.all_eq_true.mpr fun c hc => (isDigit_iff_isDigitSign.mp (hdigits c hc)).2
    have hlength : 0 < parent.toList.length := by
      simpa [Nat.pos_iff_ne_zero] using h
    rw [ofLastMarker?, hlast, hkind]
    dsimp only
    rw [if_pos ⟨hlength, by simpa using hnumber, hascii, hsigns⟩, String.ofList_toList, virtual?,
      dif_neg h]
  · rw [ofName_eq_primary hfunction, ofLastMarker?]
    split
    · rfl
    · rename_i parent number hsplit
      split
      · rename_i hall
        obtain ⟨hlength, hnumber, hascii, hsigns⟩ := hall
        refine absurd ⟨.ofList parent, ?_, .ofList number, ?_, ?_, ?_⟩ hfunction
        · simpa using List.ne_nil_of_length_pos hlength
        · simpa using hnumber
        · intro c hc
          rw [String.toList_ofList] at hc
          exact isDigit_iff_isDigitSign.mpr
            ⟨by simpa using List.all_eq_true.mp hascii c hc, List.all_eq_true.mp hsigns c hc⟩
        · rw [← String.toList_inj, eq_of_splitAtLast? hsplit]
          simp
      · rfl

/-- **Which names are those of virtual functions.** A name is classified as a virtual function of a
parent exactly if the parent has a name and the name is that one, the marker and ASCII digits; any
other name is that of a primary function. So the parent is told by the name, also where the marker
occurs several times, and a classification by the last marker in the name has the same result: it
never finds a virtual function whose parent has no name. -/
theorem classification_follows_grammar :
    (∀ name parent, (∃ h, DeviceKind.ofName name = .virtual parent h) ↔
      IsFunctionName name parent) ∧
    (∀ name, (¬∃ parent, IsFunctionName name parent) → DeviceKind.ofName name = .primary) ∧
    (∀ name parent other, IsFunctionName name parent → IsFunctionName name other →
      parent = other) ∧
    ∀ name, DeviceKind.ofLastMarker? name = .ok (DeviceKind.ofName name) :=
  ⟨fun _ _ => DeviceKind.ofName_eq_virtual_iff, fun _ => DeviceKind.ofName_eq_primary,
    fun _ _ _ => IsFunctionName.unique, DeviceKind.ofLastMarker?_eq⟩

/-- Two markers, a marker that is part of the parent, and markers without a number behind the last
one. -/
theorem classification_follows_grammar_of_markers :
    (∃ h, DeviceKind.ofName "a_vf0_vf1" = .virtual "a_vf0" h) ∧
      (∃ h, DeviceKind.ofName "_vf_vf0" = .virtual "_vf" h) ∧
      DeviceKind.ofName "x_vf_vf" = .primary ∧
      ∀ parent, IsFunctionName "a_vf0_vf1" parent → parent = "a_vf0" := by
  obtain ⟨hvirtual, hprimary, hunique, -⟩ := classification_follows_grammar
  have hname : IsFunctionName "a_vf0_vf1" "a_vf0" :=
    ⟨by decide, "1", by decide, List.all_eq_true.mp (by decide), by decide +kernel⟩
  have hmarkers : IsFunctionName "_vf_vf0" "_vf" :=
    ⟨by decide, "0", by decide, List.all_eq_true.mp (by decide), by decide +kernel⟩
  refine ⟨(hvirtual _ _).mpr hname, (hvirtual _ _).mpr hmarkers, hprimary _ ?_,
    fun parent h => hunique _ _ _ h hname⟩
  rintro ⟨parent, h⟩
  obtain ⟨hparent, hkind⟩ := (hvirtual _ _).mpr h
  have hnone : DeviceKind.ofName "x_vf_vf" = .primary := by decide
  rw [hnone] at hkind
  cases hkind

end SliceAgent
