import SliceAgent.Proofs.Partition

/-!
# What is said of a device that is left out

A device that is left out is kept under its name with a text that says why. The text names the first
of the required attributes that cannot be read (`firstUnreadable?`) and the directory in which it
was looked for, and has something to say before that; only of a negative memory size no more is said
than what it is (`DropReason.Names`).

The one text that names nothing is that of a null character in a path. No path of an entry has one:
the entry would not count as a directory, and the paths below it have its characters and those of
the names of attributes (`Path.not_mem_text_child`).
-/

namespace SliceAgent

/-! ### Characters of path texts -/

theorem mem_of_mem_intercalate {sep : List Char} {parts : List (List Char)} {c : Char}
    (h : c ∈ sep.intercalate parts) : c ∈ sep ∨ ∃ p ∈ parts, c ∈ p := by
  induction parts with
  | nil => simp at h
  | cons p rest ih =>
    cases rest with
    | nil => exact .inr ⟨p, by simp, by simpa using h⟩
    | cons q rest =>
      rw [List.intercalate_cons_cons, List.mem_append, List.mem_append] at h
      rcases h with (hp | hsep) | hrest
      · exact .inr ⟨p, by simp, hp⟩
      · exact .inl hsep
      · rcases ih hrest with hsep | ⟨r, hr, hc⟩
        · exact .inl hsep
        · exact .inr ⟨r, List.mem_cons_of_mem _ hr, hc⟩

theorem mem_of_mem_splitSlashes {s p : List Char} {c : Char} (hp : p ∈ splitSlashes s)
    (hc : c ∈ p) : c ∈ s := by
  induction s generalizing p with
  | nil =>
    rw [splitSlashes, List.mem_singleton] at hp
    exact hp ▸ hc
  | cons d rest ih =>
    rw [splitSlashes] at hp
    split at hp
    · rcases List.mem_cons.mp hp with rfl | hp
      · cases hc
      · exact List.mem_cons_of_mem d (ih hp hc)
    · split at hp
      · rename_i hnil
        exact absurd hnil (splitSlashes_ne_nil rest)
      · rename_i first others hsplit
        rcases List.mem_cons.mp hp with rfl | hp
        · rcases List.mem_cons.mp hc with rfl | hc
          · exact List.mem_cons_self
          · exact List.mem_cons_of_mem d (ih (by rw [hsplit]; exact List.mem_cons_self) hc)
        · exact List.mem_cons_of_mem d (ih (by rw [hsplit]; exact List.mem_cons_of_mem _ hp) hc)

namespace Path

variable {c : Char} {s : String} {p : Path}

theorem not_mem_of_mem_parts (h : c ∉ s.toList) : ∀ part ∈ (ofText s).parts, c ∉ part.toList := by
  intro part hpart hc
  obtain ⟨cs, hcs, rfl⟩ := List.mem_map.mp hpart
  rw [String.toList_ofList] at hc
  exact h (mem_of_mem_splitSlashes (List.mem_filter.mp hcs).1 hc)

/-- A path is written with slashes, the characters of its components, and a dot if it has none. -/
theorem not_mem_text (hp : p.IsProper) (hslash : c ≠ '/') (hdot : c ≠ '.')
    (hparts : ∀ part ∈ p.parts, c ∉ part.toList) : c ∉ p.text.toList := by
  have hroot : c ∉ p.root.toList := by rcases hp.root with h | h | h <;> simp [h, hslash]
  rw [text]
  split
  · simpa using hdot
  · rw [String.toList_append, List.mem_append, String.toList_intercalate]
    rintro (h | h)
    · exact hroot h
    · rcases mem_of_mem_intercalate h with h | ⟨part, hpart, h⟩
      · exact hslash (by simpa using h)
      · obtain ⟨part, hmem, rfl⟩ := List.mem_map.mp hpart
        exact hparts part hmem h

/-- A character that neither text has is none of the path that the one denotes below the other. -/
theorem not_mem_text_child {attr : String} (hattr : IsComponent attr) (hslash : c ≠ '/')
    (hdot : c ≠ '.') (hs : c ∉ s.toList) (hc : c ∉ attr.toList) :
    c ∉ ((ofText s).child attr).text.toList := by
  refine not_mem_text ((isProper_ofText s).child attr) hslash hdot fun part hpart => ?_
  rw [child_of_isComponent hattr, List.mem_append, List.mem_singleton] at hpart
  rcases hpart with hpart | rfl
  · exact not_mem_of_mem_parts hs part hpart
  · exact hc

end Path

/-! ### Faults name what they are about -/

namespace Sysfs

/-- A required attribute is named by a component without a null character. -/
structure IsAttribute (attr : String) : Prop extends IsComponent attr where
  no_null : nullCharacter ∉ attr.toList

/-- A fault names an attribute and the directory in which it was looked for; nothing does so of a
null character. -/
def Interruption.Names (attr directory : String) : Interruption → Prop
  | .fault f => f.attr = attr ∧ f.path = directory
  | .nullCharacter => False
  | .system _ => True

section Readers

variable {t : FileTree} {directory attr : String} {i : Interruption}

theorem not_mem_text_child (hattr : IsAttribute attr) (hnull : nullCharacter ∉ directory.toList) :
    nullCharacter ∉ ((Path.ofText directory).child attr).text.toList :=
  Path.not_mem_text_child hattr.toIsComponent (by decide) (by decide) hnull hattr.no_null

theorem isAttribute_linkName : IsAttribute linkName :=
  ⟨isComponent_linkName, by decide⟩

theorem isAttribute_numaAttribute : IsAttribute numaAttribute :=
  ⟨isComponent_numaAttribute, by decide⟩

theorem valueFault_of_readText (hattr : IsAttribute attr) (hnull : nullCharacter ∉ directory.toList)
    (h : readText t directory attr = .error i) : ∃ cause, i = valueFault directory attr cause := by
  unfold readText at h
  split at h
  · exact ⟨_, (Except.error.inj h).symm⟩
  · rename_i hread
    exact absurd hread (access_ne_nullCharacter (not_mem_text_child hattr hnull))
  · obtain ⟨f, -, hf⟩ := mapError_eq_error_iff.mp h
    exact ⟨_, hf.symm⟩

theorem valueFault_of_readInt64 (hattr : IsAttribute attr)
    (hnull : nullCharacter ∉ directory.toList) (h : readInt64 t directory attr = .error i) :
    ∃ cause, i = valueFault directory attr cause := by
  rcases bind_eq_error.mp h with htext | ⟨text, -, hvalue⟩
  · exact valueFault_of_readText hattr hnull htext
  · obtain ⟨cause, -, hcause⟩ := mapError_eq_error_iff.mp hvalue
    exact ⟨cause, hcause.symm⟩

theorem names_of_readText (hattr : IsAttribute attr) (hnull : nullCharacter ∉ directory.toList)
    (h : readText t directory attr = .error i) : i.Names attr directory := by
  obtain ⟨cause, rfl⟩ := valueFault_of_readText hattr hnull h
  exact ⟨rfl, rfl⟩

theorem names_of_readInt64 (hattr : IsAttribute attr) (hnull : nullCharacter ∉ directory.toList)
    (h : readInt64 t directory attr = .error i) : i.Names attr directory := by
  obtain ⟨cause, rfl⟩ := valueFault_of_readInt64 hattr hnull h
  exact ⟨rfl, rfl⟩

theorem names_of_readNumaNode (hnull : nullCharacter ∉ directory.toList)
    (h : readNumaNode t directory = .error i) : i.Names numaAttribute directory := by
  rw [readNumaNode_eq] at h
  split at h
  · obtain rfl := Except.error.inj h
    exact trivial
  · obtain rfl := Except.error.inj h
    exact ⟨rfl, rfl⟩
  · -- What is behind the link is told of the directory that the link is in.
    obtain ⟨behind, hbehind, rfl⟩ := mapError_eq_error_iff.mp h
    obtain ⟨cause, rfl⟩ := valueFault_of_readInt64 isAttribute_numaAttribute
      (not_mem_text_child isAttribute_linkName hnull) hbehind
    exact ⟨rfl, rfl⟩

theorem names_of_readBusAddress (hnull : nullCharacter ∉ directory.toList)
    (h : readBusAddress t directory = .error i) : i.Names linkName directory := by
  unfold readBusAddress at h
  dsimp only at h
  split at h
  · obtain rfl := Except.error.inj h
    exact ⟨rfl, rfl⟩
  · rename_i hread
    exact absurd hread (access_ne_nullCharacter (not_mem_text_child isAttribute_linkName hnull))
  · rename_i target hread
    cases haddress : linkAddress? target with
    | none =>
      rw [haddress] at h
      obtain rfl := Except.error.inj h
      exact ⟨rfl, rfl⟩
    | some address =>
      rw [haddress] at h
      cases h

end Readers

theorem append_ne_empty {a : String} (h : a ≠ "") (b : String) : a ++ b ≠ "" :=
  fun hab => h (String.append_eq_empty_iff.mp hab).1

theorem ValueCause.text_ne_empty (c : ValueCause) : c.text ≠ "" := by
  cases c with
  | unreadable f => exact append_ne_empty (by decide) _
  | undecodable f => exact append_ne_empty (by decide) _
  | notInteger text => exact append_ne_empty (by decide) _
  | signed text => exact append_ne_empty (by decide) _
  | outOfInt64 text => exact append_ne_empty (append_ne_empty (by decide) _) _
  | outOfUInt32 text => exact append_ne_empty (append_ne_empty (by decide) _) _

theorem Cause.text_ne_empty (c : Cause) : c.text ≠ "" := by
  cases c with
  | value c => exact c.text_ne_empty
  | dangling => decide
  | behindLink c attr path =>
    refine append_ne_empty ?_ _
    split <;> decide
  | linkUnreadable f => exact append_ne_empty (by decide) _
  | noAddress target => exact append_ne_empty (by decide) _

end Sysfs

/-! ### Reasons -/

/-- The attributes that a device has to show, in the order in which they are looked at, and whether
they can be read. -/
def requiredReadings (t : FileTree) (directory : String) : List (String × Bool) :=
  [("uuid", (Sysfs.readText t directory "uuid").isOk),
    ("memory_size", (readMemorySize t directory).isOk),
    (Sysfs.numaAttribute, (Sysfs.readNumaNode t directory).isOk),
    (Sysfs.linkName, (Sysfs.readBusAddress t directory).isOk)]

/-- The first required attribute that cannot be read. -/
def firstUnreadable? (t : FileTree) (directory : String) : Option String :=
  ((requiredReadings t directory).find? (!·.2)).map (·.1)

namespace DropReason

/-- The text of a reason names an attribute and the directory behind what it has to say, or tells
that the memory size is negative. -/
def Names (attr directory : String) (reason : DropReason) : Prop :=
  (∃ text, text ≠ "" ∧ reason.message = text ++ ": " ++ attr ++ " (" ++ directory ++ ")") ∨
    attr = "memory_size" ∧ ∃ n : Int, n < 0 ∧ reason.message = s!"negative memory_size {n}"

theorem names_of_ofInterruption {attr directory : String} {i : Sysfs.Interruption}
    {reason : DropReason} (h : i.Names attr directory)
    (hreason : DeviceEnd.ofInterruption i = .dropped reason) : reason.Names attr directory := by
  cases i with
  | fault f =>
    obtain rfl := DeviceEnd.dropped.inj hreason
    obtain ⟨rfl, rfl⟩ := h
    exact .inl ⟨_, f.cause.text_ne_empty, rfl⟩
  | nullCharacter => exact h.elim
  | system f => cases hreason

end DropReason

section Failure

variable {t : FileTree} {directory : String} {reason : DropReason}

theorem isAttribute_uuid : Sysfs.IsAttribute "uuid" :=
  ⟨⟨by decide, by decide, by decide⟩, by decide⟩

theorem isAttribute_memorySize : Sysfs.IsAttribute "memory_size" :=
  ⟨⟨by decide, by decide, by decide⟩, by decide⟩

theorem isOk_of_eq_ok {ε α : Type} {outcome : Except ε α} {a : α} (h : outcome = .ok a) :
    outcome.isOk = true := by
  rw [h]
  rfl

theorem isOk_of_eq_error {ε α : Type} {outcome : Except ε α} {e : ε} (h : outcome = .error e) :
    outcome.isOk = false := by
  rw [h]
  rfl

theorem isOk_readMemorySize {n : Int} (h : Sysfs.readInt64 t directory "memory_size" = .ok n)
    (hn : 0 ≤ n) : (readMemorySize t directory).isOk = true := by
  have hsize : Sysfs.readInt64 t directory "memory_size" = .ok (n.toNat : Int) := by
    rw [h, Int.toNat_of_nonneg hn]
  exact isOk_of_eq_ok (readMemorySize_eq_ok_iff.mpr hsize)

/-- A reading that leaves a device out does so for the first attribute that cannot be read, and says
so. -/
theorem FirstFailure.names (h : FirstFailure t directory (.dropped reason))
    (hnull : nullCharacter ∉ directory.toList) :
    ∃ attr, firstUnreadable? t directory = some attr ∧ reason.Names attr directory := by
  generalize he : DeviceEnd.dropped reason = e at h
  unfold firstUnreadable? requiredReadings
  cases h with
  | uuid h =>
    refine ⟨"uuid", ?_, DropReason.names_of_ofInterruption
      (Sysfs.names_of_readText isAttribute_uuid hnull h) he.symm⟩
    rw [isOk_of_eq_error h]
    rfl
  | memorySize huuid h =>
    refine ⟨"memory_size", ?_, DropReason.names_of_ofInterruption
      (Sysfs.names_of_readInt64 isAttribute_memorySize hnull h) he.symm⟩
    have hsize := isOk_of_eq_error (readMemorySize_eq_error_iff.mpr (.inl ⟨_, h, rfl⟩))
    rw [isOk_of_eq_ok huuid, hsize]
    rfl
  | negativeMemory huuid h hn =>
    obtain rfl := DeviceEnd.dropped.inj he
    refine ⟨"memory_size", ?_, .inr ⟨rfl, _, hn, rfl⟩⟩
    have hsize := isOk_of_eq_error (readMemorySize_eq_error_iff.mpr (.inr ⟨_, h, hn, rfl⟩))
    rw [isOk_of_eq_ok huuid, hsize]
    rfl
  | numaNode huuid hsize hn h =>
    refine ⟨Sysfs.numaAttribute, ?_, DropReason.names_of_ofInterruption
      (Sysfs.names_of_readNumaNode hnull h) he.symm⟩
    rw [isOk_of_eq_ok huuid, isOk_readMemorySize hsize hn, isOk_of_eq_error h]
    rfl
  | busAddress huuid hsize hn hnode h =>
    refine ⟨Sysfs.linkName, ?_, DropReason.names_of_ofInterruption
      (Sysfs.names_of_readBusAddress hnull h) he.symm⟩
    rw [isOk_of_eq_ok huuid, isOk_readMemorySize hsize hn, isOk_of_eq_ok hnode, isOk_of_eq_error h]
    rfl

end Failure

/-- **What is said of a device that is left out.** Whether a scan returns or is ended early, the
text that is kept for a device names the first required attribute that cannot be read and the
directory in which it was looked for, and has something to say of it, or it tells the memory size
that is negative. -/
theorem Scanner.lastErrors_name (s : Scanner) (t : FileTree) :
    ∀ e ∈ (s.scan t).2.lastErrors, ∃ attr,
      firstUnreadable? t (s.root.child e.1).text = some attr ∧
        e.2.Names attr (s.root.child e.1).text := by
  intro e he
  change e ∈ (scanClass t s.root).drops at he
  unfold scanClass at he
  split at he
  · cases he
  · cases he
  · rename_i names hnames
    obtain ⟨lacks, hmem⟩ := Scan.mem_drops.mp he
    have hfinding := (Scan.ofNames_spec (findingOf t s.root) names).2 _ hmem
    obtain ⟨hdirectory, hfailure⟩ := findingOf_eq_dropped_iff.mp ⟨lacks, hfinding⟩
    exact hfailure.names (not_mem_of_orAbsent hdirectory)

/-- A device without an identifier, and one with a negative memory size. -/
example :
    let t := (FileTree.empty ["w"]).applyAll
      [.directory "class/a", .file "class/b/uuid" [85], .file "class/b/memory_size" [45, 49]]
    let said (name : String) : Option String := match findingOf t (.ofText "class") name with
      | .ok (.dropped reason _) => some reason.message
      | _ => none
    said "a" = some ("failed to read attribute: [Errno 2] No such file or directory: " ++
      "'class/a/uuid': uuid (class/a)") ∧ said "b" = some "negative memory_size -1" := by
  decide +kernel

end SliceAgent
