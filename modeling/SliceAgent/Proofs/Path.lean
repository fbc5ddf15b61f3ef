import SliceAgent.Proofs.Walk
import Mathlib.Data.List.Basic

/-!
# Paths and their texts

A path that was read from a text is proper: its components are not empty, no single dots, and have
no slash (`Path.IsProper`). Such a path is given back by its text (`Path.ofText_text`), and a walk
along the text takes its components as they are (`FileTree.steps_text`).

So the way to an entry below a path leads through the path itself: if a call on the entry succeeds,
the path leads to a directory (`FileTree.isDirectory?_of_access_child`).
-/

namespace SliceAgent

/-! ### Texts between slashes -/

theorem splitSlashes_append (a b : List Char) :
    splitSlashes (a ++ '/' :: b) = splitSlashes a ++ splitSlashes b := by
  induction a with
  | nil => simp [splitSlashes]
  | cons c r ih =>
    rw [List.cons_append, splitSlashes, splitSlashes]
    split
    · rw [ih, List.cons_append]
    · obtain ⟨p, ps, hp⟩ := List.exists_cons_of_ne_nil (splitSlashes_ne_nil r)
      rw [ih, hp]
      rfl

theorem splitSlashes_of_not_mem {a : List Char} (h : '/' ∉ a) : splitSlashes a = [a] := by
  induction a with
  | nil => rfl
  | cons c r ih =>
    rw [List.mem_cons, not_or] at h
    rw [splitSlashes, if_neg (Ne.symm h.1), ih h.2]

theorem splitSlashes_intercalate {parts : List (List Char)} (hne : parts ≠ [])
    (h : ∀ p ∈ parts, '/' ∉ p) : splitSlashes (['/'].intercalate parts) = parts := by
  induction parts with
  | nil => exact absurd rfl hne
  | cons p ps ih =>
    rw [List.forall_mem_cons] at h
    cases ps with
    | nil => simpa using splitSlashes_of_not_mem h.1
    | cons q qs =>
      rw [List.intercalate_cons_cons, List.append_assoc, List.singleton_append,
        splitSlashes_append, splitSlashes_of_not_mem h.1, ih (by simp) h.2]
      rfl

/-! ### Proper paths -/

/-- A text that a component of a path can be. -/
structure IsComponent (c : String) : Prop where
  ne_empty : c ≠ ""
  ne_dot : c ≠ "."
  no_slash : '/' ∉ c.toList

theorem isComponent_of_mem {s c : String} (h : c ∈ components s) : IsComponent c := by
  rw [components, List.mem_map] at h
  obtain ⟨p, hp, rfl⟩ := h
  obtain ⟨hsplit, hkept⟩ := List.mem_filter.mp hp
  simp only [Bool.and_eq_true, Bool.not_eq_true', List.isEmpty_eq_false_iff, bne_iff_ne] at hkept
  refine ⟨fun h => hkept.1 ?_, fun h => hkept.2 ?_, ?_⟩
  · simpa using congrArg String.toList h
  · simpa using congrArg String.toList h
  · simpa using not_mem_of_mem_splitSlashes hsplit

/-- Components are kept where empty parts and single dots are dropped. -/
theorem filter_toList_of_isComponent {parts : List String} (h : ∀ c ∈ parts, IsComponent c) :
    (parts.map String.toList).filter (fun p => !p.isEmpty && p != ['.']) =
      parts.map String.toList := by
  rw [List.filter_eq_self]
  intro p hp
  obtain ⟨c, hc, rfl⟩ := List.mem_map.mp hp
  have hdot : c.toList ≠ ['.'] := fun hdot => (h c hc).ne_dot (String.toList_inj.mp hdot)
  simpa [hdot] using (h c hc).ne_empty

namespace Path

/-- A path that a text can denote. -/
structure IsProper (p : Path) : Prop where
  root : p.root = "" ∨ p.root = "/" ∨ p.root = "//"
  parts : ∀ c ∈ p.parts, IsComponent c

variable {p : Path}

theorem isProper_ofText (s : String) : (ofText s).IsProper where
  root := by
    change rootOf s.toList = "" ∨ rootOf s.toList = "/" ∨ rootOf s.toList = "//"
    unfold rootOf
    split <;> simp
  parts _ h := isComponent_of_mem h

theorem IsProper.child (hp : p.IsProper) (s : String) : (p.child s).IsProper := by
  have hs := isProper_ofText s
  simp only [Path.child]
  split
  · refine ⟨hp.root, ?_⟩
    simp only [List.forall_mem_append]
    exact ⟨hp.parts, hs.parts⟩
  · exact hs

/-- A component denotes the path that consists of it. -/
theorem ofText_of_isComponent {c : String} (h : IsComponent c) : ofText c = ⟨"", [c]⟩ := by
  have hroot : rootOf c.toList = "" := by
    have hslash := h.no_slash
    unfold rootOf
    split <;> simp_all
  have hparts : components c = [c] := by
    have hmem : ∀ c' ∈ [c], IsComponent c' := by simpa using h
    have hkept := filter_toList_of_isComponent hmem
    rw [List.map_singleton] at hkept
    rw [components, splitSlashes_of_not_mem h.no_slash, hkept, List.map_singleton,
      String.ofList_toList]
  rw [ofText, hroot, hparts]

theorem child_of_isComponent {c : String} (h : IsComponent c) (p : Path) :
    p.child c = ⟨p.root, p.parts ++ [c]⟩ := by
  rw [child, ofText_of_isComponent h]
  rfl

theorem text_of_parts (hparts : p.parts ≠ []) :
    p.text = p.root ++ "/".intercalate p.parts := by
  rw [text, if_neg fun h => hparts h.2]

/-- The text of a path below another one continues its text. -/
theorem text_child {c : String} (h : IsComponent c) (hparts : p.parts ≠ []) :
    (p.child c).text = p.text ++ "/" ++ c := by
  rw [child_of_isComponent h, text_of_parts (by simp), text_of_parts hparts]
  simp only [String.intercalate_append_of_ne_nil hparts (List.cons_ne_nil c []),
    String.intercalate_singleton, String.append_assoc]

/-- The parts of the text of a proper path: nothing before each slash at its beginning, then its
components. -/
theorem IsProper.splitSlashes_text (hp : p.IsProper) (hparts : p.parts ≠ []) :
    splitSlashes p.text.toList =
      (p.root.toList.map fun _ => []) ++ p.parts.map String.toList := by
  have hslash : ∀ c ∈ p.parts.map String.toList, '/' ∉ c := by
    simp only [List.forall_mem_map]
    exact fun c hc => (hp.parts c hc).no_slash
  have hsplit := splitSlashes_intercalate (by simpa using hparts) hslash
  rw [text_of_parts hparts, String.toList_append, String.toList_intercalate]
  rcases hp.root with hroot | hroot | hroot <;> rw [hroot]
  · exact hsplit
  · simpa [splitSlashes] using hsplit
  · simpa [splitSlashes] using hsplit

/-- The text of a proper path goes on behind its slashes with another character. -/
theorem IsProper.toList_text (hp : p.IsProper) (hparts : p.parts ≠ []) :
    ∃ a rest, p.text.toList = p.root.toList ++ a :: rest ∧ a ≠ '/' := by
  obtain ⟨c, cs, hcs⟩ := List.exists_cons_of_ne_nil hparts
  have hc : IsComponent c := hp.parts c (by simp [hcs])
  obtain ⟨a, as, ha⟩ : ∃ a as, c.toList = a :: as :=
    List.exists_cons_of_ne_nil (by simpa using hc.ne_empty)
  have hslash : a ≠ '/' := fun h => hc.no_slash (by rw [ha, h]; simp)
  rw [text_of_parts hparts, hcs, String.toList_append, String.toList_intercalate, List.map_cons, ha]
  cases cs with
  | nil => exact ⟨a, as, by simp, hslash⟩
  | cons d ds => exact ⟨a, _, by rw [List.map_cons, List.intercalate_cons_cons]; rfl, hslash⟩

/-- A proper path is given back by its text. -/
theorem IsProper.ofText_text (hp : p.IsProper) (hparts : p.parts ≠ []) : ofText p.text = p := by
  have hroot : rootOf p.text.toList = p.root := by
    obtain ⟨a, rest, hrest, hslash⟩ := hp.toList_text hparts
    rw [hrest]
    rcases hp.root with hroot | hroot | hroot <;> rw [hroot] <;> simp [rootOf, hslash]
  have hcomponents : components p.text = p.parts := by
    rw [components, hp.splitSlashes_text hparts, List.filter_append,
      filter_toList_of_isComponent hp.parts]
    simp
  rw [ofText, hroot, hcomponents]

end Path

namespace FileTree

variable {t : FileTree} {followLast : Bool} {p : Path}

/-- A walk takes the components of a proper path as its steps. -/
theorem steps_text (hp : p.IsProper) (hparts : p.parts ≠ []) : steps p.text = p.parts := by
  have hmap : (splitSlashes p.text.toList).map String.ofList =
      (p.root.toList.map fun _ => "") ++ p.parts := by
    simp [hp.splitSlashes_text hparts, Function.comp_def]
  obtain ⟨before, last, hlast⟩ : ∃ before last, p.parts = before ++ [last] :=
    ⟨_, _, (List.dropLast_append_getLast hparts).symm⟩
  have hbefore : before.filter (· != "") = before := by
    refine List.filter_eq_self.mpr fun c hc => ?_
    simpa using (hp.parts c (hlast ▸ List.mem_append_left _ hc)).ne_empty
  simp only [steps]
  rw [hmap, hlast, ← List.append_assoc, List.dropLast_concat, List.getLast?_concat,
    List.filter_append, hbefore]
  simp

theorem startOf_append {s : String} (hs : s ≠ "") (at_ : Place) (rest : String) :
    startOf at_ (s ++ rest) = startOf at_ s := by
  obtain ⟨a, as, ha⟩ : ∃ a as, s.toList = a :: as :=
    List.exists_cons_of_ne_nil (by simpa using hs)
  have hstarts : (s ++ rest).startsWith "/" = s.startsWith "/" := by
    rw [Bool.eq_iff_iff, String.startsWith_string_iff, String.startsWith_string_iff,
      String.toList_append, ha]
    simp
  rw [startOf, startOf, hstarts]

/-- A walk to an entry leads through the directory that the entry lies in. -/
theorem advance_concat (t : FileTree) (followLast : Bool) (place : Place) (steps : List String)
    (step : String) :
    t.advance followLast place (steps ++ [step]) = match t.advance true place steps with
      | .arrived p => t.advance followLast p [step]
      | .stopped errno => .stopped errno
      | .link p target rest => .link p target (rest ++ [step]) := by
  induction steps generalizing place with
  | nil => rfl
  | cons s rest ih =>
    rw [List.cons_append, advance, advance]
    cases t.stepFrom place s with
    | stopped errno => rfl
    | on p => exact ih p
    | link target => simp

/-- A step is taken from a directory only. -/
theorem node?_of_walk_cons {budget : Nat} {place q : Place} {step : String} {rest : List String}
    (h : t.walk followLast budget place (step :: rest) = .ok q) :
    ∃ searching listing, t.node? place = some (.directory searching listing) := by
  cases hplace : t.node? place with
  | none =>
    rw [walk_eq, advance, stepFrom, hplace] at h
    cases h
  | some node =>
    cases node with
    | directory searching listing => exact ⟨searching, listing, rfl⟩
    | _ =>
      rw [walk_eq, advance, stepFrom, hplace] at h
      cases h

theorem walk_of_concat {budget : Nat} {place q : Place} {steps : List String} {step : String}
    (h : t.walk followLast budget place (steps ++ [step]) = .ok q) :
    ∃ p searching listing, t.walk true budget place steps = .ok p ∧
      t.node? p = some (.directory searching listing) := by
  induction budget generalizing place steps with
  | zero =>
    rw [walk_eq, advance_concat] at h
    rw [walk_eq]
    cases hadvance : t.advance true place steps with
    | arrived p =>
      rw [hadvance] at h
      obtain ⟨searching, listing, hp⟩ := node?_of_walk_cons (by rw [walk_eq]; exact h)
      exact ⟨p, searching, listing, rfl, hp⟩
    | stopped errno => rw [hadvance] at h; cases h
    | link p target rest => rw [hadvance] at h; cases h
  | succ budget ih =>
    rw [walk_eq, advance_concat] at h
    rw [walk_eq]
    cases hadvance : t.advance true place steps with
    | arrived p =>
      rw [hadvance] at h
      obtain ⟨searching, listing, hp⟩ := node?_of_walk_cons (by rw [walk_eq]; exact h)
      exact ⟨p, searching, listing, rfl, hp⟩
    | stopped errno => rw [hadvance] at h; cases h
    | link p target rest =>
      rw [hadvance] at h
      dsimp only at h
      rw [← List.append_assoc] at h
      exact ih h

/-- **Below a path.** If a call on an entry below a path succeeds, the path leads to a directory. -/
theorem isDirectory?_of_access_child (hp : p.IsProper) (hparts : p.parts ≠ []) {c : String}
    (hc : IsComponent c) {α : Type} {call : Place → FileNode → Except FileErrno α} {result : α}
    (h : t.access followLast (p.child c) call = .ok result) : t.isDirectory? p = .ok true := by
  have htext : (p.child c).text = p.text ++ "/" ++ c := Path.text_child hc hparts
  have hsteps : steps (p.child c).text = p.parts ++ [c] := by
    rw [steps_text (hp.child c) (by simp [Path.child_of_isComponent hc]),
      Path.child_of_isComponent hc]
  have hne : p.text ≠ "" := by
    obtain ⟨a, rest, ha, -⟩ := hp.toList_text hparts
    intro hempty
    simp [hempty] at ha
  rw [access] at h
  split at h
  · cases h
  · rename_i hnull
    have hnull' : p.text.toList.contains (Char.ofNat 0) = false := by
      rw [htext] at hnull
      simp_all
    have houtcome : ∃ q, t.follow followLast (p.child c).text = .ok q := by
      cases hfollow : t.follow followLast (p.child c).text with
      | error errno => rw [hfollow] at h; cases h
      | ok q => exact ⟨q, rfl⟩
    obtain ⟨q, hq⟩ := houtcome
    rw [follow] at hq
    split at hq
    · cases hq
    split at hq
    · cases hq
    rename_i hsize _
    rw [hsteps, htext, String.append_assoc, startOf_append hne] at hq
    obtain ⟨place, searching, listing, hwalk, hplace⟩ := walk_of_concat hq
    have hfollow : t.follow true p.text = .ok place := by
      have hsize' : ¬pathLimit < p.text.utf8ByteSize := by
        rw [htext, String.utf8ByteSize_append, String.utf8ByteSize_append] at hsize
        omega
      rw [follow, if_neg hsize', if_neg hne, steps_text hp hparts]
      exact hwalk
    rw [isDirectory?, access, hnull', hfollow]
    simp only [Bool.false_eq_true, if_false, Except.bind, hplace]
    rfl

end FileTree

end SliceAgent
