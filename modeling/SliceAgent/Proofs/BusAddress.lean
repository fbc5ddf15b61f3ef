import SliceAgent.Proofs.Findings
import Mathlib.Combinatorics.Enumerative.DyckWord

/-!
# Bus addresses of link targets

The components of a link target are read as brackets: `..` closes what the component before it
opened. The bus address is the component that is opened and never closed again, with nothing left
open behind it, so what comes after it is balanced (`Sysfs.StandsLast`). Such a place is unique, and
the stack of open components finds it (`Sysfs.linkAddress?_eq_some_iff`).

The stack holds more than the address: each open component stands before a balanced rest in the same
way, which is what carries the induction (`Sysfs.exists_of_foldl_eq_cons`).

A normal form keeps the open components and puts what could not be closed before them
(`Sysfs.foldl_pushNormal`), so the address is the last component of the normal form of the target as
well, unless that is no name (`Sysfs.linkAddress?_eq_normalAddress?`).
-/

namespace SliceAgent.Sysfs

/-! ### Components as brackets -/

/-- A component as a bracket: `..` closes what another component opens. -/
def bracket (c : String) : DyckStep :=
  if c = ".." then .D else .U

/-- Components that take back one another, with nothing left: as brackets, no beginning of them has
more that close than open, and in total there are as many of both. -/
def IsBalanced (cs : List String) : Prop :=
  ∃ w : DyckWord, w.toList = cs.map bracket

theorem bracket_dots : bracket ".." = .D := if_pos rfl

theorem bracket_of_ne {c : String} (h : c ≠ "..") : bracket c = .U := if_neg h

namespace IsBalanced

variable {cs ds : List String}

theorem nil : IsBalanced [] := ⟨0, rfl⟩

theorem append (hcs : IsBalanced cs) (hds : IsBalanced ds) : IsBalanced (cs ++ ds) := by
  obtain ⟨v, hv⟩ := hcs
  obtain ⟨w, hw⟩ := hds
  refine ⟨v + w, ?_⟩
  rw [List.map_append, ← hv, ← hw]
  rfl

theorem enclose {c : String} (hc : c ≠ "..") (h : IsBalanced cs) :
    IsBalanced (c :: (cs ++ [".."])) := by
  obtain ⟨w, hw⟩ := h
  refine ⟨w.nest, ?_⟩
  rw [List.map_cons, List.map_append, bracket_of_ne hc, ← hw]
  rfl

/-- What opens behind balanced components and what is balanced again cannot be their rest. -/
theorem not_of_append {before : List String} {c : String} (hc : c ≠ "..") (hcs : IsBalanced cs) :
    ¬IsBalanced (before ++ c :: cs) := by
  rintro ⟨w, hw⟩
  obtain ⟨v, hv⟩ := hcs
  have htotal := w.count_U_eq_count_D
  have hprefix := w.count_D_le_count_U (before.map bracket).length
  have hbalanced := v.count_U_eq_count_D
  rw [hw, List.map_append, List.map_cons, bracket_of_ne hc] at htotal hprefix
  rw [List.take_left] at hprefix
  rw [hv] at hbalanced
  simp only [List.count_append, List.count_cons, hbalanced] at htotal
  simp at htotal
  omega

end IsBalanced

/-! ### The stack of open components -/

/-- Components that close no more than they and those on top open leave alone what lies below. -/
theorem foldl_openComponent_append (cs opened below : List String)
    (h : ∀ i, ((cs.map bracket).take i).count .D ≤
      ((cs.map bracket).take i).count .U + opened.length) :
    ∃ left, cs.foldl openComponent (opened ++ below) = left ++ below ∧
      left.length + (cs.map bracket).count .D = opened.length + (cs.map bracket).count .U := by
  induction cs generalizing opened with
  | nil => exact ⟨opened, rfl, rfl⟩
  | cons c r ih =>
    by_cases hc : c = ".."
    · subst hc
      have hopened : 1 ≤ opened.length := by simpa [bracket_dots] using h 1
      obtain ⟨a, rest, rfl⟩ := List.exists_cons_of_length_pos hopened
      have hrest : ∀ i, ((r.map bracket).take i).count .D ≤
          ((r.map bracket).take i).count .U + rest.length := by
        intro i
        have hi := h (i + 1)
        simp [bracket_dots] at hi
        omega
      obtain ⟨left, hleft, hlength⟩ := ih rest hrest
      refine ⟨left, hleft, ?_⟩
      simp [bracket_dots]
      omega
    · have hrest : ∀ i, ((r.map bracket).take i).count .D ≤
          ((r.map bracket).take i).count .U + (c :: opened).length := by
        intro i
        have hi := h (i + 1)
        simp [bracket_of_ne hc] at hi
        simp
        omega
      obtain ⟨left, hleft, hlength⟩ := ih (c :: opened) hrest
      refine ⟨left, ?_, ?_⟩
      · rw [List.foldl_cons, openComponent, if_neg hc]
        exact hleft
      · simp [bracket_of_ne hc]
        simp at hlength
        omega

/-- Balanced components leave the stack as it was. -/
theorem IsBalanced.foldl_openComponent {cs : List String} (h : IsBalanced cs)
    (below : List String) : cs.foldl openComponent below = below := by
  obtain ⟨w, hw⟩ := h
  have htotal := w.count_U_eq_count_D
  rw [hw] at htotal
  obtain ⟨left, hleft, hlength⟩ := foldl_openComponent_append cs [] below fun i => by
    simpa [hw] using w.count_D_le_count_U i
  have hnil : left = [] := List.eq_nil_of_length_eq_zero (by simp at hlength; omega)
  simpa [hnil] using hleft

/-- **The stack.** What is on top of it stands before a balanced rest, and what lies below is what
the components before it opened. -/
theorem exists_of_foldl_eq_cons {cs rest : List String} {c : String}
    (h : cs.foldl openComponent [] = c :: rest) :
    ∃ before after, cs = before ++ c :: after ∧ c ≠ ".." ∧ IsBalanced after ∧
      before.foldl openComponent [] = rest := by
  -- By length: a last `..` asks for the stack below it, and then for the one below what it closes.
  induction hn : cs.length using Nat.strongRecOn generalizing cs c rest with
  | ind n ih =>
    subst hn
    rcases List.eq_nil_or_concat cs with rfl | ⟨init, last, rfl⟩
    · cases h
    rw [List.concat_eq_append, List.foldl_concat, openComponent] at h
    split at h
    · rename_i hlast
      -- The last `..` closes `a`, which was opened on top of `c`.
      obtain ⟨a, ha⟩ : ∃ a, init.foldl openComponent [] = a :: c :: rest := by
        cases hinit : init.foldl openComponent [] with
        | nil => simp [hinit] at h
        | cons a stack => exact ⟨a, by simpa [hinit] using h⟩
      obtain ⟨before', inner, rfl, hdots, hinner, hstack⟩ := ih init.length (by simp) ha rfl
      obtain ⟨before, outer, rfl, hc, houter, hbefore⟩ := ih before'.length (by simp) hstack rfl
      refine ⟨before, outer ++ a :: (inner ++ [".."]), ?_, hc, houter.append (hinner.enclose hdots),
        hbefore⟩
      simp [hlast]
    · rename_i hlast
      obtain ⟨rfl, rfl⟩ := List.cons.inj h
      exact ⟨init, [], by simp, hlast, .nil, rfl⟩

/-! ### The address -/

/-- A component stands last in a list: it opens, and what comes after it is balanced. -/
structure StandsLast (parts before : List String) (c : String) (after : List String) : Prop where
  parts_eq : parts = before ++ c :: after
  ne_dots : c ≠ ".."
  balanced : IsBalanced after

/-- One component stands last at most, at one place. -/
theorem StandsLast.unique {parts before before' after after' : List String} {c c' : String}
    (h : StandsLast parts before c after) (h' : StandsLast parts before' c' after') :
    before = before' ∧ c = c' ∧ after = after' := by
  have hparts := h.parts_eq.symm.trans h'.parts_eq
  rcases List.append_eq_append_iff.mp hparts with ⟨mid, rfl, hmid⟩ | ⟨mid, rfl, hmid⟩
  · cases mid with
    | nil => simpa using hmid
    | cons d mid =>
      obtain ⟨-, rfl⟩ := List.cons.inj hmid
      exact absurd h.balanced (h'.balanced.not_of_append h'.ne_dots)
  · cases mid with
    | nil => simpa [eq_comm] using hmid
    | cons d mid =>
      obtain ⟨-, rfl⟩ := List.cons.inj hmid
      exact absurd h'.balanced (h.balanced.not_of_append h.ne_dots)

/-- **The address** of a target is the component that stands last. -/
theorem linkAddress?_eq_some_iff {target c : String} :
    linkAddress? target = some c ↔
      ∃ before after, StandsLast (components target) before c after := by
  rw [linkAddress?]
  constructor
  · intro h
    obtain ⟨rest, hrest⟩ := List.head?_eq_some_iff.mp h
    obtain ⟨before, after, hparts, hc, hafter, -⟩ := exists_of_foldl_eq_cons hrest
    exact ⟨before, after, hparts, hc, hafter⟩
  · rintro ⟨before, after, hparts, hc, hafter⟩
    rw [hparts, List.foldl_append, List.foldl_cons, hafter.foldl_openComponent, openComponent,
      if_neg hc]
    rfl

/-- An address is the name of an entry. -/
theorem isComponent_of_linkAddress? {target c : String} (h : linkAddress? target = some c) :
    IsComponent c ∧ c ≠ ".." := by
  obtain ⟨before, after, hparts, hc, -⟩ := linkAddress?_eq_some_iff.mp h
  exact ⟨isComponent_of_mem (s := target) (by rw [hparts]; simp), hc⟩

theorem readBusAddress_eq {t : FileTree} {directory target : String}
    (h : t.readLink? (linkPath directory) = .ok target) :
    readBusAddress t directory = (linkAddress? target).elim
      (.error (.fault ⟨.noAddress target, linkName, directory⟩)) .ok := by
  unfold readBusAddress
  change t.readLink? ((Path.ofText directory).child linkName) = _ at h
  simp only [h]

theorem readBusAddress_eq_ok_iff {t : FileTree} {directory target c : String}
    (h : t.readLink? (linkPath directory) = .ok target) :
    readBusAddress t directory = .ok c ↔ linkAddress? target = some c := by
  rw [readBusAddress_eq h]
  cases linkAddress? target <;> simp

/-! ### Normal forms -/

/-- The components that are open were among those that were gone through, and none is `..`. -/
theorem mem_of_mem_foldl_openComponent {cs : List String} {c : String}
    (h : c ∈ cs.foldl openComponent []) : c ∈ cs ∧ c ≠ ".." := by
  induction cs using List.reverseRecOn with
  | nil => cases h
  | append_singleton init last ih =>
    rw [List.foldl_concat, openComponent] at h
    split at h
    · obtain ⟨hmem, hc⟩ := ih (List.mem_of_mem_tail h)
      exact ⟨List.mem_append_left _ hmem, hc⟩
    · rename_i hlast
      rcases List.mem_cons.mp h with rfl | h
      · exact ⟨by simp, hlast⟩
      · obtain ⟨hmem, hc⟩ := ih h
        exact ⟨List.mem_append_left _ hmem, hc⟩

/-- A normal form keeps the open components, on top of the `..` that closed nothing. -/
theorem foldl_pushNormal (isRooted : Bool) (cs : List String) :
    ∃ k, cs.foldl (Path.pushNormal isRooted) [] =
      cs.foldl openComponent [] ++ List.replicate k ".." := by
  -- From the end: what the last component does depends on the stack that those before it leave.
  induction cs using List.reverseRecOn with
  | nil => exact ⟨0, rfl⟩
  | append_singleton init last ih =>
    obtain ⟨k, hk⟩ := ih
    rw [List.foldl_concat, List.foldl_concat, hk, openComponent]
    by_cases hlast : last = ".."
    · subst hlast
      cases hstack : init.foldl openComponent [] with
      | nil =>
        cases k with
        | zero =>
          cases isRooted with
          | true => exact ⟨0, rfl⟩
          | false => exact ⟨1, rfl⟩
        | succ k => exact ⟨k + 2, by simp [Path.pushNormal, List.replicate_succ]⟩
      | cons a stack =>
        have ha : a ≠ ".." := (mem_of_mem_foldl_openComponent (by rw [hstack]; simp)).2
        exact ⟨k, by simp [Path.pushNormal, ha]⟩
    · exact ⟨k, by simp [Path.pushNormal, hlast]⟩

/-- Components that open are all kept, behind any `..` that closed nothing. -/
theorem foldl_openComponent_replicate (k : Nat) {cs : List String} (h : ∀ c ∈ cs, c ≠ "..") :
    (List.replicate k ".." ++ cs).foldl openComponent [] = cs.reverse := by
  have hdots : (List.replicate k "..").foldl openComponent [] = [] := by
    induction k with
    | zero => rfl
    | succ k ih => rwa [List.replicate_succ]
  rw [List.foldl_append, hdots]
  induction cs using List.reverseRecOn with
  | nil => rfl
  | append_singleton init last ih =>
    rw [List.foldl_concat, ih fun c hc => h c (List.mem_append_left _ hc), openComponent,
      if_neg (h last (by simp)), List.reverse_concat]

section Normal

variable (target : String)

/-- The components of the normal form of a target. -/
theorem parts_normal : ∃ k, (Path.ofText target).normal.parts =
    List.replicate k ".." ++ ((components target).foldl openComponent []).reverse := by
  obtain ⟨k, hk⟩ := foldl_pushNormal ((Path.ofText target).root != "") (components target)
  refine ⟨k, ?_⟩
  change ((components target).foldl (Path.pushNormal ((Path.ofText target).root != ""))
    []).reverse = _
  rw [hk, List.reverse_append, List.reverse_replicate]

theorem isProper_normal : (Path.ofText target).normal.IsProper where
  root := (Path.isProper_ofText target).root
  parts := by
    obtain ⟨k, hk⟩ := parts_normal target
    rw [hk]
    intro c hc
    rcases List.mem_append.mp hc with hc | hc
    · obtain rfl := List.eq_of_mem_replicate hc
      exact ⟨by decide, by decide, by decide⟩
    · exact isComponent_of_mem (mem_of_mem_foldl_openComponent (List.mem_reverse.mp hc)).1

/-- The text of a path without components has none. -/
theorem components_text_of_nil {p : Path} (hp : p.IsProper) (hparts : p.parts = []) :
    components p.text = [] := by
  rcases hp.root with hroot | hroot | hroot <;> rw [Path.text, hroot, hparts] <;> decide

theorem components_text_normal :
    components (Path.ofText target).normal.text = (Path.ofText target).normal.parts := by
  have hproper := isProper_normal target
  by_cases hparts : (Path.ofText target).normal.parts = []
  · rw [components_text_of_nil hproper hparts, hparts]
  · exact congrArg Path.parts (hproper.ofText_text hparts)

/-- The normal form of a target has the same address. -/
theorem linkAddress?_normal :
    linkAddress? (Path.ofText target).normal.text = linkAddress? target := by
  obtain ⟨k, hk⟩ := parts_normal target
  rw [linkAddress?, components_text_normal, hk, foldl_openComponent_replicate k, linkAddress?,
    List.reverse_reverse]
  intro c hc
  exact (mem_of_mem_foldl_openComponent (List.mem_reverse.mp hc)).2

/-- What comes after the last slash of a text. -/
def lastPart (s : String) : String :=
  .ofList ((splitSlashes s.toList).getLast (splitSlashes_ne_nil _))

/-- What comes after the last slash of the normal form of a target, unless that is no name. -/
def normalAddress? : Option String :=
  let c := lastPart (Path.ofText target).normal.text
  if c = "" ∨ c = "." ∨ c = ".." then none else some c

/-- The text of a path ends in its last component. -/
theorem lastPart_text {p : Path} (hp : p.IsProper) (hparts : p.parts ≠ []) :
    lastPart p.text = p.parts.getLast hparts := by
  have hsplit := hp.splitSlashes_text hparts
  simp only [lastPart, hsplit]
  rw [List.getLast_append_of_ne_nil (by simp [hparts]) (by simpa using hparts), List.getLast_map,
    String.ofList_toList]

/-- **The address of the normal form.** The address is what comes after the last slash of the normal
form, unless that is empty or dots. -/
theorem linkAddress?_eq_normalAddress? : linkAddress? target = normalAddress? target := by
  obtain ⟨k, hk⟩ := parts_normal target
  have hproper := isProper_normal target
  rw [linkAddress?, normalAddress?]
  by_cases hparts : (Path.ofText target).normal.parts = []
  · have hstack : (components target).foldl openComponent [] = [] := by
      rw [hk] at hparts
      simpa using (List.append_eq_nil_iff.mp hparts).2
    rw [hstack]
    rcases hproper.root with hroot | hroot | hroot <;> rw [Path.text, hroot, hparts] <;> decide
  · rw [lastPart_text hproper hparts]
    cases hstack : (components target).foldl openComponent [] with
    | nil =>
      -- Only `..` are left.
      have hdots : ∀ c ∈ (Path.ofText target).normal.parts, c = ".." := by
        rw [hk, hstack, List.reverse_nil, List.append_nil]
        exact fun c => List.eq_of_mem_replicate
      rw [hdots _ (List.getLast_mem hparts)]
      rfl
    | cons c stack =>
      have hlast : (Path.ofText target).normal.parts.getLast hparts = c := by
        simp [hk, hstack]
      have haddress : linkAddress? target = some c := by
        rw [linkAddress?, hstack]
        rfl
      obtain ⟨hc, hdots⟩ := isComponent_of_linkAddress? haddress
      rw [hlast, if_neg]
      · rfl
      · rintro (h | h | h)
        · exact hc.ne_empty h
        · exact hc.ne_dot h
        · exact hdots h

end Normal

end SliceAgent.Sysfs

namespace SliceAgent

open Sysfs in
/-- **Which address a link target has.** Of the components of a target, without empty ones and
single dots, the address is the one that stands last: what comes after it takes itself back, read as
brackets that `..` closes. There is one such component at most, at one place; where there is none,
the fault is one of the link that names its attribute and the directory as the caller wrote it. So
an address is never empty or dots and has no slash, it is what comes after the last slash of the
normal form of the target unless that is no name, and a link to the normal form has the same
address. -/
theorem address_stands_last :
    (∀ (t : FileTree) (directory target : String), t.readLink? (linkPath directory) = .ok target →
      (∀ c, readBusAddress t directory = .ok c ↔
        ∃ before after, StandsLast (components target) before c after) ∧
      ((¬∃ before c after, StandsLast (components target) before c after) →
        ∃ f : Fault, readBusAddress t directory = .error (.fault f) ∧
          f.cause.kind = .link ∧ f.attr = "device" ∧ f.path = directory) ∧
      (∀ c, readBusAddress t directory = .ok c →
        c ≠ "" ∧ c ≠ "." ∧ c ≠ ".." ∧ '/' ∉ c.toList) ∧
      (∀ c, readBusAddress t directory = .ok c ↔ normalAddress? target = some c) ∧
      ∀ (t' : FileTree) (directory' : String),
        t'.readLink? (linkPath directory') = .ok (Path.ofText target).normal.text →
        ∀ c, readBusAddress t' directory' = .ok c ↔ readBusAddress t directory = .ok c) ∧
    ∀ (parts before before' after after' : List String) (c c' : String),
      StandsLast parts before c after → StandsLast parts before' c' after' →
      before = before' ∧ c = c' ∧ after = after' := by
  refine ⟨fun t directory target hlink => ⟨fun c => ?_, fun hnone => ?_, fun c hc => ?_,
    fun c => ?_, fun t' directory' hlink' c => ?_⟩, fun _ _ _ _ _ _ _ => StandsLast.unique⟩
  · rw [readBusAddress_eq_ok_iff hlink, linkAddress?_eq_some_iff]
  · have hmissing : linkAddress? target = none := by
      rw [Option.eq_none_iff_forall_ne_some]
      intro c hc
      obtain ⟨before, after, hlast⟩ := linkAddress?_eq_some_iff.mp hc
      exact hnone ⟨before, c, after, hlast⟩
    rw [readBusAddress_eq hlink, hmissing]
    exact ⟨_, rfl, rfl, rfl, rfl⟩
  · obtain ⟨hcomponent, hdots⟩ :=
      isComponent_of_linkAddress? ((readBusAddress_eq_ok_iff hlink).mp hc)
    exact ⟨hcomponent.ne_empty, hcomponent.ne_dot, hdots, hcomponent.no_slash⟩
  · rw [readBusAddress_eq_ok_iff hlink, linkAddress?_eq_normalAddress?]
  · rw [readBusAddress_eq_ok_iff hlink', readBusAddress_eq_ok_iff hlink, linkAddress?_normal]

/-- Relative and rooted targets, slashes at both ends, and components that are taken back. -/
example :
    ["../../../0000:11:00.0", "//a//b/./", "/../a/b/c/../..", "a/../../b/c/..", "..", "a/..", "/",
      ""].map Sysfs.linkAddress? =
    [some "0000:11:00.0", some "b", some "a", some "b", none, none, none, none] := by
  decide +kernel

open Sysfs in
/-- A link whose last components take themselves back, one to its normal form, and one that leads
nowhere. -/
theorem address_stands_last_of_links :
    let t := (FileTree.empty ["w"]).applyAll
      [.link "d/device" "../a/../0000:11:00.0/b/c/../../",
       .link "e/device" "../0000:11:00.0",
       .link "f/device" "/a/../.."]
    readBusAddress t "d" = .ok "0000:11:00.0" ∧
      readBusAddress t "e" = .ok "0000:11:00.0" ∧
      ∃ f : Fault, readBusAddress t "f" = .error (.fault f) ∧ f.cause.kind = .link ∧
        f.attr = "device" ∧ f.path = "f" := by
  intro t
  obtain ⟨hlinks, -⟩ := address_stands_last
  have hd := hlinks t "d" "../a/../0000:11:00.0/b/c/../../" (by decide +kernel)
  have hf := hlinks t "f" "/a/../.." (by decide +kernel)
  have haddress : readBusAddress t "d" = .ok "0000:11:00.0" :=
    (hd.2.2.2.1 _).mpr (by decide +kernel)
  refine ⟨haddress, ?_, hf.2.1 ?_⟩
  · exact (hd.2.2.2.2 t "e" (by decide +kernel) _).mpr haddress
  · rintro ⟨before, c, after, hlast⟩
    have hnone : linkAddress? "/a/../.." = none := by decide +kernel
    cases hnone.symm.trans (linkAddress?_eq_some_iff.mpr ⟨before, after, hlast⟩)

end SliceAgent
