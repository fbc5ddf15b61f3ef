import SliceAgent.Files.Access

/-!
# Where a walk looks

What a path leads to depends on few entries of a file tree: those that the walk along the path looks
at (`FileTree.accessLooks`). Two trees that agree at these places answer a call on the path alike
(`access_congr`), however else they differ. So an entry can be removed, with all that lies below it,
and nothing changes for the paths whose walks do not pass through it.

For the other paths a removal can only make a walk end early: a call that succeeds in the smaller
tree has the same result in the larger one (`access_eq_ok_of_extends`).
-/

namespace SliceAgent

/-- An error says that there is no entry where one was looked for. -/
def FileErrno.IsMissing (errno : FileErrno) : Prop :=
  errno = .notFound ∨ errno = .notDirectory

namespace FileTree

variable {t t' : FileTree} {followLast : Bool} {place : Place} {path : Path}

/-! ### The places looked at -/

/-- The places that a walk looks at up to the first link. -/
def advanceLooks (t : FileTree) (place : Place) : List String → List Place
  | [] => []
  | step :: rest =>
    place :: (place ++ [step]) :: match t.stepFrom place step with
      | .on p => advanceLooks t p rest
      | _ => []

/-- The places that a walk looks at, behind links too. -/
def walkLooks (t : FileTree) (followLast : Bool) : Nat → Place → List String → List Place
  | budget, place, rest =>
    t.advanceLooks place rest ++ match t.advance followLast place rest, budget with
      | .link place target rest, budget + 1 =>
        t.walkLooks followLast budget (startOf place target) (steps target ++ rest)
      | _, _ => []

/-- The places that a call on a path looks at. -/
def accessLooks (t : FileTree) (followLast : Bool) (path : Path) : List Place :=
  t.walkLooks followLast linkLimit (startOf t.working path.text) (steps path.text) ++
    (t.follow followLast path.text).toOption.toList

/-! ### Trees that agree where a walk looks -/

/-- Two trees agree at places. -/
def AgreeAt (t t' : FileTree) (places : List Place) : Prop :=
  ∀ p ∈ places, t'.node? p = t.node? p

theorem agreeAt_append {l m : List Place} :
    AgreeAt t t' (l ++ m) ↔ AgreeAt t t' l ∧ AgreeAt t t' m :=
  List.forall_mem_append

theorem stepFrom_congr {step : String} (hplace : t'.node? place = t.node? place)
    (hstep : t'.node? (place ++ [step]) = t.node? (place ++ [step])) :
    t'.stepFrom place step = t.stepFrom place step := by
  rw [stepFrom, stepFrom, stepTo, stepTo, hplace, hstep]

theorem advance_congr {rest : List String} (h : AgreeAt t t' (t.advanceLooks place rest)) :
    t'.advance followLast place rest = t.advance followLast place rest := by
  induction rest generalizing place with
  | nil => rfl
  | cons step rest ih =>
    rw [advanceLooks, AgreeAt, List.forall_mem_cons, List.forall_mem_cons] at h
    obtain ⟨hplace, hstep, hrest⟩ := h
    rw [advance, advance, stepFrom_congr hplace hstep]
    cases hfrom : t.stepFrom place step with
    | on p =>
      rw [hfrom] at hrest
      exact ih hrest
    | _ => rfl

theorem walk_eq (t : FileTree) (followLast : Bool) (budget : Nat) (place : Place)
    (rest : List String) :
    t.walk followLast budget place rest = match t.advance followLast place rest, budget with
      | .arrived place, _ => .ok place
      | .stopped errno, _ => .error errno
      | .link _ _ _, 0 => .error .tooManyLinks
      | .link place target rest, budget + 1 =>
        t.walk followLast budget (startOf place target) (steps target ++ rest) := by
  cases budget <;> exact walk.eq_def t followLast _ place rest

theorem walk_congr {budget : Nat} {rest : List String}
    (h : AgreeAt t t' (t.walkLooks followLast budget place rest)) :
    t'.walk followLast budget place rest = t.walk followLast budget place rest := by
  induction budget generalizing place rest with
  | zero =>
    rw [walkLooks.eq_def, agreeAt_append] at h
    rw [walk_eq t', walk_eq t, advance_congr h.1]
    cases t.advance followLast place rest <;> rfl
  | succ budget ih =>
    rw [walkLooks.eq_def, agreeAt_append] at h
    rw [walk_eq t', walk_eq t, advance_congr h.1]
    cases hadvance : t.advance followLast place rest with
    | link p target rest =>
      rw [hadvance] at h
      exact ih h.2
    | _ => rfl

theorem follow_congr (hworking : t'.working = t.working) {s : String}
    (h : AgreeAt t t' (t.walkLooks followLast linkLimit (startOf t.working s) (steps s))) :
    t'.follow followLast s = t.follow followLast s := by
  rw [follow, follow, hworking, walk_congr h]

/-- **A call depends on the places that it looks at**, and on what it makes of the entry that it
arrives at. -/
theorem access_congr {α : Type} {call call' : Place → FileNode → Except FileErrno α}
    (hworking : t'.working = t.working) (h : AgreeAt t t' (t.accessLooks followLast path))
    (hcall : ∀ place, t.follow followLast path.text = .ok place → call' place = call place) :
    t'.access followLast path call' = t.access followLast path call := by
  rw [accessLooks, agreeAt_append] at h
  rw [access, access, follow_congr hworking h.1]
  cases hfollow : t.follow followLast path.text with
  | error errno => rfl
  | ok place =>
    rw [hfollow] at h
    have hnode : t'.node? place = t.node? place := h.2 place (by simp [Except.toOption])
    simp only [Except.bind, hnode, hcall place hfollow]

/-- The directory that a path leads to, if it may be listed. -/
def directory? (t : FileTree) (path : Path) : Except AccessFault Place :=
  t.access true path fun place node => match node with
    | .directory _ listing => listing.elim (.ok place) .error
    | .inaccessible errno => .error errno
    | _ => .error .notDirectory

/-- Names are listed in the directory that a path leads to. -/
theorem list?_eq_map (t : FileTree) (path : Path) :
    t.list? path = (t.directory? path).map t.namesIn := by
  rw [list?, directory?, access, access]
  split
  · rfl
  · cases t.follow true path.text with
    | error errno => rfl
    | ok place =>
      cases hnode : t.node? place with
      | none =>
        simp only [Except.bind, hnode]
        rfl
      | some node =>
        simp only [Except.bind, hnode]
        cases node with
        | directory searching listing => cases listing <;> rfl
        | _ => rfl

section Calls

variable (hworking : t'.working = t.working)
include hworking

theorem directory?_congr (h : AgreeAt t t' (t.accessLooks true path)) :
    t'.directory? path = t.directory? path :=
  access_congr hworking h fun _ _ => rfl

theorem exists?_congr (h : AgreeAt t t' (t.accessLooks true path)) :
    t'.exists? path = t.exists? path :=
  congrArg orAbsent (access_congr hworking h fun _ _ => rfl)

theorem isDirectory?_congr (h : AgreeAt t t' (t.accessLooks true path)) :
    t'.isDirectory? path = t.isDirectory? path :=
  congrArg orAbsent (access_congr hworking h fun _ _ => rfl)

theorem read?_congr (h : AgreeAt t t' (t.accessLooks true path)) :
    t'.read? path = t.read? path :=
  access_congr hworking h fun _ _ => rfl

theorem readLink?_congr (h : AgreeAt t t' (t.accessLooks false path)) :
    t'.readLink? path = t.readLink? path :=
  access_congr hworking h fun _ _ => rfl

end Calls

/-! ### Smaller trees -/

/-- A tree has every entry of another one, and the same working directory. -/
structure Extends (t t' : FileTree) : Prop where
  node? : ∀ p node, t'.node? p = some node → t.node? p = some node
  working : t'.working = t.working

/-- A name that is found in the smaller tree leads to the same in the larger one. -/
theorem stepTo_of_extends (h : t.Extends t') {name : String}
    (hmet : ∀ errno, t'.stepTo place name = .stopped errno → ¬errno.IsMissing) :
    t.stepTo place name = t'.stepTo place name := by
  rw [stepTo] at hmet ⊢
  rw [stepTo]
  split
  · rfl
  · rename_i hsize
    rw [if_neg hsize] at hmet
    cases hnode : t'.node? (place ++ [name]) with
    | none =>
      rw [hnode] at hmet
      exact absurd (.inl rfl) (hmet .notFound rfl)
    | some node => rw [h.node? _ _ hnode]

/-- A step that finds all entries that it looks for leads to the same in a larger tree. -/
theorem stepFrom_of_extends (h : t.Extends t') {step : String}
    (hmet : ∀ errno, t'.stepFrom place step = .stopped errno → ¬errno.IsMissing) :
    t.stepFrom place step = t'.stepFrom place step := by
  rw [stepFrom.eq_def] at hmet
  rw [stepFrom, stepFrom]
  cases hplace : t'.node? place with
  | none =>
    rw [hplace] at hmet
    exact absurd (.inr rfl) (hmet .notDirectory rfl)
  | some node =>
    rw [h.node? _ _ hplace]
    cases node with
    | directory searching listing =>
      rw [hplace] at hmet
      dsimp only at hmet ⊢
      split
      · rfl
      · rename_i hempty
        rw [if_neg hempty] at hmet
        cases searching with
        | some errno => rfl
        | none =>
          dsimp only at hmet ⊢
          split
          · rfl
          split
          · rfl
          · rename_i hdot hup
            rw [if_neg hdot, if_neg hup] at hmet
            exact stepTo_of_extends h hmet
    | _ => rfl

theorem advance_of_extends (h : t.Extends t') {rest : List String}
    (hmet : ∀ errno, t'.advance followLast place rest = .stopped errno → ¬errno.IsMissing) :
    t.advance followLast place rest = t'.advance followLast place rest := by
  induction rest generalizing place with
  | nil => rfl
  | cons step rest ih =>
    rw [advance] at hmet
    rw [advance, advance, stepFrom_of_extends h fun errno hstopped => hmet errno
      (by rw [hstopped])]
    cases hfrom : t'.stepFrom place step with
    | on p =>
      rw [hfrom] at hmet
      exact ih hmet
    | _ => rfl

theorem walk_of_extends (h : t.Extends t') {budget : Nat} {rest : List String}
    (hmet : ∀ errno, t'.walk followLast budget place rest = .error errno → ¬errno.IsMissing) :
    t.walk followLast budget place rest = t'.walk followLast budget place rest := by
  have hadvance {budget : Nat} {place : Place} {rest : List String}
      (hmet : ∀ errno, t'.walk followLast budget place rest = .error errno → ¬errno.IsMissing) :
      t.advance followLast place rest = t'.advance followLast place rest := by
    refine advance_of_extends h fun errno hstopped => hmet errno ?_
    rw [walk_eq, hstopped]
  induction budget generalizing place rest with
  | zero =>
    rw [walk_eq t, walk_eq t', hadvance hmet]
    cases t'.advance followLast place rest <;> rfl
  | succ budget ih =>
    rw [walk_eq t, walk_eq t', hadvance hmet]
    cases hlink : t'.advance followLast place rest with
    | link p target rest =>
      refine ih fun errno herrno => hmet errno ?_
      rw [walk_eq, hlink]
      exact herrno
    | _ => rfl

theorem follow_of_extends (h : t.Extends t') {s : String}
    (hmet : ∀ errno, t'.follow followLast s = .error errno → ¬errno.IsMissing) :
    t.follow followLast s = t'.follow followLast s := by
  rw [follow] at hmet ⊢
  rw [follow]
  split
  · rfl
  · rename_i hsize
    rw [if_neg hsize] at hmet
    split
    · rfl
    · rename_i hempty
      rw [if_neg hempty] at hmet
      rw [h.working] at hmet ⊢
      exact walk_of_extends h hmet

/-- A call that finds all entries that it looks for has the same outcome in a larger tree. -/
theorem access_of_extends {α : Type} (h : t.Extends t')
    {call : Place → FileNode → Except FileErrno α}
    (hmet : ∀ f, t'.access followLast path call = .error (.system f) → ¬f.errno.IsMissing) :
    t.access followLast path call = t'.access followLast path call := by
  rw [access] at hmet ⊢
  rw [access]
  split
  · rfl
  · rename_i hnull
    rw [if_neg hnull] at hmet
    have hfollow : ∀ errno, t'.follow followLast path.text = .error errno → ¬errno.IsMissing := by
      intro errno herrno
      exact hmet ⟨errno, path.text⟩ (by rw [herrno]; rfl)
    rw [follow_of_extends h hfollow]
    cases hplace : t'.follow followLast path.text with
    | error errno => rfl
    | ok place =>
      cases hnode : t'.node? place with
      | none =>
        refine absurd (.inl rfl) (hmet ⟨.notFound, path.text⟩ ?_)
        simp only [hplace, Except.bind, hnode]
        rfl
      | some node => simp only [Except.bind, h.node? _ _ hnode, hnode]

theorem access_eq_ok_of_extends {α : Type} (h : t.Extends t')
    {call : Place → FileNode → Except FileErrno α} {result : α}
    (hok : t'.access followLast path call = .ok result) :
    t.access followLast path call = .ok result := by
  rw [access_of_extends h (by simp [hok]), hok]

theorem orAbsent_of_isMissing {f : FileFault} (h : f.errno.IsMissing) :
    orAbsent (.error (.system f)) = .ok false := by
  rw [orAbsent, if_pos]
  rcases h with h | h <;> rw [h] <;> rfl

/-- A test that does not answer no has the same outcome in a larger tree. -/
theorem isDirectory?_of_extends (h : t.Extends t') (hmet : t'.isDirectory? path ≠ .ok false) :
    t.isDirectory? path = t'.isDirectory? path := by
  refine congrArg orAbsent (access_of_extends h fun f hf hmissing => hmet ?_)
  rw [isDirectory?, hf]
  exact orAbsent_of_isMissing hmissing

/-! ### Removed entries -/

/-- Nothing is left at a place that was removed, nor below it, and all else is as before. -/
theorem node?_erase (t : FileTree) {removed : Place} (hremoved : removed ≠ []) (p : Place) :
    (t.erase removed).node? p = if removed <+: p then none else t.node? p := by
  by_cases hbelow : removed <+: p
  · have hp : p ≠ [] := fun h => hremoved (List.prefix_nil.mp (h ▸ hbelow))
    rw [if_pos hbelow, node?, if_neg hp, Option.map_eq_none_iff, erase, List.find?_eq_none]
    intro n hn
    have hkept : removed.isPrefixOf n.1 = false := by simpa using (List.mem_filter.mp hn).2
    simp only [beq_iff_eq]
    rintro rfl
    rw [List.isPrefixOf_iff_prefix.mpr hbelow] at hkept
    cases hkept
  · rw [if_neg hbelow, node?, node?]
    split
    · rfl
    · rw [erase, List.find?_filter]
      congr 2
      funext n
      by_cases hn : n.1 = p
      · simpa [hn, ← Bool.not_eq_true] using hbelow
      · simp [hn]

theorem extends_erase (t : FileTree) {removed : Place} (hremoved : removed ≠ []) :
    t.Extends (t.erase removed) where
  node? p node h := by
    rw [node?_erase t hremoved] at h
    split at h
    · cases h
    · exact h
  working := rfl

/-- What is looked at is neither at a place nor below it. -/
def Avoids (looks : List Place) (removed : Place) : Prop :=
  ∀ p ∈ looks, ¬removed <+: p

/-- A walk that does not pass through a place does not depend on it. -/
theorem agreeAt_erase {removed : Place} (hremoved : removed ≠ []) {places : List Place}
    (h : Avoids places removed) : AgreeAt t (t.erase removed) places := by
  intro p hp
  rw [node?_erase t hremoved, if_neg (h p hp)]

/-! ### Names in a directory -/

/-- A name is listed exactly if there is an entry in its place. -/
theorem mem_namesIn {directory : Place} {name : String} :
    name ∈ t.namesIn directory ↔ (t.node? (directory ++ [name])).isSome = true := by
  have hname (n : Place × FileNode) :
      nameIn? directory n = some name ↔ n.1 = directory ++ [name] := by
    rw [nameIn?]
    split
    · rename_i hdirectory
      rw [List.getLast?_eq_some_iff]
      constructor
      · rintro ⟨before, hbefore⟩
        rw [hbefore, List.dropLast_concat] at hdirectory
        rw [hbefore, hdirectory]
      · exact fun h => ⟨directory, h⟩
    · rename_i hdirectory
      simp only [reduceCtorEq, false_iff]
      intro h
      rw [h, List.dropLast_concat] at hdirectory
      exact hdirectory rfl
  rw [namesIn, List.mem_eraseDups, List.mem_filterMap, node?, if_neg (by simp),
    Option.isSome_map, List.find?_isSome]
  simp only [hname, beq_iff_eq]

/-- An entry that is removed is no longer listed, and all others are. -/
theorem mem_namesIn_erase {directory : Place} {name removed : String} :
    name ∈ (t.erase (directory ++ [removed])).namesIn directory ↔
      name ∈ t.namesIn directory ∧ name ≠ removed := by
  rw [mem_namesIn, mem_namesIn, node?_erase t (by simp)]
  by_cases h : name = removed
  · simp [h]
  · have hbelow : ¬directory ++ [removed] <+: directory ++ [name] := by
      rw [List.prefix_append_right_inj]
      simpa using Ne.symm h
    simp [hbelow, h]

end FileTree

end SliceAgent
