/-!
# Path texts

A path text is cut at its slashes. In a `Path` empty components and single dots are dropped, so
that two texts that differ in those only are the same path; components `..` stay. A path that
begins with exactly two slashes keeps both.

`Path.text` writes a path, the empty one as a dot, and `Path.child` continues it by another path
text, which replaces it if it begins with a slash. `Path.normal` takes the components `..` back.
-/

namespace SliceAgent

/-- The parts of a text between slashes, the empty ones included. -/
def splitSlashes (s : List Char) : List (List Char) :=
  match s with
  | [] => [[]]
  | c :: r =>
    if c = '/' then [] :: splitSlashes r
    else match splitSlashes r with
      | [] => [[c]]
      | p :: ps => (c :: p) :: ps

theorem splitSlashes_ne_nil (s : List Char) : splitSlashes s ≠ [] := by
  cases s with
  | nil => simp [splitSlashes]
  | cons c r =>
    rw [splitSlashes]
    split
    · simp
    · split <;> simp

/-- No part of a split text has a slash. -/
theorem not_mem_of_mem_splitSlashes {s p : List Char} (h : p ∈ splitSlashes s) : '/' ∉ p := by
  induction s generalizing p with
  | nil => simp_all [splitSlashes]
  | cons c r ih =>
    rw [splitSlashes] at h
    split at h
    · rcases List.mem_cons.1 h with rfl | h
      · simp
      · exact ih h
    · rename_i hc
      split at h
      · simp at h
        subst h
        simpa using Ne.symm hc
      · rename_i q qs hq
        rcases List.mem_cons.1 h with rfl | h
        · have := ih (p := q) (by rw [hq]; simp)
          simp [this, Ne.symm hc]
        · exact ih (by rw [hq]; exact List.mem_cons_of_mem _ h)

/-- The components of a path text: its parts without the empty ones and the single dots. -/
def components (s : String) : List String :=
  ((splitSlashes s.toList).filter fun p => !p.isEmpty && p != ['.']).map .ofList

/-- A path: the slashes that it begins with, none, one or two, and its components. -/
structure Path where
  root : String
  parts : List String
  deriving DecidableEq, Repr

namespace Path

/-- The slashes that count at the beginning of a text. -/
def rootOf : List Char → String
  | '/' :: '/' :: '/' :: _ => "/"
  | '/' :: '/' :: _ => "//"
  | '/' :: _ => "/"
  | _ => ""

/-- The path that a text denotes. -/
def ofText (s : String) : Path :=
  ⟨rootOf s.toList, components s⟩

/-- The text of a path. -/
def text (p : Path) : String :=
  if p.root = "" ∧ p.parts = [] then "." else p.root ++ "/".intercalate p.parts

/-- A path below another one, or in its place if it begins with a slash. -/
def child (p : Path) (s : String) : Path :=
  let q := ofText s
  if q.root = "" then ⟨p.root, p.parts ++ q.parts⟩ else q

/-- The path without its last component. -/
def parent (p : Path) : Path :=
  { p with parts := p.parts.dropLast }

/-- Adds a component to those of a path, last one first; `..` takes the last one back. There is
nothing to take back at the root, and elsewhere it stays where there is nothing. -/
def pushNormal (isRooted : Bool) (parts : List String) (c : String) : List String :=
  if c != ".." then c :: parts
  else match parts with
    | [] => if isRooted then [] else [c]
    | last :: before => if last = ".." then c :: parts else before

/-- The path with every `..` taken that can be, without a look at any link. -/
def normal (p : Path) : Path :=
  { p with parts := (p.parts.foldl (pushNormal (p.root != "")) []).reverse }

end Path

end SliceAgent
