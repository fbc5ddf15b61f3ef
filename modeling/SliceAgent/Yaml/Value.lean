import SliceAgent.Decimal.Binary64
import SliceAgent.Text.Quoted
import SliceAgent.Yaml.Tag

/-!
# YAML values

A collection may hold itself, so collections are cells that are referred to by number; all other
values are an `Atom`. A `Value` is an item together with the cells that it may refer to.

Texts hold code points, which need not be characters. Only atoms are keys. Numbers and truth values
that are equal are the same key (`Atom.isSameKey`). As values of their own they are compared by
`Value.same`, where what is no number differs from itself.

`Value.quoted?` writes a value with its texts in quotes, `Value.shown?` shows a text bare; neither
can write whole numbers that are too long. A collection within itself is written as dots.

The members of a set do not come in the order in which they were written. They lie in a table and
come in the order of their places there. A number has a residue that says where its place is looked
for first; if that is taken, others are tried in turn. Members that are no numbers have no places of
their own: a set with one of them keeps the order in which it was written.
-/

namespace SliceAgent.Yaml

/-! ### Atoms -/

/-- A value that is no collection. -/
inductive Atom where
  | null
  | bool (b : Bool)
  | int (n : Int)
  | float (x : Binary64)
  | text (t : Text.CodeText)
  | bytes (octets : List UInt8)
  | date (d : Date)
  | time (t : DateTime)
  deriving DecidableEq, Repr

namespace Atom

/-- An atom with a text in quotes; `none` if it cannot be written. -/
def quoted? : Atom → Option String
  | .null => some "None"
  | .bool b => some (if b then "True" else "False")
  | .int n => if withinDigitLimit n then some (toString n) else none
  | .float x => some x.text
  | .text t => some (Text.quotedPoints t)
  | .bytes octets => some (Text.quotedOctets octets)
  | .date d => some d.quoted
  | .time t => some t.quoted

/-- An atom as it is shown by itself; `none` if it cannot be written. -/
def shown? : Atom → Option String
  | .text t => some t.shown
  | .date d => some d.shown
  | .time t => some t.shown
  | a => a.quoted?

/-- The representative of the numbers and truth values that are equal to an atom. -/
def normal : Atom → Atom
  | .bool b => .int (if b then 1 else 0)
  | .float x => (x.toInt?.map .int).getD (.float x)
  | a => a

/-- Whether two atoms are one key. -/
def isSameKey (a b : Atom) : Bool :=
  match a, b with
  | .time t, .time u => t.same u
  | _, _ => a.normal == b.normal

/-- Whether two atoms are equal. -/
def same (a b : Atom) : Bool :=
  match a with
  | .float x => !x.isNaN && a.isSameKey b
  | _ => a.isSameKey b

/-- Whether an atom counts as present in a condition. -/
def isTruthy : Atom → Bool
  | .null => false
  | .bool b => b
  | .int n => n != 0
  | .float x => x.toInt? != some 0
  | .text t => !t.isEmpty
  | .bytes octets => !octets.isEmpty
  | .date _ | .time _ => true

end Atom

/-! ### Collections -/

/-- An atom, or the number of a collection. -/
inductive Item where
  | atom (a : Atom)
  | ref (id : Nat)
  deriving DecidableEq, Repr

/-- A collection. -/
inductive Cell where
  | list (items : List Item)
  | pair (first second : Item)
  | map (entries : List (Atom × Item))
  | set (members : List Atom)
  deriving DecidableEq, Repr

namespace Cell

/-- The number of the members of a collection. -/
def size : Cell → Nat
  | .list items => items.length
  | .pair _ _ => 2
  | .map entries => entries.length
  | .set members => members.length

/-- What a collection is written as within itself. -/
def dots : Cell → String
  | .list _ => "[...]"
  | .pair _ _ => "(...)"
  | .map _ => "\x7b...\x7d"
  | .set _ => "set(...)"

/-- Gives a key a value, in its place if it is there and else at the end. -/
def setEntry (key : Atom) (value : Item) : List (Atom × Item) → List (Atom × Item)
  | [] => [(key, value)]
  | (k, v) :: rest =>
    if k.isSameKey key then (k, value) :: rest else (k, v) :: setEntry key value rest

end Cell

/-- An item with the collections that it may refer to. -/
structure Value where
  cells : Array Cell
  item : Item

namespace Value

/-- A value that is no collection. -/
def ofAtom (a : Atom) : Value :=
  ⟨#[], .atom a⟩

/-- A text as a value. -/
def ofText (s : String) : Value :=
  ofAtom (.text (.ofString s))

/-- Another item among the same collections. -/
def at_ (v : Value) (item : Item) : Value :=
  ⟨v.cells, item⟩

/-- The collection that a value is. -/
def cell? (v : Value) : Option Cell :=
  match v.item with
  | .atom _ => none
  | .ref id => v.cells[id]?

/-- The atom that a value is. -/
def atom? (v : Value) : Option Atom :=
  match v.item with
  | .atom a => some a
  | .ref _ => none

/-- The code points of the text that a value is. -/
def points? (v : Value) : Option Text.CodeText :=
  match v.atom? with
  | some (.text t) => some t
  | _ => none

/-- The text of characters that a value is. -/
def text? (v : Value) : Option String :=
  v.points?.bind Text.CodeText.string?

/-- A text of characters as an atom. -/
def key (s : String) : Atom :=
  .text (.ofString s)

/-- Whether a value is nothing. -/
def isNull (v : Value) : Bool :=
  v.item == .atom .null

/-- The entries of a mapping. -/
def entries? (v : Value) : Option (List (Atom × Item)) :=
  match v.cell? with
  | some (.map entries) => some entries
  | _ => none

/-- The value under a key of a mapping. -/
def under? (v : Value) (key : Atom) : Option Value :=
  (v.entries?.bind fun entries => entries.find? (·.1.isSameKey key)).map fun e => v.at_ e.2

/-- The value under a text of a mapping. -/
def field? (v : Value) (name : String) : Option Value :=
  v.under? (key name)

/-- Whether a value is a list or a mapping. -/
def isTree (v : Value) : Bool :=
  match v.cell? with
  | some (.list _) | some (.map _) => true
  | _ => false

/-- What a value is made of, one after another: the items of a list, the keys of a mapping, the
characters of a text, octets as numbers. -/
def parts? (v : Value) : Option (List Value) :=
  let items : Option (List Item) := match v.cell?, v.atom? with
    | some (.list items), _ => some items
    | some (.pair first second), _ => some [first, second]
    | some (.map entries), _ => some (entries.map fun e => .atom e.1)
    | some (.set members), _ => some (members.map .atom)
    | none, some (.text t) => some (t.map fun p => .atom (.text [p]))
    | none, some (.bytes octets) => some (octets.map fun b => .atom (.int b.toNat))
    | none, _ => none
  items.map (·.map v.at_)

/-- Whether a text occurs within another one. -/
def isWithin (part : Text.CodeText) : Text.CodeText → Bool
  | [] => part.isEmpty
  | p :: r => part.isPrefixOf (p :: r) || isWithin part r

/-- Whether a value holds a text: a mapping as a key, a text as a part of it. Other atoms cannot be
asked. -/
def holds? (v : Value) (name : String) : Option Bool :=
  match v.cell?, v.atom? with
  | some (.list items), _ => some (items.contains (.atom (key name)))
  | some (.pair first second), _ => some ([first, second].contains (.atom (key name)))
  | some (.map entries), _ => some (entries.any (·.1 == key name))
  | some (.set members), _ => some (members.contains (key name))
  | none, some (.text t) => some (isWithin (.ofString name) t)
  | none, _ => none

/-- Whether a value counts as present in a condition. -/
def isTruthy (v : Value) : Bool :=
  match v.item with
  | .atom a => a.isTruthy
  | .ref _ => (v.cell?.map fun c => c.size != 0).getD false

/-- Whether two values are equal. Lists and mappings are not compared. -/
def same (v w : Value) : Bool :=
  match v.item, w.item with
  | .atom a, .atom b => a.same b
  | _, _ => match v.cell?, w.cell? with
    | some (.set xs), some (.set ys) =>
      xs.length == ys.length && xs.all fun x => ys.any x.isSameKey
    | _, _ => false

/-- Texts with commas between them, in brackets. -/
def bracketed (opening closing : String) (ts : List String) : String :=
  opening ++ ", ".intercalate ts ++ closing

/-- An item with every text in quotes; `path` holds the collections that it lies in. -/
def quotedFrom (cells : Array Cell) : Nat → List Nat → Item → Option String
  | _, _, .atom a => a.quoted?
  | 0, _, .ref _ => some ""
  | fuel + 1, path, .ref id =>
    let inner := quotedFrom cells fuel (id :: path)
    match cells[id]? with
    | none => some ""
    | some cell =>
      if path.contains id then some cell.dots
      else match cell with
        | .list items => bracketed "[" "]" <$> items.mapM inner
        | .pair first second => bracketed "(" ")" <$> [first, second].mapM inner
        | .set [] => some "set()"
        | .set members => bracketed "\x7b" "\x7d" <$> members.mapM Atom.quoted?
        | .map entries =>
          let entry (e : Atom × Item) : Option String := do
            return (← e.1.quoted?) ++ ": " ++ (← inner e.2)
          bracketed "\x7b" "\x7d" <$> entries.mapM entry

/-- A value with every text in quotes; `none` if it cannot be written. No collection comes twice on
the way down, so that the fuel suffices. -/
def quoted? (v : Value) : Option String :=
  quotedFrom v.cells (v.cells.size + 1) [] v.item

/-- A value as it is shown by itself; `none` if it cannot be written. -/
def shown? (v : Value) : Option String :=
  match v.item with
  | .atom a => a.shown?
  | .ref _ => v.quoted?

end Value

/-! ### Residues -/

/-- The number that residues are taken by, which is prime. -/
def residueModulus : Nat := 0x1fffffffffffffff

/-- The residue of `m · 2^e`. Doubling sixty-one times changes no residue. -/
def residueOf (m : Nat) (e : Int) : Nat :=
  m * Nat.pow 2 (e.emod 61).toNat % residueModulus

/-- The residue of an infinity. -/
def residueOfInfinity : Nat := 314159

/-- The residue of a number, with its sign; minus one has that of minus two. -/
def residue? (a : Atom) : Option Int :=
  let signedResidue : Option Int := match a.normal with
    | .int n => some (signed (decide (n < 0)) (residueOf n.natAbs 0))
    | .float x => match x.decode with
      | .finite negative m e => some (signed negative (residueOf m e))
      | .infinite negative => some (signed negative residueOfInfinity)
      | .notANumber => none
    | _ => none
  signedResidue.map fun r => if r = -1 then -2 else r

/-! ### Places -/

/-- The number of places for members: more than twice as many as they are, and a power of two. -/
def placeCount (members : Nat) : Nat :=
  if members < 5 then 8 else Nat.pow 2 ((2 * members).log2 + 1)

/-- The number of places that are tried one after another before a jump, if there are so many. -/
def strideLength : Nat := 9

/-- The first place from one on that is free; `rest` is what the residue still has to say. The
jumps come to every place once nothing is left of it, so that the fuel suffices. -/
def freePlace (count : Nat) (isFree : Nat → Bool) : Nat → Nat → Nat → Nat
  | 0, place, _ => place
  | fuel + 1, place, rest =>
    let tried := if place + strideLength < count then strideLength + 1 else 1
    match ((List.range tried).map (place + ·)).find? isFree with
    | some free => free
    | none =>
      let rest := rest / 32
      freePlace count isFree fuel ((5 * place + 1 + rest) % count) rest

/-- Puts a member at a place of its own. -/
def settle (count : Nat) (placed : List (Nat × Atom)) (member : Int × Atom) : List (Nat × Atom) :=
  let word := (member.1 % 0x10000000000000000).toNat
  let isFree (place : Nat) : Bool := !placed.any fun p => p.1 == place
  (freePlace count isFree (count + 16) (word % count) word, member.2) :: placed

/-- The members of a set in their order. -/
def inOrder (members : List Atom) : List Atom :=
  match members.mapM fun a => (residue? a).map (·, a) with
  | none => members
  | some numbers =>
    let placed := numbers.foldl (settle (placeCount members.length)) []
    (placed.mergeSort fun a b => decide (a.1 ≤ b.1)).map (·.2)

/-- Members that all have residues are as many with them. -/
private theorem length_of_mapM {α β : Type} {f : α → Option β} :
    ∀ {xs : List α} {ys : List β}, xs.mapM f = some ys → ys.length = xs.length
  | [], ys, h => by
    rw [List.mapM_nil] at h
    cases h
    rfl
  | x :: xs, ys, h => by
    rw [List.mapM_cons] at h
    cases hx : f x with
    | none => rw [hx] at h; cases h
    | some y =>
      cases hr : xs.mapM f with
      | none => rw [hx, hr] at h; cases h
      | some zs =>
        rw [hx, hr] at h
        cases h
        simp [length_of_mapM hr]

/-- A set has as many members in its order as it has been given. -/
theorem length_inOrder (members : List Atom) : (inOrder members).length = members.length := by
  have fold (count : Nat) (ms : List (Int × Atom)) (placed : List (Nat × Atom)) :
      (ms.foldl (settle count) placed).length = placed.length + ms.length := by
    induction ms generalizing placed with
    | nil => simp
    | cons m r ih => simp only [List.foldl_cons, ih, settle, List.length_cons]; omega
  rw [inOrder]
  split
  · rfl
  · rename_i numbers h
    simp [List.length_mergeSort, fold, length_of_mapM h]

end SliceAgent.Yaml
