/-!
# Code points

An escape in a text may give one half of a pair of surrogates alone. Such a half is a code point but
no character. A `CodeText` is a list of code points, and holds halves and characters alike: it is a
text of characters exactly if there is no half in it (`CodeText.string?_ofString`).
-/

namespace SliceAgent.Text

/-- A character, or half of a pair of surrogates by its code. -/
inductive CodePoint where
  | char (c : Char)
  | half (code : Nat)
  deriving DecidableEq, Repr

namespace CodePoint

/-- Whether a code is one half of a pair. -/
def isHalfCode (n : Nat) : Bool :=
  decide (0xd800 ≤ n ∧ n < 0xe000)

/-- The code point of a code. -/
def ofCode (n : Nat) : CodePoint :=
  if isHalfCode n then .half n else .char (Char.ofNat n)

/-- The code of a code point. -/
def code : CodePoint → Nat
  | .char c => c.toNat
  | .half n => n

/-- The character that a code point is. -/
def char? : CodePoint → Option Char
  | .char c => some c
  | .half _ => none

/-- Whether a code point is a character with a property. -/
def satisfies (f : Char → Bool) (p : CodePoint) : Bool :=
  p.char?.any f

/-- The character that a code point is; for a half a question mark, which like a half is no letter,
no digit and no blank. -/
def standIn : CodePoint → Char
  | .char c => c
  | .half _ => '?'

end CodePoint

/-- A text that may hold halves of pairs of surrogates. -/
abbrev CodeText := List CodePoint

namespace CodeText

/-- A text of characters. -/
def ofChars (cs : List Char) : CodeText :=
  cs.map .char

/-- A text of characters. -/
def ofString (s : String) : CodeText :=
  ofChars s.toList

/-- The characters of a text that holds no half. -/
def characters? (t : CodeText) : Option (List Char) :=
  t.mapM CodePoint.char?

/-- The characters of a text, with one that means nothing in place of each half. -/
def standIns (t : CodeText) : List Char :=
  t.map CodePoint.standIn

/-- The text of characters that a text is. -/
def string? (t : CodeText) : Option String :=
  t.characters?.map .ofList

/-- The character that stands for what is none. -/
def replacement : Char :=
  Char.ofNat 0xfffd

/-- The character that two halves make together. -/
def joined (high low : Nat) : Char :=
  Char.ofNat (0x10000 + (high - 0xd800) * 0x400 + (low - 0xdc00))

/-- A text as it is shown: halves that follow each other are one character, all others cannot be
shown. -/
def shownChars : CodeText → List Char
  | [] => []
  | .char c :: r => c :: shownChars r
  | .half high :: .half low :: r =>
    if high < 0xdc00 ∧ 0xdc00 ≤ low then joined high low :: shownChars r
    else replacement :: shownChars (.half low :: r)
  | .half _ :: r => replacement :: shownChars r

/-- A text as it is shown. -/
def shown (t : CodeText) : String :=
  .ofList t.shownChars

theorem characters?_ofChars (cs : List Char) : (ofChars cs).characters? = some cs := by
  induction cs with
  | nil => rfl
  | cons c r ih => simp_all [ofChars, characters?, CodePoint.char?]

/-- A text of characters is one. -/
@[simp]
theorem string?_ofString (s : String) : (ofString s).string? = some s := by
  simp [string?, ofString, characters?_ofChars]

theorem shownChars_ofChars (cs : List Char) : (ofChars cs).shownChars = cs := by
  induction cs with
  | nil => rfl
  | cons c r ih =>
    rw [ofChars, List.map_cons, shownChars, ← ofChars, ih]

/-- A text of characters is shown as it is. -/
@[simp]
theorem shown_ofString (s : String) : (ofString s).shown = s := by
  simp [shown, ofString, shownChars_ofChars]

end CodeText

end SliceAgent.Text
