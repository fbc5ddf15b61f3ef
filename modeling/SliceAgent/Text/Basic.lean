/-!
# Characters, lines and parts of a text

A decimal digit is a character of the Unicode category `Nd`. Each script keeps its ten digits
together and in order, so a table of the zeros is enough: `digitValue?` is the distance to the
zero before it. On ASCII it agrees with `Char.isDigit` (`digitValue?_ascii`).

Two sets of blank characters are in use: `isSpace` is the Unicode property `White_Space`, and
`isBlank` adds the four information separators. The blank set contains the ASCII white space
of the core library (`isBlank_of_isWhitespace`). `Text.trim` takes the blank characters off both
ends of a text, `Text.unixLines` writes every line end as one line feed, and `Text.splitLines`
cuts a text at every line boundary.

`Text.parts` cuts a list, such as the characters of a text, at every occurrence of an element; the
parts may be empty, and there is always at least one. Joined by the element they are the list again
(`intercalate_parts`).
-/

namespace SliceAgent.Text

/-! ### Digits -/

/-- The code points of the digit zero, one for each script. -/
def digitZeros : List Nat :=
  [0x30, 0x660, 0x6f0, 0x7c0, 0x966, 0x9e6, 0xa66, 0xae6, 0xb66, 0xbe6, 0xc66, 0xce6, 0xd66, 0xde6,
   0xe50, 0xed0, 0xf20, 0x1040, 0x1090, 0x17e0, 0x1810, 0x1946, 0x19d0, 0x1a80, 0x1a90, 0x1b50,
   0x1bb0, 0x1c40, 0x1c50, 0xa620, 0xa8d0, 0xa900, 0xa9d0, 0xa9f0, 0xaa50, 0xabf0, 0xff10, 0x104a0,
   0x10d30, 0x11066, 0x110f0, 0x11136, 0x111d0, 0x112f0, 0x11450, 0x114d0, 0x11650, 0x116c0,
   0x11730, 0x118e0, 0x11950, 0x11c50, 0x11d50, 0x11da0, 0x16a60, 0x16ac0, 0x16b50, 0x1d7ce,
   0x1d7d8, 0x1d7e2, 0x1d7ec, 0x1d7f6, 0x1e140, 0x1e2f0, 0x1e950, 0x1fbf0]

/-- The value of a decimal digit of any script. -/
def digitValue? (c : Char) : Option Nat :=
  (digitZeros.find? fun z => z ≤ c.toNat && c.toNat < z + 10).map (c.toNat - ·)

/-- Inclusive ranges of the codes of signs for one digit that are not written in decimal numbers:
digits above and below the line, in circles, brackets and with marks. -/
def digitSignRanges : List (Nat × Nat) :=
  [(0xb2, 0xb3), (0xb9, 0xb9), (0x1369, 0x1371), (0x19da, 0x19da), (0x2070, 0x2070),
   (0x2074, 0x2079), (0x2080, 0x2089), (0x2460, 0x2468), (0x2474, 0x247c), (0x2488, 0x2490),
   (0x24ea, 0x24ea), (0x24f5, 0x24fd), (0x24ff, 0x24ff), (0x2776, 0x277e), (0x2780, 0x2788),
   (0x278a, 0x2792), (0x10a40, 0x10a43), (0x10e60, 0x10e68), (0x11052, 0x1105a),
   (0x1f100, 0x1f10a)]

/-- Whether a character is a decimal digit or another sign for one digit. -/
def isDigitSign (c : Char) : Bool :=
  (digitValue? c).isSome || digitSignRanges.any fun r => r.1 ≤ c.toNat && c.toNat ≤ r.2

/-- The value of an ASCII decimal digit. -/
def asciiDigit? (c : Char) : Option Nat :=
  if c.isDigit then some (c.toNat - 48) else none

/-- The value of a digit of base 16, which ASCII letters of both cases continue past nine. -/
def hexValue? (c : Char) : Option Nat :=
  if '0' ≤ c ∧ c ≤ '9' then some (c.toNat - 48)
  else if 'a' ≤ c ∧ c ≤ 'f' then some (c.toNat - 87)
  else if 'A' ≤ c ∧ c ≤ 'F' then some (c.toNat - 55)
  else none

/-- On ASCII the decimal digits are those of the core library. -/
theorem digitValue?_ascii : ∀ n < 128,
    (digitValue? (Char.ofNat n)).isSome = (Char.ofNat n).isDigit := by
  decide +kernel

/-- The lower-case hexadecimal digits of a number, at least `width` of them. -/
def hexDigits (width n : Nat) : String :=
  let ds := Nat.toDigits 16 n
  .ofList (List.replicate (width - ds.length) '0' ++ ds)

/-! ### Blank characters and lines -/

/-- The characters with the Unicode property `White_Space`. -/
def isSpace (c : Char) : Bool :=
  let n := c.toNat
  (9 ≤ n && n ≤ 13) || n == 0x20 || n == 0x85 || n == 0xa0 || n == 0x1680 ||
    (0x2000 ≤ n && n ≤ 0x200a) || n == 0x2028 || n == 0x2029 || n == 0x202f || n == 0x205f ||
    n == 0x3000

/-- White space and the four information separators `U+001C` to `U+001F`. -/
def isBlank (c : Char) : Bool :=
  isSpace c || (0x1c ≤ c.toNat && c.toNat ≤ 0x1f)

/-- Every white space character of the core library is blank. -/
theorem isBlank_of_isWhitespace {c : Char} (h : c.isWhitespace = true) : isBlank c = true := by
  simp only [Char.isWhitespace, Bool.or_eq_true, decide_eq_true_eq] at h
  rcases h with ((rfl | rfl) | rfl) | rfl <;> decide

/-- Drops the characters satisfying `p` from both ends. -/
def dropEnds (p : Char → Bool) (s : List Char) : List Char :=
  ((s.dropWhile p).reverse.dropWhile p).reverse

/-- The text without blank characters at its ends. -/
def trim (s : String) : String :=
  .ofList (dropEnds isBlank s.toList)

/-- Writes a carriage return, with or without a line feed after it, as one line feed. -/
def unixLinesChars : List Char → List Char
  | [] => []
  | '\r' :: '\n' :: r => '\n' :: unixLinesChars r
  | '\r' :: r => '\n' :: unixLinesChars r
  | c :: r => c :: unixLinesChars r

/-- The text with every line end written as one line feed. -/
def unixLines (s : String) : String :=
  .ofList (unixLinesChars s.toList)

/-- The characters that end a line: the ASCII line and form controls, `U+0085` and the two
Unicode separators. -/
def isLineEnd (c : Char) : Bool :=
  let n := c.toNat
  (10 ≤ n && n ≤ 13) || (0x1c ≤ n && n ≤ 0x1e) || n == 0x85 || n == 0x2028 || n == 0x2029

/-- Splits at line ends; `line` holds the characters of the open line, last one first. A text
that ends in a line end has no empty line after it. -/
def splitLinesFrom : List Char → List Char → List String
  | [], [] => []
  | line, [] => [.ofList line.reverse]
  | line, '\r' :: '\n' :: r => .ofList line.reverse :: splitLinesFrom [] r
  | line, c :: r =>
    if isLineEnd c then .ofList line.reverse :: splitLinesFrom [] r
    else splitLinesFrom (c :: line) r

/-- The lines of a text, without their line ends. -/
def splitLines (s : String) : List String :=
  splitLinesFrom [] s.toList

/-! ### Parts -/

section Parts

/-- The parts of a list between the occurrences of an element. -/
def parts {α : Type} [DecidableEq α] (separator : α) : List α → List (List α)
  | [] => [[]]
  | c :: r =>
    match parts separator r with
    | [] => [[c]]
    | p :: ps => if c = separator then [] :: p :: ps else (c :: p) :: ps

variable {α : Type} [DecidableEq α]

theorem parts_ne_nil (separator : α) (cs : List α) : parts separator cs ≠ [] := by
  cases cs with
  | nil => simp [parts]
  | cons c r =>
    rw [parts]
    split
    · simp
    · split <;> simp

/-- Nothing is lost: the parts with the element between them are the list. -/
theorem intercalate_parts (separator : α) (cs : List α) :
    [separator].intercalate (parts separator cs) = cs := by
  induction cs with
  | nil => simp [parts]
  | cons c r ih =>
    rw [parts]
    split
    · exact absurd ‹_› (parts_ne_nil separator r)
    · rename_i p ps h
      rw [h] at ih
      split
      · subst c
        rw [List.intercalate_cons_cons, ih]
        simp
      · cases ps <;> simp_all [List.intercalate_cons_cons]

end Parts

end SliceAgent.Text
