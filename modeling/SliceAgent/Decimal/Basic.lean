import SliceAgent.Text.Basic

/-!
# Decimal numbers

`natOfDigits?` reads a run of ASCII digits in a given base. A numeral may be more than that: it may
have white space at its ends, digits of any script, single underscores between digits, and in base
16 a mark before them. `Numeral.int?` reads the whole number that it stands for.

A `Decimal` is a coefficient times a power of ten; `Decimal.ofChars?` reads its numeral, digits
with an optional point and an optional exponent, without rounding.

Whole numbers are converted to and from decimal text only up to `digitLimit` digits.
-/

namespace SliceAgent

/-! ### Runs of digits -/

/-- The value of a run of digit values in a base, the most significant one first. -/
def natOfDigits (base : Nat) (ds : List Nat) : Nat :=
  ds.foldl (fun n d => n * base + d) 0

@[simp]
theorem natOfDigits_nil (base : Nat) : natOfDigits base [] = 0 := rfl

theorem natOfDigits_append_singleton (base : Nat) (ds : List Nat) (d : Nat) :
    natOfDigits base (ds ++ [d]) = natOfDigits base ds * base + d := by
  simp [natOfDigits]

/-- The number that a non-empty run of characters stands for, of which each is a digit. -/
def natOfRun? (base : Nat) (digit? : Char → Option Nat) (cs : List Char) : Option Nat :=
  match cs.mapM digit? with
  | some (d :: ds) => some (natOfDigits base (d :: ds))
  | _ => none

/-- A non-empty run of ASCII digits of the base, whose letters may have either case. -/
def natOfDigits? (base : Nat) (cs : List Char) : Option Nat :=
  natOfRun? base (fun c => (Text.hexValue? c).filter (· < base)) cs

/-- A sign, true for minus, and the characters after it. -/
def takeSign : List Char → Bool × List Char
  | '-' :: r => (true, r)
  | '+' :: r => (false, r)
  | cs => (false, cs)

/-- Negates on demand. -/
def signed (negative : Bool) (n : Nat) : Int :=
  if negative then -(n : Int) else n

/-- The most decimal digits that a whole number is read from or written with. -/
def digitLimit : Nat := 4300

/-- Whether a number can be written in decimal within the limit. -/
def withinDigitLimit (n : Int) : Bool :=
  decide (n.natAbs < Nat.pow 10 digitLimit)

/-- What is said of a number that is too long to be written. -/
def digitLimitMessage : String :=
  s!"Exceeds the limit ({digitLimit} digits) for integer string conversion; " ++
    "use sys.set_int_max_str_digits() to increase the limit"

/-- What is said of a numeral of a number of digits that are too many. -/
def tooManyDigitsMessage (count : Nat) : String :=
  s!"Exceeds the limit ({digitLimit} digits) for integer string conversion: value has {count} " ++
    "digits; use sys.set_int_max_str_digits() to increase the limit"

/-! ### Numerals -/

namespace Numeral

/-- Drops underscores between digits; `none` if an underscore stands anywhere else. -/
def dropUnderscores? (isDigit : Char → Bool) : Bool → List Char → Option (List Char)
  | _, [] => some []
  | afterDigit, '_' :: c :: r =>
    if afterDigit && isDigit c then (dropUnderscores? isDigit true r).map (c :: ·) else none
  | _, ['_'] => none
  | _, c :: r => (dropUnderscores? isDigit (isDigit c) r).map (c :: ·)

/-- The characters of a numeral without white space at its ends and underscores. -/
def chars? (cs : List Char) : Option (List Char) :=
  dropUnderscores? (fun c => (Text.digitValue? c).isSome) false (Text.dropEnds Text.isSpace cs)

/-- The value of a digit of a base: a decimal digit of any script or an ASCII letter. -/
def digit? (base : Nat) (c : Char) : Option Nat :=
  ((Text.digitValue? c).or (Text.hexValue? c)).filter (· < base)

/-- Takes off the mark of base 16, a zero and an `x`, and tells whether there is one. -/
def takeMark : List Char → Bool × List Char
  | zero :: mark :: r =>
    if Text.digitValue? zero = some 0 ∧ (mark = 'x' ∨ mark = 'X') then (true, r)
    else (false, zero :: mark :: r)
  | cs => (false, cs)

/-- The whole number that a numeral stands for in base 10 or 16. Only base 10 has a limit, and only
base 16 a mark, behind which an underscore may stand as behind a digit. -/
def int? (base : Nat) (cs : List Char) : Option Int :=
  let (negative, rest) := takeSign (Text.dropEnds Text.isSpace cs)
  let (isMarked, body) := if base = 16 then takeMark rest else (false, rest)
  (dropUnderscores? (fun c => (digit? base c).isSome) isMarked body).bind fun run =>
    if base = 10 ∧ digitLimit < run.length then none
    else (natOfRun? base (digit? base) run).map (signed negative)

end Numeral

/-! ### Decimals -/

/-- A coefficient times a power of ten, with a sign that a zero keeps too. -/
structure Decimal where
  negative : Bool
  coefficient : Nat
  exponent : Int
  deriving DecidableEq, Repr

namespace Decimal

/-- The number of decimal digits of a natural number; zero has one. -/
def digitCount (n : Nat) : Nat :=
  (Nat.toDigits 10 n).length

/-- The exponent of the most significant digit. -/
def adjustedExponent (d : Decimal) : Int :=
  d.exponent + digitCount d.coefficient - 1

/-- Reads an exponent: nothing, or the letter `e` of either case and a whole number. -/
def exponentOfChars? (digit? : Char → Option Nat) : List Char → Option Int
  | [] => some 0
  | c :: r =>
    if c = 'e' ∨ c = 'E' then (natOfRun? 10 digit? (takeSign r).2).map (signed (takeSign r).1)
    else none

/-- Reads a numeral: an optional sign, digits with an optional point among or around them, and an
optional exponent. The digits are those that `digit?` knows. -/
def ofChars? (digit? : Char → Option Nat) (cs : List Char) : Option Decimal :=
  let (negative, body) := takeSign cs
  let isDigit (c : Char) := (digit? c).isSome
  let whole := body.takeWhile isDigit
  let afterWhole := body.dropWhile isDigit
  let afterPoint := match afterWhole with
    | '.' :: r => r
    | _ => []
  let fraction := afterPoint.takeWhile isDigit
  let rest := match afterWhole with
    | '.' :: r => r.dropWhile isDigit
    | r => r
  let digits := (whole ++ fraction).filterMap digit?
  if digits.isEmpty then none
  else (exponentOfChars? digit? rest).map fun e =>
    ⟨negative, natOfDigits 10 digits, e - fraction.length⟩

/-- The value of a decimal number with the part behind the point dropped. -/
def truncate (d : Decimal) : Int :=
  signed d.negative <|
    if d.coefficient = 0 then 0
    else if 0 ≤ d.exponent then d.coefficient * Nat.pow 10 d.exponent.toNat
    else if (digitCount d.coefficient : Int) ≤ -d.exponent then 0
    else d.coefficient / Nat.pow 10 (-d.exponent).toNat

end Decimal

/-- The quotient rounded to the nearest whole number, a half to the even neighbour. -/
def divHalfEven (n d : Nat) : Nat :=
  let q := n / d
  let r := n % d
  if 2 * r < d then q else if 2 * r = d then q + q % 2 else q + 1

end SliceAgent
