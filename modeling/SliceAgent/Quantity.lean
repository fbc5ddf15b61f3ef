import SliceAgent.Decimal.Basic
import SliceAgent.Json.Writer
import SliceAgent.Text.Basic

/-!
# Quantities

A quantity is a whole number with a family of suffixes. In the binary family the number is
written with the largest of the suffixes `Ki` to `Ei` whose power of 1024 divides it
(`binaryExponent`), in the decimal family without one.

A quantity is read from a JSON number as it is, and from any other value through its text: a
decimal number and an optional suffix. With a suffix the product is rounded to `precision`
significant digits, a half to the even neighbour; without one nothing is rounded. The part behind
the point is dropped at the end.

`readQuantity` is the whole reading; `QuantityFault` lists the ways in which it can fail.
-/

namespace SliceAgent

/-! ### Writing -/

/-- The suffix family of a quantity. -/
inductive QuantityFormat where
  | binary
  | decimal
  deriving DecidableEq, Repr

/-- The format of a name. -/
def QuantityFormat.ofName? : String → Option QuantityFormat
  | "BinarySI" => some .binary
  | "DecimalSI" => some .decimal
  | _ => none

/-- A whole number and how it is written. -/
structure Quantity where
  value : Int
  format : QuantityFormat := .binary
  deriving DecidableEq, Repr

namespace Quantity

/-- The suffixes of the binary family; the suffix at place `k` stands for `1024 ^ k`. -/
def binarySuffixes : List String :=
  ["", "Ki", "Mi", "Gi", "Ti", "Pi", "Ei"]

/-- How often 1024 divides a number, up to a bound. -/
def powersOf1024 : Nat → Int → Nat
  | 0, _ => 0
  | bound + 1, v => if v % 1024 = 0 then powersOf1024 bound (v / 1024) + 1 else 0

/-- The place of the suffix that a number is written with. -/
def binaryExponent (v : Int) : Nat :=
  if v = 0 then 0 else powersOf1024 6 v

/-- The place of the suffix of a quantity. -/
def exponent (q : Quantity) : Nat :=
  match q.format with
  | .binary => binaryExponent q.value
  | .decimal => 0

/-- The number before the suffix. -/
def number (q : Quantity) : Int :=
  q.value / (Nat.pow 1024 q.exponent : Nat)

/-- The text of a quantity. -/
def text (q : Quantity) : String :=
  toString q.number ++ binarySuffixes.getD q.exponent ""

/-- Whether the number before the suffix is short enough to be written. -/
def isWritable (q : Quantity) : Bool :=
  withinDigitLimit q.number

end Quantity

/-! ### Reading -/

/-- Why a value is no quantity. -/
inductive QuantityFault where
  | notANumber (numeral : String)
  | unknownSuffix (text : String)
  | outOfRange (text : String)
  | undefined
  | infinite
  deriving DecidableEq, Repr

/-- The wording of a fault. -/
def QuantityFault.message : QuantityFault → String
  | .notANumber s => s!"Invalid number format: {s}"
  | .unknownSuffix s => s!"{s} has unknown suffix"
  | .outOfRange s => s!"Invalid quantity: {s}"
  | .undefined => "cannot convert NaN to integer"
  | .infinite => "cannot convert Infinity to integer"

namespace Quantity

/-- A number as a numeral may denote it. -/
inductive Number where
  | finite (d : Decimal)
  | infinite
  | undefined (signals : Bool)
  deriving DecidableEq, Repr

/-- The significant digits that a product keeps. -/
def precision : Nat := 28

/-- The largest exponent of the leading digit of a product. -/
def productLimit : Int := 999999

/-- The largest exponent of the leading digit of a numeral; a zero is its own leading digit. -/
def numeralLimit : Int := 999999999999999999

/-- The least exponent of the last digit of a numeral. -/
def numeralFloor : Int := -1999999999999999997

/-- Whether a number has exponents that a decimal can hold. -/
def holds (d : Decimal) : Bool :=
  decide (numeralFloor ≤ d.exponent ∧ d.adjustedExponent ≤ numeralLimit)

/-- The number that the words for infinity and for no number stand for. -/
def wordOfChars? (cs : List Char) : Option Number :=
  let word := String.ofList ((takeSign cs).2.map Char.toLower)
  if word = "inf" ∨ word = "infinity" then some .infinite
  else
    let named (name : String) : Bool :=
      name.toList.isPrefixOf word.toList &&
        (word.toList.drop name.length).all fun c => (Text.digitValue? c).isSome
    if named "nan" then some (.undefined false)
    else if named "snan" then some (.undefined true)
    else none

/-- Reads a numeral: blank ends and underscores do not count, and digits may be of any script. -/
def numberOfText? (s : String) : Option Number :=
  let cs := (Text.dropEnds Text.isBlank s.toList).filter (· != '_')
  match Decimal.ofChars? Text.digitValue? cs with
  | some d => if holds d then some (.finite d) else none
  | none => wordOfChars? cs

/-- The letters of suffixes and the power of the base that each stands for. -/
def suffixPower? : Char → Option Int
  | 'n' => some (-3)
  | 'u' => some (-2)
  | 'm' => some (-1)
  | 'K' | 'k' => some 1
  | 'M' => some 2
  | 'G' => some 3
  | 'T' => some 4
  | 'P' => some 5
  | 'E' => some 6
  | _ => none

/-- A suffix: a letter, in the binary family with an `i` after it. -/
structure Suffix where
  letter : Char
  power : Int
  isBinary : Bool
  deriving DecidableEq, Repr

/-- Splits a text into its numeral and its suffix, if it has one. -/
def splitSuffix (s : String) : String × Option Suffix :=
  match s.toList.reverse with
  | 'i' :: c :: r =>
    match suffixPower? c with
    | some p => (.ofList r.reverse, some ⟨c, p, true⟩)
    | none => (s, none)
  | c :: r =>
    match suffixPower? c with
    | some p => (.ofList r.reverse, some ⟨c, p, false⟩)
    | none => (s, none)
  | [] => (s, none)

/-- The binary family has neither fractions nor a small `k`. -/
def Suffix.isKnown (s : Suffix) : Bool :=
  !s.isBinary || (decide (0 < s.power) && s.letter != 'k')

/-- Rounds to the significant digits of a product, a half to the even neighbour. -/
def roundDigits (d : Decimal) : Decimal :=
  let extra := Decimal.digitCount d.coefficient - precision
  if extra = 0 then d
  else
    { d with
      coefficient := divHalfEven d.coefficient (Nat.pow 10 extra)
      exponent := d.exponent + extra }

/-- The product of a number and the power that a suffix stands for. -/
def scale (d : Decimal) (s : Suffix) : Decimal :=
  roundDigits <|
    if s.isBinary then { d with coefficient := d.coefficient * Nat.pow 1024 s.power.toNat }
    else { d with exponent := d.exponent + 3 * s.power }

/-- The number that a text stands for. -/
def numberOfQuantity (text : String) : Except QuantityFault Number :=
  let (numeral, suffix?) := splitSuffix text
  match numberOfText? numeral, suffix? with
  | none, _ => .error (.notANumber numeral)
  | some n, none => .ok n
  -- The numeral is judged before the suffix.
  | some n, some suffix =>
    if !suffix.isKnown then .error (.unknownSuffix text)
    else match n with
      | .finite d =>
        let product := scale d suffix
        if product.coefficient ≠ 0 ∧ productLimit < product.adjustedExponent then
          .error (.outOfRange text)
        else .ok (.finite product)
      | .undefined true => .error (.outOfRange text)
      | n => .ok n

/-- The whole number before the point. -/
def Number.truncate : Number → Except QuantityFault Int
  | .finite d => .ok d.truncate
  | .infinite => .error .infinite
  | .undefined _ => .error .undefined

/-- The whole number before the point of a floating-point number. -/
def truncateFloat (x : Binary64) : Except QuantityFault Int :=
  match x.decode with
  | .finite negative m e =>
    .ok (signed negative (if 0 ≤ e then m * Nat.pow 2 e.toNat else m / Nat.pow 2 (-e).toNat))
  | .infinite _ => .error .infinite
  | .notANumber => .error .undefined

end Quantity

/-- The whole number that a value stands for as a quantity. -/
def readQuantity : Json → Except QuantityFault Int
  | .int n => .ok n
  | .bool b => .ok (if b then 1 else 0)
  | .float x => Quantity.truncateFloat x
  | v => (Quantity.numberOfQuantity v.shown).bind Quantity.Number.truncate

end SliceAgent
