import SliceAgent.Decimal.Basic

/-!
# Binary64 numbers

A `Binary64` is the 64-bit word of a floating-point number, so that equality and order can be
reasoned about. `Binary64.decode` gives its exact meaning, `m · 2^e` with a sign, or an infinity,
or no number; `Binary64.ofRatio` rounds a quotient to the nearest word, a half to the even
neighbour. Arithmetic on times is done by the processor, through `toFloat` and `ofFloat`.

`shortestDigits` finds the fewest decimal digits that read back as the same number, and among
those the ones nearest to it. For each count of digits it tries the two neighbours of the value
on the grid of decimals with that many digits; the reals that round to the number form an
interval around it, whose ends belong to it exactly when the mantissa is even.

`Binary64.text` writes the digits out: in positional notation from `0.0001` up to below `10^16`,
with at least one digit behind the point, and otherwise with an exponent of two digits or more.
-/

namespace SliceAgent

/-! ### Words -/

/-- A floating-point number as its word. -/
structure Binary64 where
  bits : UInt64
  deriving DecidableEq, Repr

namespace Binary64

/-- The meaning of a word. -/
inductive Value where
  | finite (negative : Bool) (mantissa : Nat) (exponent : Int)
  | infinite (negative : Bool)
  | notANumber
  deriving DecidableEq, Repr

/-- The machine number with the same bits. -/
def toFloat (x : Binary64) : Float :=
  .ofBits x.bits

/-- The bits of a machine number. -/
def ofFloat (x : Float) : Binary64 :=
  ⟨x.toBits⟩

/-- The exact meaning: a mantissa below `2^53` and an exponent of at least `-1074`. -/
def decode (x : Binary64) : Value :=
  let n := x.bits.toNat
  let negative := decide (0x8000000000000000 ≤ n)
  let e : Nat := n / 0x10000000000000 % 0x800
  let f : Nat := n % 0x10000000000000
  if e = 2047 then if f = 0 then .infinite negative else .notANumber
  else if e = 0 then .finite negative f (-1074)
  else .finite negative (0x10000000000000 + f) (e - 1075)

/-- Whether the bits stand for no number. -/
def isNaN (x : Binary64) : Bool :=
  x.decode = .notANumber

/-- Whether the number is greater than zero; no number is not. -/
def isPositive (x : Binary64) : Bool :=
  match x.decode with
  | .finite negative m _ => !negative && m != 0
  | .infinite negative => !negative
  | .notANumber => false

/-- The word of a magnitude `m · 2^e` with `m ≤ 2^53`, and `m < 2^52` only at the least exponent.
Magnitudes that are too large give an infinity. -/
def ofScaled (negative : Bool) (m : Nat) (e : Int) : Binary64 :=
  let magnitude :=
    if m < 0x10000000000000 then m
    else (e + 1075).toNat * 0x10000000000000 + (m - 0x10000000000000)
  let word := min magnitude 0x7ff0000000000000
  ⟨.ofNat (word + if negative then 0x8000000000000000 else 0)⟩

/-- The quotient of two natural numbers, times a power of two, rounded to a natural number. -/
def roundScaled (n d : Nat) (e : Int) : Nat :=
  if 0 ≤ e then divHalfEven n (d * Nat.pow 2 e.toNat)
  else divHalfEven (n * Nat.pow 2 (-e).toNat) d

/-- The number nearest to `n / d`, a half going to the even neighbour. -/
def ofRatio (negative : Bool) (n d : Nat) : Binary64 :=
  if n = 0 ∨ d = 0 then ofScaled negative 0 (-1074)
  else
    let guess : Int := (n.log2 : Int) - d.log2 - 52
    let tooLarge :=
      if 0 ≤ guess then decide (n < d * Nat.pow 2 (guess.toNat + 52))
      else decide (n * Nat.pow 2 (-guess).toNat < d * 0x10000000000000)
    let e := max (if tooLarge then guess - 1 else guess) (-1074)
    ofScaled negative (roundScaled n d e) e

/-- The number nearest to a decimal one. -/
def ofDecimal (x : Decimal) : Binary64 :=
  let size := x.exponent + Decimal.digitCount x.coefficient
  if x.coefficient = 0 ∨ size < -400 then ofScaled x.negative 0 (-1074)
  else if 400 < size then ofScaled x.negative 0x20000000000000 971
  else if 0 ≤ x.exponent then ofRatio x.negative (x.coefficient * Nat.pow 10 x.exponent.toNat) 1
  else ofRatio x.negative x.coefficient (Nat.pow 10 (-x.exponent).toNat)

/-- The number nearest to a whole number. -/
def ofInt (n : Int) : Binary64 :=
  ofRatio (n < 0) n.natAbs 1

/-- The whole number that a floating-point number is; `none` if it has a fraction or no value. -/
def toInt? (x : Binary64) : Option Int :=
  match x.decode with
  | .finite negative m e =>
    if 0 ≤ e then some (signed negative (m * Nat.pow 2 e.toNat))
    else if m % Nat.pow 2 (-e).toNat = 0 then some (signed negative (m / Nat.pow 2 (-e).toNat))
    else none
  | _ => none

def positiveInfinity : Binary64 := ⟨0x7ff0000000000000⟩
def negativeInfinity : Binary64 := ⟨0xfff0000000000000⟩
def nan : Binary64 := ⟨0x7ff8000000000000⟩

end Binary64

end SliceAgent

namespace SliceAgent.Binary64

/-! ### The shortest decimal text -/

/-- A positive quotient of natural numbers. -/
structure Ratio where
  num : Nat
  den : Nat

/-- A natural number times a power of two. -/
def Ratio.ofScaled (m : Nat) (e : Int) : Ratio :=
  if 0 ≤ e then ⟨m * Nat.pow 2 e.toNat, 1⟩ else ⟨m, Nat.pow 2 (-e).toNat⟩

/-- A natural number times a power of ten. -/
def Ratio.ofDecimal (c : Nat) (k : Int) : Ratio :=
  if 0 ≤ k then ⟨c * Nat.pow 10 k.toNat, 1⟩ else ⟨c, Nat.pow 10 (-k).toNat⟩

/-- Whether one quotient is smaller than another, by cross-multiplication. -/
def Ratio.lt (a b : Ratio) : Bool :=
  decide (a.num * b.den < b.num * a.den)

/-- The distance of two quotients. -/
def Ratio.distance (a b : Ratio) : Ratio :=
  ⟨max (a.num * b.den) (b.num * a.den) - min (a.num * b.den) (b.num * a.den), a.den * b.den⟩

/-- The quotient divided by a power of ten, rounded down. -/
def Ratio.floorAt (v : Ratio) (k : Int) : Nat :=
  if 0 ≤ k then v.num / (v.den * Nat.pow 10 k.toNat)
  else v.num * Nat.pow 10 (-k).toNat / v.den

/-- The number of digits before the point; zero or less counts the zeros after it. -/
def Ratio.magnitude (v : Ratio) : Int :=
  if v.den ≤ v.num then Decimal.digitCount (v.num / v.den)
  -- Below one: the zeros are counted by the size of the reciprocal.
  else 1 - Decimal.digitCount ((v.den + v.num - 1) / v.num - 1)

/-- The reals that round to `m · 2^e`: both ends, and whether they belong to them. -/
structure Rounding where
  low : Ratio
  high : Ratio
  closed : Bool

/-- Below a power of two the neighbour is only half as far away. -/
def Rounding.around (m : Nat) (e : Int) : Rounding where
  low :=
    if m = 0x10000000000000 ∧ -1074 < e then .ofScaled (4 * m - 1) (e - 2)
    else .ofScaled (2 * m - 1) (e - 1)
  high := .ofScaled (2 * m + 1) (e - 1)
  closed := m % 2 == 0

/-- Whether a quotient rounds to the number. -/
def Rounding.contains (r : Rounding) (x : Ratio) : Bool :=
  if r.closed then !x.lt r.low && !r.high.lt x else r.low.lt x && x.lt r.high

/-- The neighbour of `v` on the grid of multiples of `10^k` that rounds to the same number; the
nearer one if both do. -/
def gridNeighbour? (v : Ratio) (r : Rounding) (k : Int) : Option Nat :=
  let c := v.floorAt k
  let below := Ratio.ofDecimal c k
  let above := Ratio.ofDecimal (c + 1) k
  match r.contains below && c != 0, r.contains above with
  | true, true =>
    let left := below.distance v
    let right := above.distance v
    if left.lt right then some c
    else if right.lt left then some (c + 1)
    -- Halfway between the two, the even one.
    else some (c + c % 2)
  | true, false => some c
  | false, true => some (c + 1)
  | false, false => none

/-- Tries one digit more as long as none was found; seventeen are always enough. -/
def searchDigits (v : Ratio) (r : Rounding) : Nat → Int → Nat × Int
  | 0, k => (v.floorAt k, k)
  | n + 1, k =>
    match gridNeighbour? v r k with
    | some c => (c, k)
    | none => searchDigits v r n (k - 1)

/-- The digits `c` and the exponent `k` of the shortest decimal `c · 10^k` for `m · 2^e`. -/
def shortestDigits (m : Nat) (e : Int) : Nat × Int :=
  let v := Ratio.ofScaled m e
  searchDigits v (.around m e) 17 (v.magnitude - 1)

/-- Drops the zeros at the end of a run of digits, keeping the first digit. -/
def dropZeros : List Char → List Char
  | [] => []
  | d :: ds => d :: (ds.reverse.dropWhile (· == '0')).reverse

/-- Digits with the point after the first `point` of them. -/
def positional (digits : List Char) (point : Int) : String :=
  if point ≤ 0 then "0." ++ .ofList (List.replicate (-point).toNat '0' ++ digits)
  else
    let whole := digits.take point.toNat ++ List.replicate (point.toNat - digits.length) '0'
    let fraction := digits.drop point.toNat
    .ofList whole ++ "." ++ .ofList (if fraction.isEmpty then ['0'] else fraction)

/-- One digit, the others behind a point, and the exponent with its sign. -/
def scientific (digits : List Char) (exponent : Int) : String :=
  let (first, others) := digits.splitAt 1
  let point := if others.isEmpty then "" else "."
  let size := Nat.toDigits 10 exponent.natAbs
  .ofList first ++ point ++ .ofList others ++ "e" ++ (if exponent < 0 then "-" else "+") ++
    .ofList (List.replicate (2 - size.length) '0' ++ size)

/-- The text of `m · 2^e`. -/
def magnitudeText (m : Nat) (e : Int) : String :=
  if m = 0 then "0.0"
  else
    let (c, k) := shortestDigits m e
    let all := Nat.toDigits 10 c
    let point := k + all.length
    let digits := dropZeros all
    if -4 < point ∧ point ≤ 16 then positional digits point else scientific digits (point - 1)

/-- The shortest text that reads back as the number. -/
def text (x : Binary64) : String :=
  match x.decode with
  | .finite negative m e => (if negative then "-" else "") ++ magnitudeText m e
  | .infinite negative => if negative then "-inf" else "inf"
  | .notANumber => "nan"

end SliceAgent.Binary64
