import SliceAgent.Decimal.Binary64
import SliceAgent.Text.Basic
import SliceAgent.Text.Lowercase
import SliceAgent.Yaml.Tag

/-!
# Numbers and truth values

A scalar with the tag of a number need not look like one: `intOfText`, `floatOfText` and
`boolOfText` give the value of a text, or the fault of one that has none. Underscores in numbers
do not count, and the parts behind colons are digits to the base of sixty.

Halves of pairs of surrogates are no part of any number, but they are shown in faults.
-/

namespace SliceAgent.Yaml

/-! ### Whole numbers -/

/-- The letter that may stand behind a zero in front of the digits of a base. -/
def baseLetter? : Nat → Option Char
  | 2 => some 'b'
  | 8 => some 'o'
  | 16 => some 'x'
  | _ => none

/-- The value of a digit of a base; the decimal digits are those of all scripts. -/
def digitOfBase? (base : Nat) (c : Char) : Option Nat :=
  ((Text.hexValue? c).orElse fun _ => Text.digitValue? c).filter (· < base)

/-- Drops the letter of a base and the zero in front of it. -/
def dropBaseLetter (base : Nat) : List Char → List Char
  | '0' :: c :: r => if baseLetter? base = some c.toLower then r else '0' :: c :: r
  | cs => cs

/-- The whole number that a text is in a base, with blanks around it and a sign. Decimal numbers
are limited in their digits. -/
def intInBase (base : Nat) (t : Text.CodeText) : Except ScalarFault Int :=
  let (negative, body) := takeSign (Text.dropEnds Text.isSpace t.standIns)
  let body := dropBaseLetter base body
  let digits := body.takeWhile fun c => (digitOfBase? base c).isSome
  if base = 10 ∧ digitLimit < digits.length then .error (.tooManyDigits digits.length)
  else if digits.isEmpty ∨ digits.length < body.length then .error (.noInt base t)
  else .ok (signed negative (natOfDigits base (digits.filterMap (digitOfBase? base))))

/-- The sum of parts to the base of sixty, the most significant one first. -/
def sumOfSixties (parts : List Int) : Int :=
  parts.foldl (fun n d => n * 60 + d) 0

/-- The sign of a number, minus if true, and what follows it. The number has to go on. -/
def signOfNumber : Text.CodeText → Except ScalarFault (Bool × Text.CodeText)
  | [] => .error .emptyNumber
  | .char '-' :: r => .ok (true, r)
  | .char '+' :: r => .ok (false, r)
  | t => .ok (false, t)

/-- The whole number of a text. -/
def intOfText (t : Text.CodeText) : Except ScalarFault Int := do
  let (negative, body) ← signOfNumber (t.filter (· != .char '_'))
  let magnitude ← match body with
    | [] => throw .emptyNumber
    | [.char '0'] => pure 0
    | .char '0' :: .char 'b' :: r => intInBase 2 r
    | .char '0' :: .char 'x' :: r => intInBase 16 r
    | .char '0' :: _ => intInBase 8 body
    | _ =>
      if body.contains (.char ':') then
        sumOfSixties <$> (Text.parts (.char ':') body).mapM (intInBase 10)
      else intInBase 10 body
  return if negative then -magnitude else magnitude

/-! ### Floating-point numbers -/

/-- The number that a text is, with blanks around it: a word or a decimal numeral. -/
def floatOfNumeral (t : Text.CodeText) : Except ScalarFault Binary64 :=
  let trimmed := Text.dropEnds Text.isSpace t.standIns
  let (negative, body) := takeSign trimmed
  let word := String.ofList body
  if word = "inf" ∨ word = "infinity" then
    .ok (if negative then .negativeInfinity else .positiveInfinity)
  else if word = "nan" then .ok .nan
  else match Decimal.ofChars? Text.digitValue? trimmed with
    | some d => .ok (.ofDecimal d)
    | none => .error (.noFloat t)

/-- Adds up parts to the base of sixty, the least significant one first. -/
def addSixties (sum : Float) (weight : Nat) : List Binary64 → Except ScalarFault Binary64
  | [] => .ok (.ofFloat sum)
  | d :: rest =>
    let w := Binary64.ofInt weight
    if w = .positiveInfinity then .error .hugeWeight
    else addSixties (sum + d.toFloat * w.toFloat) (weight * 60) rest

/-- The floating-point number of a text. -/
def floatOfText (t : Text.CodeText) : Except ScalarFault Binary64 := do
  let (negative, body) ← signOfNumber (Text.lowercase (t.filter (· != .char '_')))
  let word := String.ofList body.standIns
  if word = ".nan" then return .nan
  let magnitude ←
    if word = ".inf" then pure .positiveInfinity
    else if body.contains (.char ':') then do
      addSixties 0.0 1 (← (Text.parts (.char ':') body).mapM floatOfNumeral).reverse
    else floatOfNumeral body
  return if negative then .ofFloat (-magnitude.toFloat) else magnitude

/-! ### Truth values -/

/-- The truth value of a text: a word in any case. -/
def boolOfText (t : Text.CodeText) : Except ScalarFault Bool :=
  let lowered := Text.lowercase t
  let word := String.ofList lowered.standIns
  if word ∈ ["yes", "true", "on"] then .ok true
  else if word ∈ ["no", "false", "off"] then .ok false
  else .error (.noBool lowered)

/-! ### Times -/

/-- The date or the time of a text. -/
def momentOfText (t : Text.CodeText) : Except ScalarFault Moment :=
  match TimeText.ofChars? (Tag.dropLineFeed t.standIns) with
  | some t => t.value
  | none => .error .noTime

end SliceAgent.Yaml
