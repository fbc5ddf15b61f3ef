import SliceAgent.Calendar
import SliceAgent.Decimal.Binary64
import SliceAgent.Kubeconfig.Node
import SliceAgent.Text.Basic
import SliceAgent.Json.Reader
import SliceAgent.Yaml.Scalar

/-!
# Expiry of tokens

A token may come with the time at which it expires. `InstantText` is what the text of such a time
says, a date and a time of day with an optional fraction and offset; its digits may be those of any
script. `isExpired` tells whether the time that a node holds has passed. No clock is at hand: all
times before `horizon` count as past.

A provider may give the time up to which its token is good as a number of seconds, or as a date and
a time of day with a fraction. In the latter the numbers need not have zeros in front. `isPast`
tells whether such a time has passed.

A signed token has three parts with points between them. The middle one holds what the token claims,
as a JSON object in base 64 with two digits of its own. `Claims.ofPart` reads it, and
`Claims.areExpired` tells whether the token says that it has expired.
-/

namespace SliceAgent.Kubeconfig

/-! ### Instants -/

/-- The year before which all times count as past. -/
def horizon : Nat := 2027

/-- The seconds from the beginning of 1970 up to the horizon. -/
def horizonSeconds : Nat :=
  (Date.number ⟨horizon, 1, 1⟩ - Date.number ⟨1970, 1, 1⟩) * 86400

/-- The seconds before its time at which a token counts as expired. -/
def expiryMargin : Nat := 300

/-- The least instant from which the margin can be taken away, as `DateTime.instant` counts. -/
def earliest : Int :=
  ((Date.number ⟨1, 1, 1⟩ : Int) * 86400 + expiryMargin) * 1000000

/-- Whether a time has passed; one without an offset is meant as universal time. The margin is taken
away first, and only then is the offset looked at, which has to be less than a day. -/
def hasPassed (t : DateTime) : Except KubeconfigFault Bool :=
  if { t with offset := none }.instant < earliest then .error .noDate
  else if 86400 ≤ (t.offset.getD 0).natAbs then
    .error (.badTime <| "offset must be a timedelta strictly between -timedelta(hours=24) and " ++
      "timedelta(hours=24).")
  else .ok (decide (t.date.year < horizon))

/-! ### Texts -/

/-- What the text of a time says. -/
structure InstantText where
  year : Nat
  month : Nat
  day : Nat
  hour : Nat
  minute : Nat
  second : Nat
  /-- The digits of the fraction of a second. -/
  fraction : List Nat
  /-- The minutes of the offset, by their amount. -/
  offset : Nat
  deriving DecidableEq, Repr

namespace InstantText

/-- The number of exactly so many digits in front. -/
def takeNumber? (width : Nat) (cs : List Char) : Option (Nat × List Char) := do
  let digits ← (cs.take width).mapM Text.digitValue?
  if digits.length = width then some (natOfDigits 10 digits, cs.drop width) else none

/-- Takes one of some characters from the front. -/
def takeOneOf? (choices : List Char) : List Char → Option (List Char)
  | c :: r => if c ∈ choices then some r else none
  | [] => none

/-- Takes a fraction from the front, which has digits if there is a mark in front of it. -/
def takeFraction? (cs : List Char) : Option (List Nat × List Char) :=
  match takeOneOf? ['.', ','] cs with
  | none => some ([], cs)
  | some r =>
    let isDigit (c : Char) : Bool := (Text.digitValue? c).isSome
    let digits := (r.takeWhile isDigit).filterMap Text.digitValue?
    if digits.isEmpty then none else some (digits, r.dropWhile isDigit)

/-- Reads an offset up to the end: the letter for none, or one or two digits of hours and two of
minutes behind a sign. -/
def offsetOf? (cs : List Char) : Option Nat :=
  if cs = [] ∨ cs = ['Z'] ∨ cs = ['z'] then some 0
  else do
    let r ← takeOneOf? ['+', '-'] cs
    let (hours, r) ← (takeNumber? 2 r).orElse fun _ => takeNumber? 1 r
    let (minutes, r) ← takeNumber? 2 (← takeOneOf? [':'] r)
    if r.isEmpty then some (hours * 60 + minutes) else none

/-- Reads a time up to the end. -/
def ofChars? (cs : List Char) : Option InstantText := do
  let (year, r) ← takeNumber? 4 cs
  let (month, r) ← takeNumber? 2 (← takeOneOf? ['-'] r)
  let (day, r) ← takeNumber? 2 (← takeOneOf? ['-'] r)
  let (hour, r) ← takeNumber? 2 (← takeOneOf? [' ', 'T', 't'] r)
  let (minute, r) ← takeNumber? 2 (← takeOneOf? [':'] r)
  let (second, r) ← takeNumber? 2 (← takeOneOf? [':'] r)
  let (fraction, r) ← takeFraction? r
  return { year, month, day, hour, minute, second, fraction, offset := ← offsetOf? r }

/-- The millionths of a second in the fraction. One that is nearest to a whole second is one. -/
def microseconds (t : InstantText) : Nat :=
  let fraction : Decimal := ⟨false, natOfDigits 10 t.fraction, -t.fraction.length⟩
  if Binary64.ofDecimal fraction = .ofInt 1 then 1000000
  else natOfDigits 10 ((t.fraction ++ List.replicate 6 0).take 6)

/-- The time that is meant. -/
def value (t : InstantText) : DateTime where
  date := ⟨t.year, t.month, t.day⟩
  hour := t.hour
  minute := t.minute
  second := t.second
  microsecond := t.microseconds
  offset := some (t.offset * 60)

end InstantText

/-- The time of a text, with blank characters around it. -/
def readInstant (text : Text.CodeText) : Except KubeconfigFault DateTime :=
  match InstantText.ofChars? (Text.dropEnds Text.isBlank text.standIns) with
  | none =>
    .error (.badTime <| s!"Invalid RFC3339 datetime: {Text.quotedPoints text} " ++
      "(expected YYYY-MM-DDTHH:MM:SS[.frac][Z|±HH:MM])")
  | some t => match t.value.problem? with
    | some problem =>
      .error (.badTime <| "Invalid date/time values in RFC3339 string " ++
        s!"{Text.quotedPoints text}: {problem}")
    | none => .ok t.value

/-- Whether the time that a node holds has passed. -/
def isExpired (n : Node) : Except KubeconfigFault Bool :=
  match n.points?, n.value.atom? with
  | some text, _ => (readInstant text).bind hasPassed
  | none, some (.time t) => hasPassed t
  | none, some (.bytes _) => .error .wrongKind
  | none, _ => .error .noAttribute

/-! ### Seconds -/

/-- Whether the time has passed that lies a number of seconds behind the beginning of 1970. The
system has 64 bits for the number and 32 for the year, and the calendar has the years 1 to 9999. -/
def secondsHavePassed (seconds : Int) : Except KubeconfigFault Bool :=
  let year := Date.yearOf (seconds.fdiv 86400)
  let inBits (width : Nat) (n : Int) : Bool := n.bmod (Nat.pow 2 width) == n
  if !inBits 64 seconds then .error .hugeTime
  else if !inBits 32 (year - 1900) then .error .hugeYear
  else if year < 1 ∨ 9999 < year then
    .error (.badTime s!"year {year.bmod (Nat.pow 2 32)} is out of range")
  else if Date.yearOf ((seconds - expiryMargin).fdiv 86400) < 1 then .error .noDate
  else .ok (decide (seconds < horizonSeconds))

/-- The whole seconds of a number of seconds, which is rounded to millionths. -/
def wholeSeconds (x : Binary64) : Except KubeconfigFault Int :=
  match x.decode with
  | .notANumber => .error (.badTime "Invalid value NaN (not a number)")
  | .infinite _ => .error .hugeTime
  | .finite negative m e =>
    let micros :=
      if 0 ≤ e then m * Nat.pow 2 e.toNat * 1000000
      else divHalfEven (m * 1000000) (Nat.pow 2 (-e).toNat)
    .ok ((signed negative micros).fdiv 1000000)

end SliceAgent.Kubeconfig

namespace SliceAgent.Kubeconfig.Claims

/-! ### Claims of signed tokens -/

/-- The octets of a text in base 64. -/
def octetsOf (text : Text.CodeText) : Except KubeconfigFault (List UInt8) :=
  match text.characters? with
  | none => .error .notAscii
  | some cs =>
    if cs.all fun c => decide (c.toNat < 0x80) then
      (Text.Base64.decodeChars cs).mapError .notBase64
    else .error .notAscii

/-- The text of octets. -/
def textOf (octets : List UInt8) : Except KubeconfigFault String :=
  (Text.Utf8.decode octets).mapError .undecodable

/-- A code point of base 64, which two others of the alphabet of tokens stand for. -/
def plainDigit (p : Text.CodePoint) : Text.CodePoint :=
  if p = .char '-' then .char '+' else if p = .char '_' then .char '/' else p

/-- The claims in the middle part of a token, which lacks its padding. -/
def ofPart (part : Text.CodeText) : Except KubeconfigFault Json := do
  let padding := List.replicate (4 - part.length % 4) (.char '=')
  let text ← textOf (← octetsOf (part.map plainDigit ++ padding))
  (Json.read text).mapError (.claims text)

/-- Whether the claims say that a token has expired. -/
def areExpired : Json → Except KubeconfigFault Bool
  | .obj claims =>
    match (Json.field? "exp" claims).getD .null with
    | .null => .ok false
    | .int n => secondsHavePassed n
    | .bool b => secondsHavePassed (if b then 1 else 0)
    | .float x => (wholeSeconds x).bind secondsHavePassed
    | _ => .error .wrongKind
  | _ => .error .noAttribute

end SliceAgent.Kubeconfig.Claims

namespace SliceAgent.Kubeconfig

/-! ### Deadlines -/

namespace Deadline

/-- The form of a date and a time of day. -/
def form : String := "%Y-%m-%d %H:%M:%S.%f"

/-- Which characters can stand at a place. -/
abbrev Place := Char → Bool

/-- The characters from one to another. -/
def between (first last : Char) : Place :=
  fun c => decide (first ≤ c ∧ c ≤ last)

/-- A digit of any script. -/
def anyDigit : Place :=
  fun c => (Text.digitValue? c).isSome

/-- Takes the number from the front that is written at the first places that fit; what is no digit
there is blank. -/
def takeAt? (choices : List (List Place)) (cs : List Char) : Option (Nat × List Char) :=
  choices.findSome? fun places =>
    let front := cs.take places.length
    if front.length = places.length ∧ (places.zip front).all fun (fits, c) => fits c then
      some (natOfDigits 10 (front.filterMap Text.digitValue?), cs.drop places.length)
    else none

/-- The places of a month. -/
def monthPlaces : List (List Place) :=
  [[between '1' '1', between '0' '2'], [between '0' '0', between '1' '9'], [between '1' '9']]

/-- The places of the day of a month, which may have a space for a zero. -/
def dayPlaces : List (List Place) :=
  [[between '3' '3', between '0' '1'], [between '1' '2', anyDigit],
   [between '0' '0', between '1' '9'], [between '1' '9'], [between ' ' ' ', between '1' '9']]

/-- The places of an hour. -/
def hourPlaces : List (List Place) :=
  [[between '2' '2', between '0' '3'], [between '0' '1', anyDigit], [anyDigit]]

/-- The places of a minute. -/
def minutePlaces : List (List Place) :=
  [[between '0' '5', anyDigit], [anyDigit]]

/-- The places of a second, of which a minute may have two more. -/
def secondPlaces : List (List Place) :=
  [between '6' '6', between '0' '1'] :: minutePlaces

/-- Takes the blanks in front, at least one. -/
def takeBlanks? : List Char → Option (List Char)
  | c :: r => if Text.isBlank c then some (r.dropWhile Text.isBlank) else none
  | [] => none

/-- Takes the digits of a fraction from the front, at most six. -/
def takeFraction? (cs : List Char) : Option (List Char) :=
  let digits := (cs.take 6).takeWhile Char.isDigit
  if digits.isEmpty then none else some (cs.drop digits.length)

/-- The day that a text begins with, and what follows its time of day. -/
def ofChars? (cs : List Char) : Option (Date × List Char) := do
  let (year, r) ← InstantText.takeNumber? 4 cs
  let (month, r) ← takeAt? monthPlaces (← InstantText.takeOneOf? ['-'] r)
  let (day, r) ← takeAt? dayPlaces (← InstantText.takeOneOf? ['-'] r)
  let (_, r) ← takeAt? hourPlaces (← takeBlanks? r)
  let (_, r) ← takeAt? minutePlaces (← InstantText.takeOneOf? [':'] r)
  let (_, r) ← takeAt? secondPlaces (← InstantText.takeOneOf? [':'] r)
  return (⟨year, month, day⟩, ← takeFraction? (← InstantText.takeOneOf? ['.'] r))

/-- The day of a text, which the calendar has to have. -/
def dayOf (text : Text.CodeText) : Except KubeconfigFault Date :=
  match ofChars? text.standIns with
  | none =>
    let forms := s!"{Text.quotedPoints text} does not match format {Text.quoted form}"
    .error (.badTime ("time data " ++ forms))
  | some (date, rest) =>
    if !rest.isEmpty then
      let left := Text.CodeText.shown (text.drop (text.length - rest.length))
      .error (.badTime s!"unconverted data remains: {left}")
    else date.problem?.elim (.ok date) (.error ∘ .badTime)

/-- The seconds that a text says, which consists of digits. -/
def secondsOf (text : Text.CodeText) : Except KubeconfigFault Int :=
  (Yaml.intInBase 10 text).mapError fun f => .badTime f.message

end Deadline

/-- Whether the time up to which a token is good has passed. -/
def isPast (n : Node) : Except KubeconfigFault Bool := do
  let areDigits (cs : List Char) : Bool := !cs.isEmpty && cs.all Text.isDigitSign
  match n.points?, n.value.atom? with
  | some text, _ =>
    if areDigits text.standIns then return decide ((← Deadline.secondsOf text) < horizonSeconds)
    else return decide ((← Deadline.dayOf text).year < horizon)
  | none, some (.bytes octets) =>
    let cs := octets.map fun b => Char.ofNat b.toNat
    if cs.all Char.isDigit && !cs.isEmpty then
      return decide ((← Deadline.secondsOf (.ofChars cs)) < horizonSeconds)
    else throw .wrongKind
  | none, _ => throw .noAttribute

end SliceAgent.Kubeconfig
