import SliceAgent.Calendar
import SliceAgent.Yaml.Fault
import SliceAgent.Text.CodePoint
import SliceAgent.Text.Basic

/-!
# Tags

A tag tells what a node is. Those with the stem `coreStem` are known, all others are kept by their
names. A plain scalar without a tag has the one that its text looks like (`Tag.ofPlain`): words for
truth values and for nothing, numerals, dates and times; all else is text. A line feed at the end of
a text does not count in this.

A time is written as a date, or as a date and a time of day with an optional fraction of a second
and an optional offset. `TimeText` is what a text says; `TimeText.value` checks it against the
calendar.
-/

namespace SliceAgent.Yaml

/-! ### Times -/

/-- What the text of a time says. -/
structure TimeText where
  year : List Char
  month : List Char
  day : List Char
  /-- The hour, the minute and the second. -/
  clock : Option (List Char × List Char × List Char) := none
  fraction : List Char := []
  /-- The sign, the hours and the minutes of an offset; no sign stands for none. -/
  zone : Option (Option Char × List Char × List Char) := none
  deriving DecidableEq, Repr

namespace TimeText

/-- Takes digits from the front: at least some and at most some others. -/
def takeDigits? (least most : Nat) (cs : List Char) : Option (List Char × List Char) :=
  let digits := (cs.take most).takeWhile Char.isDigit
  if digits.length < least then none else some (digits, cs.drop digits.length)

/-- Takes one character from the front. -/
def takeChar? (x : Char) : List Char → Option (List Char)
  | c :: r => if c = x then some r else none
  | [] => none

/-- Drops the blanks in front. -/
def dropBlanks (cs : List Char) : List Char :=
  cs.dropWhile fun c => c == ' ' || c == '\t'

/-- Reads an offset up to the end. -/
def zoneOfChars? (cs : List Char) : Option (Option (Option Char × List Char × List Char)) :=
  match cs with
  | [] => some none
  | _ => match dropBlanks cs with
    | ['Z'] => some (some (none, [], []))
    | sign :: r =>
      if sign = '+' ∨ sign = '-' then do
        let (hours, r) ← takeDigits? 1 2 r
        if r.isEmpty then return some (some sign, hours, [])
        let (minutes, r) ← takeDigits? 2 2 (← takeChar? ':' r)
        if r.isEmpty then return some (some sign, hours, minutes) else none
      else none
    | [] => none

/-- Reads a time of day and what follows it. -/
def clockOfChars? (t : TimeText) (cs : List Char) : Option TimeText := do
  let (hour, r) ← takeDigits? 1 2 cs
  let (minute, r) ← takeDigits? 2 2 (← takeChar? ':' r)
  let (second, r) ← takeDigits? 2 2 (← takeChar? ':' r)
  let (fraction, r) := match r with
    | '.' :: r => (r.takeWhile Char.isDigit, r.dropWhile Char.isDigit)
    | r => ([], r)
  let zone ← zoneOfChars? r
  return { t with clock := some (hour, minute, second), fraction, zone }

/-- Reads the text of a time. -/
def ofChars? (cs : List Char) : Option TimeText := do
  let (year, r) ← takeDigits? 4 4 cs
  let (month, r) ← takeDigits? 1 2 (← takeChar? '-' r)
  let (day, r) ← takeDigits? 1 2 (← takeChar? '-' r)
  let t : TimeText := { year, month, day }
  match r with
  | [] => return t
  | 'T' :: r | 't' :: r => clockOfChars? t r
  | c :: _ => if c = ' ' ∨ c = '\t' then clockOfChars? t (dropBlanks r) else none

/-- Whether a text without a tag is a time: a date alone needs two digits for the month and the
day. -/
def isImplicit (t : TimeText) : Bool :=
  t.clock.isSome || (t.month.length == 2 && t.day.length == 2)

/-- The number of some digits. -/
def number (cs : List Char) : Nat :=
  natOfDigits 10 (cs.filterMap Text.asciiDigit?)

/-- The millionths of a second in a fraction. -/
def microseconds (cs : List Char) : Nat :=
  let kept := cs.take 6
  number (kept ++ List.replicate (6 - kept.length) '0')

/-- Gives a value that has nothing wrong. -/
def inRange {α : Type} (problem : Option String) (a : α) : Except ScalarFault α :=
  problem.elim (.ok a) (.error ∘ .timeRange)

/-- The offset of a text; it is less than a day. -/
def offset (t : TimeText) : Except ScalarFault (Option Int) :=
  match t.zone with
  | none => .ok none
  | some (none, _, _) => .ok (some 0)
  | some (some sign, hours, minutes) =>
    let seconds : Int := (number hours * 60 + number minutes) * 60
    let seconds := if sign = '-' then -seconds else seconds
    if seconds.natAbs < 86400 then .ok (some seconds)
    else
      .error (.timeRange <|
        "offset must be a timedelta strictly between -timedelta(hours=24) and " ++
        s!"timedelta(hours=24), not {quotedSpan seconds}.")

end TimeText

/-- A date or a time. -/
inductive Moment where
  | date (d : Date)
  | time (t : DateTime)
  deriving DecidableEq, Repr

/-- The date or the time of a text, which the calendar and the clock have to have. -/
def TimeText.value (t : TimeText) : Except ScalarFault Moment := do
  let date : Date := ⟨number t.year, number t.month, number t.day⟩
  match t.clock with
  | none => inRange date.problem? (.date date)
  | some (hour, minute, second) =>
    -- The offset is looked at first.
    let offset ← t.offset
    let time : DateTime :=
      ⟨date, number hour, number minute, number second, microseconds t.fraction, offset⟩
    inRange time.problem? (.time time)

/-! ### Stems -/

/-- What a node is. -/
inductive Tag where
  | null
  | bool
  | int
  | float
  | binary
  | timestamp
  /-- A list of pairs, each written as a mapping of one entry, in their order. -/
  | orderedMap
  | pairs
  | set
  | text
  | list
  | map
  /-- The key under which other mappings are taken in. -/
  | merge
  /-- The key whose value stands for the whole mapping. -/
  | value
  | other (name : String)
  deriving DecidableEq, Repr

namespace Tag

/-- How the names of the known tags begin. -/
def coreStem : String :=
  "tag:yaml.org,2002:"

/-- The known tags by the ends of their names. -/
def core : List (String × Tag) :=
  [("null", .null), ("bool", .bool), ("int", .int), ("float", .float), ("binary", .binary),
   ("timestamp", .timestamp), ("omap", .orderedMap), ("pairs", .pairs), ("set", .set),
   ("str", .text), ("seq", .list), ("map", .map), ("merge", .merge), ("value", .value)]

/-- The tag of a name. -/
def ofName (name : String) : Tag :=
  ((core.map fun e => (coreStem ++ e.1, e.2)).lookup name).getD (.other name)

/-- The name of a tag. -/
def name : Tag → String
  | .other name => name
  | t => coreStem ++ ((core.find? (·.2 == t)).map (·.1)).getD ""

/-! ### Words -/

/-- A word in its three spellings: small, with a capital, and in capitals. -/
def spellings (word : String) : List String :=
  let cs := word.toList
  [word, .ofList ((cs.take 1).map Char.toUpper ++ cs.drop 1), .ofList (cs.map Char.toUpper)]

/-- The words for nothing. -/
def nullWords : List String :=
  "~" :: spellings "null"

/-- The words for truth values. -/
def boolWords : List String :=
  ["yes", "no", "true", "false", "on", "off"].flatMap spellings

/-! ### Numerals -/

/-- A digit or an underscore. -/
def isLoose (c : Char) : Bool :=
  c.isDigit || c == '_'

/-- Some characters, all of a kind. -/
def areSome (p : Char → Bool) (cs : List Char) : Bool :=
  !cs.isEmpty && cs.all p

/-- Digits and underscores with a digit in front. -/
def isLooseNumeral : List Char → Bool
  | c :: r => c.isDigit && r.all isLoose
  | [] => false

/-- A digit, or two digits below sixty. -/
def isSixtieth : List Char → Bool
  | [c] => c.isDigit
  | [c, d] => c.isDigit && decide (c ≤ '5') && d.isDigit
  | _ => false

/-- The exponent of a numeral, which has a sign, or nothing. -/
def isExponent : List Char → Bool
  | [] => true
  | e :: sign :: r =>
    (e == 'e' || e == 'E') && (sign == '-' || sign == '+') && areSome Char.isDigit r
  | _ => false

/-- A whole number: binary behind `0b`, hexadecimal behind `0x`, octal behind a zero, and decimal
otherwise, with parts to the base of sixty behind colons. -/
def isInt (cs : List Char) : Bool :=
  match (takeSign cs).2 with
  | ['0'] => true
  | '0' :: 'b' :: r => areSome (fun c => c == '0' || c == '1' || c == '_') r
  | '0' :: 'x' :: r => areSome (fun c => (Text.hexValue? c).isSome || c == '_') r
  | '0' :: r => r.all fun c => (c.isDigit && decide (c ≤ '7')) || c == '_'
  | body => match Text.parts ':' body with
    | first :: sixtieths => isLooseNumeral first && sixtieths.all isSixtieth
    | [] => false

/-- Digits in front of a point, and what may follow it. -/
def isPointed (isWhole : List Char → Bool) (isRest : List Char → Bool) (cs : List Char) : Bool :=
  match cs.dropWhile (· != '.') with
  | _ :: rest => isWhole (cs.takeWhile (· != '.')) && isRest (rest.dropWhile isLoose)
  | [] => false

/-- A number with a point: with an exponent, with parts to the base of sixty, or with a word behind
the point. -/
def isFloat (cs : List Char) : Bool :=
  let body := (takeSign cs).2
  let isSixty := match (Text.parts ':' body).reverse with
    | last :: between :: before =>
      isPointed isSixtieth List.isEmpty last &&
        (between :: before).dropLast.all isSixtieth &&
        ((between :: before).getLast?.map isLooseNumeral).getD false
    | _ => false
  let isFraction := match cs with
    | '.' :: d :: r => d.isDigit && isExponent (r.dropWhile isLoose)
    | _ => false
  isPointed isLooseNumeral isExponent body || isFraction || isSixty ||
    [".inf", ".Inf", ".INF"].contains (String.ofList body) ||
    [".nan", ".NaN", ".NAN"].contains (String.ofList cs)

/-! ### Plain scalars -/

/-- A text without the line feed at its end. -/
def dropLineFeed (cs : List Char) : List Char :=
  if cs.getLast? = some '\n' then cs.dropLast else cs

/-- The tag that the text of a plain scalar looks like; halves of pairs look like nothing. -/
def ofPlain (t : Text.CodeText) : Tag :=
  let cs := dropLineFeed t.standIns
  let word := String.ofList cs
  if t = [] ∨ word ∈ nullWords then .null
  else if word ∈ boolWords then .bool
  else if isFloat cs then .float
  else if isInt cs then .int
  else if ((TimeText.ofChars? cs).map TimeText.isImplicit).getD false then .timestamp
  else if word = "<<" then .merge
  else if word = "=" then .value
  else if word ∈ ["!", "&", "*"] then .other (coreStem ++ "yaml")
  else .text

end Tag

end SliceAgent.Yaml
