import SliceAgent.Decimal.Basic

/-!
# Days and times

A `Date` is a day of the calendar, a `DateTime` a time of a day with an optional offset from
universal time. Both may hold numbers that the calendar and the clock do not have: `problem?` tells
which is the first of them.

Dates are compared as they are, times by the instants that they name; times without an offset are
apart from those with one. Days are numbered from the first of the year 1 on, which is day 1.
-/

namespace SliceAgent

/-- A day of the calendar. -/
structure Date where
  year : Nat
  month : Nat
  day : Nat
  deriving DecidableEq, Repr

/-- A time of a day; `offset` is what it is ahead of universal time, in seconds. -/
structure DateTime where
  date : Date
  hour : Nat
  minute : Nat
  second : Nat
  microsecond : Nat
  offset : Option Int
  deriving DecidableEq, Repr

/-! ### Showing -/

/-- A number with zeros in front of it up to a width. -/
def paddedNat (width n : Nat) : String :=
  let s := toString n
  .ofList (List.replicate (width - s.length) '0') ++ s

/-- A span of time as it is quoted: whole days, which may be negative, and the seconds above
them. -/
def quotedSpan (seconds : Int) : String :=
  let days := seconds.fdiv 86400
  let rest := seconds.fmod 86400
  let parts :=
    (if days = 0 then [] else [s!"days={days}"]) ++ (if rest = 0 then [] else [s!"seconds={rest}"])
  "datetime.timedelta(" ++ (if parts.isEmpty then "0" else ", ".intercalate parts) ++ ")"

/-- An offset as it is quoted. -/
def quotedOffset (seconds : Int) : String :=
  if seconds = 0 then "datetime.timezone.utc"
  else s!"datetime.timezone({quotedSpan seconds})"

namespace Date

/-- A date as it is shown. -/
def shown (d : Date) : String :=
  s!"{paddedNat 4 d.year}-{paddedNat 2 d.month}-{paddedNat 2 d.day}"

/-- A date as it is quoted. -/
def quoted (d : Date) : String :=
  s!"datetime.date({d.year}, {d.month}, {d.day})"

/-- Whether a year has a leap day. -/
def isLeapYear (year : Nat) : Bool :=
  year % 4 == 0 && (year % 100 != 0 || year % 400 == 0)

/-- The days of a month. -/
def daysInMonth (year month : Nat) : Nat :=
  if month = 2 then if isLeapYear year then 29 else 28
  else if month = 4 ∨ month = 6 ∨ month = 9 ∨ month = 11 then 30
  else 31

/-- The days before a year. -/
def daysBeforeYear (year : Nat) : Nat :=
  let y := year - 1
  y * 365 + y / 4 - y / 100 + y / 400

/-- The number of a day. -/
def number (d : Date) : Nat :=
  daysBeforeYear d.year +
    (List.range (d.month - 1)).foldl (fun n m => n + daysInMonth d.year (m + 1)) 0 + d.day

/-- The year of the day that lies a number of days behind the first of the year 1970, or before it.
Years are counted in groups of 400, which have equally many days, from a March on. -/
def yearOf (days : Int) : Int :=
  let n := days + 719468
  let group := n.fdiv 146097
  let day := (n - group * 146097).toNat
  let year := (day - day / 1460 + day / 36524 - day / 146096) / 365
  let dayOfYear := day - (365 * year + year / 4 - year / 100)
  -- Behind the last of December the count is in the next year.
  group * 400 + year + if 306 ≤ dayOfYear then 1 else 0

/-- What is wrong with a day that the calendar does not have. -/
def problem? (d : Date) : Option String :=
  if d.year = 0 ∨ 9999 < d.year then some s!"year {d.year} is out of range"
  else if d.month = 0 ∨ 12 < d.month then some "month must be in 1..12"
  else if d.day = 0 ∨ daysInMonth d.year d.month < d.day then
    some "day is out of range for month"
  else none

end Date

namespace DateTime

/-- What is wrong with a time that the calendar or the clock does not have. -/
def problem? (t : DateTime) : Option String :=
  t.date.problem?.orElse fun _ =>
    if 23 < t.hour then some "hour must be in 0..23"
    else if 59 < t.minute then some "minute must be in 0..59"
    else if 59 < t.second then some "second must be in 0..59"
    else if 999999 < t.microsecond then some "microsecond must be in 0..999999"
    else none

/-- The text of an offset, with its seconds only if there are any. -/
def offsetText (seconds : Int) : String :=
  let n := seconds.natAbs
  let rest := if n % 60 = 0 then "" else ":" ++ paddedNat 2 (n % 60)
  (if seconds < 0 then "-" else "+") ++ paddedNat 2 (n / 3600) ++ ":" ++
    paddedNat 2 (n / 60 % 60) ++ rest

/-- A time as it is shown. -/
def shown (t : DateTime) : String :=
  let fraction := if t.microsecond = 0 then "" else "." ++ paddedNat 6 t.microsecond
  let clock := ":".intercalate ([t.hour, t.minute, t.second].map (paddedNat 2))
  t.date.shown ++ " " ++ clock ++ fraction ++ (t.offset.map offsetText).getD ""

/-- A time as it is quoted: its seconds and their fraction only if they are not zero. -/
def quoted (t : DateTime) : String :=
  let fine :=
    if t.microsecond != 0 then [t.second, t.microsecond]
    else if t.second != 0 then [t.second]
    else []
  let parts := ([t.date.year, t.date.month, t.date.day, t.hour, t.minute] ++ fine).map toString ++
    (t.offset.map fun o => "tzinfo=" ++ quotedOffset o).toList
  "datetime.datetime(" ++ ", ".intercalate parts ++ ")"

/-- The instant that a time names, in microseconds. -/
def instant (t : DateTime) : Int :=
  let seconds : Int := t.date.number * 86400 + t.hour * 3600 + t.minute * 60 + t.second
  (seconds - t.offset.getD 0) * 1000000 + t.microsecond

/-- Whether two times are the same. -/
def same (t u : DateTime) : Bool :=
  t.offset.isSome == u.offset.isSome && t.instant == u.instant

end DateTime

end SliceAgent
