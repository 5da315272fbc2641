/-!
# Points in time

An `Instant` counts seconds and nanoseconds from the start of 1970, leap seconds aside; one with a
thousand million nanoseconds or more lies within a leap second.  `Date.ofDays` gives the date of a day
in the Gregorian calendar, which is extended to all times, and `Date.days` is the way back.
-/

set_option autoImplicit false

namespace ErrorReport

/-- A date of the Gregorian calendar. -/
structure Date where
  year : Int
  /-- From 1 to 12. -/
  month : Nat
  /-- From 1. -/
  day : Nat
  deriving DecidableEq, Repr

namespace Date

/-- The date so many days after 1 January 1970.  Years are counted from 1 March, which puts the leap
day at their end, and four centuries always have 146097 days. -/
def ofDays (days : Int) : Date :=
  let shifted := days + 719468
  let era := shifted / 146097
  let dayOfEra := (shifted % 146097).toNat
  let yearOfEra := (dayOfEra - dayOfEra / 1460 + dayOfEra / 36524 - dayOfEra / 146096) / 365
  let dayOfYear := dayOfEra - (365 * yearOfEra + yearOfEra / 4 - yearOfEra / 100)
  let monthFromMarch := (5 * dayOfYear + 2) / 153
  let day := dayOfYear - (153 * monthFromMarch + 2) / 5 + 1
  if monthFromMarch < 10 then ⟨yearOfEra + era * 400, monthFromMarch + 3, day⟩
  else ⟨yearOfEra + era * 400 + 1, monthFromMarch - 9, day⟩

/-- Whether a year has a leap day. -/
def isLeap (year : Int) : Bool := year % 4 == 0 && (year % 100 != 0 || year % 400 == 0)

/-- How many days a month has. -/
def monthLength (year : Int) (month : Nat) : Nat :=
  if month == 2 then if isLeap year then 29 else 28
  else if month == 4 || month == 6 || month == 9 || month == 11 then 30
  else 31

/-- Whether there is such a date. -/
def isValid (d : Date) : Bool :=
  1 ≤ d.month && d.month ≤ 12 && 1 ≤ d.day && d.day ≤ monthLength d.year d.month

/-- How many days of a year come before a month. -/
def daysBeforeMonth (year : Int) : Nat → Nat
  | 0 => 0
  | 1 => 0
  | month + 2 => daysBeforeMonth year (month + 1) + monthLength year (month + 1)

/-- How many days a date lies after 1 January 1970. -/
def days (d : Date) : Int :=
  let past := d.year - 1
  365 * past + past / 4 - past / 100 + past / 400 + daysBeforeMonth d.year d.month + d.day - 719163

end Date

/-- A point in time. -/
structure Instant where
  /-- Whole seconds since the start of 1970. -/
  seconds : Int
  /-- Nanoseconds on top of them. -/
  nanos : Nat
  deriving DecidableEq, Repr

namespace Instant

/-- At least so many decimal digits. -/
def padded (width n : Nat) : List Char :=
  let digits := Nat.toDigits 10 n
  List.replicate (width - digits.length) '0' ++ digits

/-- A year: four digits, and a sign for one that needs more or lies before year 0. -/
def yearText (year : Int) : List Char :=
  if 0 ≤ year ∧ year ≤ 9999 then padded 4 year.natAbs
  else (if year < 0 then '-' else '+') :: padded 4 year.natAbs

/-- The date. -/
def date (t : Instant) : Date := Date.ofDays (t.seconds / 86400)

/-- The second of the day. -/
def secondOfDay (t : Instant) : Nat := (t.seconds % 86400).toNat

/-- The date and time in the form `2001-09-09T01:46:40`. -/
def text (t : Instant) : String :=
  let s := t.secondOfDay
  String.ofList (yearText t.date.year ++ '-' :: padded 2 t.date.month ++ '-' :: padded 2 t.date.day
    ++ 'T' :: padded 2 (s / 3600) ++ ':' :: padded 2 (s / 60 % 60)
    ++ ':' :: padded 2 (s % 60 + t.nanos / 1000000000))

end Instant

end ErrorReport
