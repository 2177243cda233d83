import MudClient.Text.Numeral

/-!
# Moments

* `Date`: a day of the calendar
* `Zone`: the zone that a clock shows the time of
* `Moment`: what a clock shows, counted from the start of year 1
* `Moment.date`, `Moment.thursday`: the day that a moment lies in, and the one that its week is counted by
* `Moment.ofDate`: the moment of a date and a time of day
* `Moment.tick`: a moment so many seconds later
* `Moment.read?`: a moment as text
-/

set_option autoImplicit false

namespace MudClient.Calendar

def isLeap (year : Nat) : Bool :=
  year % 4 = 0 && (year % 100 ≠ 0 || year % 400 = 0)

def monthLengths (year : Nat) : List Nat :=
  [31, if isLeap year then 29 else 28, 31, 30, 31, 30, 31, 31, 30, 31, 30, 31]

def daysBefore (year : Nat) : Nat :=
  (year - 1) * 365 + (year - 1) / 4 - (year - 1) / 100 + (year - 1) / 400

/-- The day of a calendar that has always counted leap years as it does now. Months and days are
counted from 1. -/
structure Date where
  year : Nat
  month : Nat
  day : Nat
  /-- The number of the day within its year, from 1. -/
  dayOfYear : Nat
deriving DecidableEq, Repr

/-- The month and the day within it of a day counted from 0 within its year. -/
def monthAndDay (month : Nat) : List Nat → Nat → Nat × Nat
  | [], day => (month, day + 1)
  | length :: lengths, day =>
    if day < length then (month, day + 1) else monthAndDay (month + 1) lengths (day - length)

/-- The year, and the day within it counted from 0, of a day counted from the start of year 1.
A period of 400 years has 146097 days, one of 100 years 36524 or one more, one of 4 years 1461 or one less. -/
def yearAndDay (days : Nat) : Nat × Nat :=
  let inEra := days % 146097
  let centuries := min 3 (inEra / 36524)
  let inCentury := inEra - centuries * 36524
  let inFour := inCentury % 1461
  let years := min 3 (inFour / 365)
  (400 * (days / 146097) + 100 * centuries + 4 * (inCentury / 1461) + years + 1, inFour - years * 365)

/-- The date of a day counted from the start of year 1. -/
def Date.ofDays (days : Nat) : Date :=
  let (year, day) := yearAndDay days
  let (month, dayOfMonth) := monthAndDay 1 (monthLengths year) day
  ⟨year, month, dayOfMonth, day + 1⟩

/-- A zone of the clock. One that is not known has neither an offset nor a name. -/
structure Zone where
  /-- The microseconds by which the zone is ahead of universal time. -/
  ahead : Option Int
  name : Text
deriving DecidableEq, Repr

def Zone.unknown : Zone := ⟨none, []⟩

structure Moment where
  /-- The microseconds since the start of year 1, by the time of the zone. -/
  microseconds : Nat
  zone : Zone
deriving DecidableEq, Repr

namespace Moment

def seconds (m : Moment) : Nat := m.microseconds / 1000000

def days (m : Moment) : Nat := m.seconds / 86400

def date (m : Moment) : Date := Date.ofDays m.days

def hour (m : Moment) : Nat := m.seconds % 86400 / 3600

def minute (m : Moment) : Nat := m.seconds % 3600 / 60

def second (m : Moment) : Nat := m.seconds % 60

def microsecond (m : Moment) : Nat := m.microseconds % 1000000

/-- The day of the week, Sunday being 0. Year 1 starts on a Monday. -/
def weekday (m : Moment) : Nat := (m.days + 1) % 7

/-- The Thursday of the week, weeks starting on Mondays. The year it lies in is the one whose weeks are
counted. -/
def thursday (m : Moment) : Date := Date.ofDays (m.days - m.days % 7 + 3)

def ofDate (year month day hour minute second : Nat) : Moment :=
  let days := daysBefore year + ((monthLengths year).take (month - 1)).foldl (· + ·) 0 + (day - 1)
  ⟨(days * 86400 + hour * 3600 + minute * 60 + second) * 1000000, .unknown⟩

def tick (m : Moment) (seconds : Int) : Moment :=
  { m with microseconds := (m.microseconds + seconds * 1000000).toNat }

def fields : Text → List Text
  | [] => [[]]
  | c :: t =>
    match fields t with
    | [] => [[c]]
    | field :: rest => if c.isDigit then (c :: field) :: rest else [] :: field :: rest

/-- A moment written as year, month, day, hour, minute and second. -/
def read? (t : Text) : Option Moment :=
  match (fields t).map (Text.numeral 10) with
  | [year, month, day, hour, minute, second] => some (ofDate year month day hour minute second)
  | _ => none

end Moment

end MudClient.Calendar
