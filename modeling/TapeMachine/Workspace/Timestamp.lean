import TapeMachine.Text.Quoted
/-!
# Timestamps

A moment of the clock, as the texts in which it is shown.

* `Timestamp`, `Timestamp.check` : a moment, and whether its numbers are in range;
* `Timestamp.ofSeconds` : the moment some seconds after the start of 1970;
* `Timestamp.text`, `Timestamp.utc` : the moment for the reader, and as a mark in coordinated universal time;
* `Timestamp.day` : the name of its day.
-/

namespace TapeMachine

/-- A date, a time of day, and the microseconds beyond it. -/
structure Timestamp where
  year : Nat
  month : Nat
  dayOfMonth : Nat
  hour : Nat := 0
  minute : Nat := 0
  second : Nat := 0
  micros : Nat := 0
  deriving DecidableEq, Repr

/-- Why a text or some numbers are no moment. -/
inductive TimeError where
  | malformed (text : String)
  | wrongYear (year : Nat)
  | wrongMonth
  | wrongDay
  | wrongHour
  | wrongMinute
  | wrongSecond
  deriving DecidableEq, Repr

/-- The wording of a time error. -/
def TimeError.message : TimeError → String
  | .malformed text => s!"Invalid isoformat string: {Text.quote text}"
  | .wrongYear year => s!"year {year} is out of range"
  | .wrongMonth => "month must be in 1..12"
  | .wrongDay => "day is out of range for month"
  | .wrongHour => "hour must be in 0..23"
  | .wrongMinute => "minute must be in 0..59"
  | .wrongSecond => "second must be in 0..59"

namespace Timestamp

/-! ## 1. Texts -/

/-- A number filled with zeros to a width. -/
def padded (width n : Nat) : String :=
  let digits := Nat.toDigits 10 n
  String.ofList (List.replicate (width - digits.length) '0' ++ digits)

/-- The date: year, month and day. -/
def date (t : Timestamp) : String :=
  s!"{padded 4 t.year}-{padded 2 t.month}-{padded 2 t.dayOfMonth}"

/-- The time of day, to the second. -/
def time (t : Timestamp) : String :=
  s!"{padded 2 t.hour}:{padded 2 t.minute}:{padded 2 t.second}"

/-- The fraction of the second: nothing when it is zero, else six digits. -/
def fraction (t : Timestamp) : String :=
  if t.micros = 0 then "" else "." ++ padded 6 t.micros

/-- The moment for the reader. -/
def text (t : Timestamp) : String :=
  t.date ++ " " ++ t.time ++ t.fraction

/-- The moment as a mark in coordinated universal time. -/
def utc (t : Timestamp) : String :=
  t.date ++ "T" ++ t.time ++ t.fraction ++ "+00:00"

/-- The name of the day: the year has no zeros in front. -/
def day (t : Timestamp) : String :=
  s!"{t.year}-{padded 2 t.month}-{padded 2 t.dayOfMonth}"

/-! ## 2. The calendar -/

/-- Whether a year has a day more. -/
def isLeap (year : Nat) : Bool :=
  year % 4 = 0 && (year % 100 ≠ 0 || year % 400 = 0)

/-- The number of days of a month. -/
def daysOf (year month : Nat) : Nat :=
  if month = 2 then (if isLeap year then 29 else 28)
  else if [4, 6, 9, 11].contains month then 30
  else 31

/-- A moment whose numbers are in range. -/
def check (t : Timestamp) : Except TimeError Timestamp :=
  if t.year < 1 || 9999 < t.year then .error (.wrongYear t.year)
  else if t.month < 1 || 12 < t.month then .error .wrongMonth
  else if t.dayOfMonth < 1 || daysOf t.year t.month < t.dayOfMonth then .error .wrongDay
  else if 23 < t.hour then .error .wrongHour
  else if 59 < t.minute then .error .wrongMinute
  else if 59 < t.second then .error .wrongSecond
  else .ok t

/-- The start of a day, which is counted from the first of March of the year 0, in eras of 400 years. -/
def ofDays (days : Nat) : Timestamp :=
  let era := days / 146097
  let dayOfEra := days % 146097
  let yearOfEra := (dayOfEra - dayOfEra / 1460 + dayOfEra / 36524 - dayOfEra / 146096) / 365
  let dayOfYear := dayOfEra - (365 * yearOfEra + yearOfEra / 4 - yearOfEra / 100)
  let monthFromMarch := (5 * dayOfYear + 2) / 153
  let dayOfMonth := dayOfYear - (153 * monthFromMarch + 2) / 5 + 1
  let month := if monthFromMarch < 10 then monthFromMarch + 3 else monthFromMarch - 9
  { year := yearOfEra + 400 * era + (if month ≤ 2 then 1 else 0), month, dayOfMonth }

/-- The moment some seconds and microseconds after the start of 1970. -/
def ofSeconds (seconds micros : Nat) : Timestamp :=
  let rest := seconds % 86400
  { ofDays (seconds / 86400 + 719468) with
    hour := rest / 3600
    minute := rest / 60 % 60
    second := rest % 60
    micros := micros }

/-- The first day of a year, counted from the first day of the year 1, which was a Monday. -/
def yearStart (year : Nat) : Nat :=
  let past := year - 1
  365 * past + past / 4 - past / 100 + past / 400

/-- The start of a day of a week of a year. The first week is the one with the first Thursday; there are 53 of
them in a year that starts with a Thursday, and in a leap year that starts with a Wednesday. -/
def ofWeek? (year week dayOfWeek : Nat) : Option Timestamp :=
  let start := yearStart year
  let weekday := start % 7
  let weeks := if weekday = 3 || (weekday = 2 && isLeap year) then 53 else 52
  if year < 1 || week < 1 || weeks < week || dayOfWeek < 1 || 7 < dayOfWeek then none
  else
    let monday := start - weekday + (if 3 < weekday then 7 else 0)
    some (ofDays (306 + monday + 7 * (week - 1) + (dayOfWeek - 1)))

end Timestamp

end TapeMachine
