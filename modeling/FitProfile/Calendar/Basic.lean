import FitProfile.Number.Decimal
/-!
# FitProfile.Calendar.Basic -- dates, times of day and moments

A date is a day of the Gregorian calendar in the years 1 to 9999. A time of day has
microseconds, and may say how far its clock is ahead of universal time. A moment is a
date with a time of day. Days are also counted through, from the first day of the year 1.

All three are written in ISO 8601: four places for the year and two for each other part,
six places of a second where there is a fraction, and the offset last.
-/

namespace FitProfile

/-- A day of the calendar. -/
structure Date where
  year : Nat
  month : Nat
  day : Nat
  deriving DecidableEq, Repr

/-- A time of day. The offset is in microseconds, positive east of Greenwich. -/
structure TimeOfDay where
  hour : Nat
  minute : Nat
  second : Nat
  microsecond : Nat
  offset : Option Int
  deriving DecidableEq, Repr

/-- A date with a time of day. -/
structure Moment where
  date : Date
  time : TimeOfDay
  deriving DecidableEq, Repr

namespace Calendar

/-- The greatest year. -/
def lastYear : Nat := 9999

/-- Seconds of a day. -/
def secondsPerDay : Nat := 86400

/-- Microseconds of a second. -/
def microsecondsPerSecond : Nat := 1000000

/-- A number filled up with zeros to a width. -/
def padded (width n : Nat) : String :=
  String.ofList (List.replicate (width - (Nat.toDigits 10 n).length) '0') ++ Nat.repr n

/-- Leap years. -/
def isLeap (year : Nat) : Bool := year % 4 == 0 && (year % 100 != 0 || year % 400 == 0)

/-- The days of a month; there are none beyond the twelfth. -/
def daysInMonth (year : Nat) : Nat → Nat
  | 2 => if isLeap year then 29 else 28
  | 4 | 6 | 9 | 11 => 30
  | 1 | 3 | 5 | 7 | 8 | 10 | 12 => 31
  | _ => 0

/-- The days of the years before a year. -/
def daysBeforeYear (year : Nat) : Nat :=
  let past := year - 1
  past * 365 + past / 4 - past / 100 + past / 400

/-- The days of the months before a month. -/
def daysBeforeMonth (year : Nat) : Nat → Nat
  | 0 | 1 => 0
  | month + 2 => daysBeforeMonth year (month + 1) + daysInMonth year (month + 1)

/-- The month and the day that a number of days leads to, counted from the first day of
one of the months on; the last month takes what is left. -/
def monthAndDay (year days : Nat) : List Nat → Nat × Nat
  | [] => (12, days + 1)
  | month :: rest =>
    if days < daysInMonth year month then (month, days + 1)
    else monthAndDay year (days - daysInMonth year month) rest

end Calendar

namespace Date

open Calendar

/-- The number of a day, where the first day of the year 1 has the number 1. -/
def ordinal (d : Date) : Nat := daysBeforeYear d.year + daysBeforeMonth d.year d.month + d.day

/-- The day of a number. A cycle of 400 years has 146097 days, 100 years without a leap
day at their end have 36524, four years 1461. -/
def ofOrdinal (n : Nat) : Date :=
  let days := n - 1
  let centuries := min (days % 146097 / 36524) 3
  let inCentury := days % 146097 - centuries * 36524
  let years := min (inCentury % 1461 / 365) 3
  let year := days / 146097 * 400 + centuries * 100 + inCentury / 1461 * 4 + years + 1
  let (month, day) := monthAndDay year (days - daysBeforeYear year) (List.range' 1 12)
  ⟨year, month, day⟩

/-- The day of the week of a date, where Monday is 0. -/
def weekday (d : Date) : Nat := (d.ordinal + 6) % 7

/-- The number of the Monday of the first week of a year: the week with its first
Thursday. -/
def firstMonday (year : Nat) : Nat :=
  let newYear : Date := ⟨year, 1, 1⟩
  newYear.ordinal + (if 3 < newYear.weekday then 7 else 0) - newYear.weekday

/-- Whether a year has 53 weeks: it has a Thursday more than others. -/
def hasWeek53 (year : Nat) : Bool :=
  let first := Date.weekday ⟨year, 1, 1⟩
  first == 3 || (first == 2 && isLeap year)

/-- Year, month and day with dashes between them. -/
def text (d : Date) : String := padded 4 d.year ++ "-" ++ padded 2 d.month ++ "-" ++ padded 2 d.day

end Date

namespace Calendar

/-- Hours and minutes, and the seconds as far as they are there. -/
def offsetText (offset : Int) : String :=
  let size := offset.natAbs
  let seconds := size / microsecondsPerSecond
  let places := size % microsecondsPerSecond
  (if offset < 0 then "-" else "+") ++ padded 2 (seconds / 3600) ++ ":" ++
    padded 2 (seconds / 60 % 60) ++
    (if seconds % 60 = 0 ∧ places = 0 then "" else ":" ++ padded 2 (seconds % 60)) ++
    (if places = 0 then "" else "." ++ padded 6 places)

end Calendar

namespace TimeOfDay

open Calendar

/-- The beginning of a day. -/
def midnight : TimeOfDay := ⟨0, 0, 0, 0, none⟩

/-- Hour, minute and second with colons between them. -/
def clockText (t : TimeOfDay) : String :=
  padded 2 t.hour ++ ":" ++ padded 2 t.minute ++ ":" ++ padded 2 t.second

/-- The time with its fraction of a second and its offset, as far as they are there. -/
def text (t : TimeOfDay) : String :=
  t.clockText ++ (if t.microsecond = 0 then "" else "." ++ padded 6 t.microsecond) ++
    t.offset.elim "" offsetText

end TimeOfDay

namespace Moment

/-- Date and time with a `T` between them. -/
def text (m : Moment) : String := m.date.text ++ "T" ++ m.time.text

/-- Date and time to the second with a space between them; the year is not filled up. -/
def stamp (m : Moment) : String :=
  Nat.repr m.date.year ++ "-" ++ Calendar.padded 2 m.date.month ++ "-" ++
    Calendar.padded 2 m.date.day ++ " " ++ m.time.clockText

end Moment

end FitProfile
