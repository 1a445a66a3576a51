import FitProfile.Calendar.LiteralText
import FitProfile.Number.RealText
import FitProfile.Text.Quoted
/-!
# FitProfile.Calendar.IsoText -- reading dates and times

Dates, times and moments are read from their ISO 8601 text. A date is a year with month
and day or with a week of the year and a day of the week, either with dashes or without
any; a week alone means its Monday. A time has one to three fields of two digits, either
with colons or without any, then a fraction of which six places count, then an offset. A
moment is a date, any one character, and a time; a date alone means its beginning.

Readers take somewhat more than is written: what stands behind the eight digits of a date
or behind the six places of a fraction does not count where an offset or the length of
the text still makes the end certain. First the whole text is taken apart, then the
offset is checked, then each field.
-/

namespace FitProfile

open FitProfile.Number

/-- Why a text is no date, time or moment. -/
inductive CalendarFault where
  | notIso (text : String)
  | yearOutOfRange (year : Nat)
  | monthOutOfRange
  | dayOutOfRange
  | hourOutOfRange
  | minuteOutOfRange
  | secondOutOfRange
  | offsetOutOfRange (offset : Int)
  deriving DecidableEq, Repr

namespace CalendarFault

/-- The wording of a fault. -/
def message : CalendarFault → String
  | .notIso text => "Invalid isoformat string: " ++ Text.quoted text
  | .yearOutOfRange year => "year " ++ Nat.repr year ++ " is out of range"
  | .monthOutOfRange => "month must be in 1..12"
  | .dayOutOfRange => "day is out of range for month"
  | .hourOutOfRange => "hour must be in 0..23"
  | .minuteOutOfRange => "minute must be in 0..59"
  | .secondOutOfRange => "second must be in 0..59"
  | .offsetOutOfRange offset =>
    "offset must be a timedelta strictly between -timedelta(hours=24) and timedelta(hours=24), " ++
      "not " ++ Calendar.spanText offset ++ "."

end CalendarFault

namespace Calendar

/-- A number of exactly so many digits, and what follows it. -/
def takeDigits? (places : Nat) (cs : List Char) : Option (Nat × List Char) :=
  let run := cs.take places
  if run.length = places ∧ run.all isAsciiDigit then
    some (ofDigits 10 (digitRun run), cs.drop places)
  else none

/-- Drops a dash. -/
def dropDash? : List Char → Option (List Char)
  | '-' :: rest => some rest
  | _ => none

/-- The year, month and day of a day of a week. The weeks of the year 0 lie before all
months. -/
def ofWeek? (year week day : Nat) : Option (Nat × Nat × Nat) :=
  if week = 0 ∨ 53 < week ∨ (week = 53 ∧ (year = 0 ∨ !Date.hasWeek53 year)) then none
  else if day = 0 ∨ 7 < day then none
  else if year = 0 then some (1, 0, 1)
  else
    let date := Date.ofOrdinal (Date.firstMonday year + (week - 1) * 7 + (day - 1))
    some (date.year, date.month, date.day)

/-- The year, month and day at the start of a text. -/
def dateFields? (cs : List Char) : Option (Nat × Nat × Nat) := do
  let (year, rest) ← takeDigits? 4 cs
  let dashed := rest.head? == some '-'
  match if dashed then rest.drop 1 else rest with
  | 'W' :: rest =>
    let (week, rest) ← takeDigits? 2 rest
    if rest.isEmpty then ofWeek? year week 1
    else
      let (day, _) ← takeDigits? 1 (← if dashed then dropDash? rest else some rest)
      ofWeek? year week day
  | rest =>
    let (month, rest) ← takeDigits? 2 rest
    let (day, _) ← takeDigits? 2 (← if dashed then dropDash? rest else some rest)
    return (year, month, day)

/-- The length of the date at the start of a moment. -/
def dateLength (cs : List Char) : Nat :=
  if cs.length = 7 then 7
  else if cs[4]? = some '-' then
    if cs[5]? ≠ some 'W' then 10
    else if cs[8]? = some '-' ∧ !(cs[10]?.any isAsciiDigit) then 10
    else 8
  else if cs[4]? = some 'W' then
    let digits := ((cs.drop 7).takeWhile isAsciiDigit).length
    if digits < 2 then 7 + digits else if digits % 2 = 0 then 8 else 7
  else 8

/-- The fields of a clock, its microseconds, and whether something is left over. -/
structure ClockReading where
  fields : List Nat
  microsecond : Nat
  leftOver : Bool
  deriving DecidableEq, Repr

/-- Reads a fraction of a second; `followed` says that an offset follows the clock. -/
def readFraction? (followed : Bool) (cs : List Char) : Option ClockReading := do
  let places := min 6 cs.length
  let (value, rest) ← takeDigits? places cs
  let leftOver := match rest.dropWhile isAsciiDigit with
    | [] => followed
    | c :: _ => c != '\x00'
  return ⟨[], value * Nat.pow 10 (6 - places), leftOver⟩

/-- Reads up to so many fields of a clock; `colons` says whether colons stand between
them, once that is known. -/
def readFields? (followed : Bool) (colons : Option Bool) : Nat → List Char → Option ClockReading
  | 0, cs => readFraction? followed cs
  | n + 1, cs => do
    let (value, rest) ← takeDigits? 2 cs
    let withValue (r : ClockReading) : ClockReading := { r with fields := value :: r.fields }
    match rest with
    | [] => return ⟨[value], 0, followed⟩
    | [c] => if c.toNat < 0x80 then return ⟨[value], 0, c != '\x00'⟩ else none
    | c :: more =>
      let colons := colons.getD (c == ':')
      if colons && c == ':' then (readFields? followed colons n more).map withValue
      else if c == '.' || c == ',' then (readFraction? followed more).map withValue
      else if colons then none
      else (readFields? followed colons n (c :: more)).map withValue

/-- Characters that an offset begins with. -/
def isOffsetMark (c : Char) : Bool := c == '+' || c == '-' || c == 'Z'

/-- Reads an offset; one of less than a second is none. -/
def readOffset? : List Char → Option Int
  | 'Z' :: rest => if rest.head?.all (· == '\x00') then some 0 else none
  | sign :: rest => do
    let clock ← readFields? false none 3 rest
    if clock.leftOver then none
    let seconds := clock.fields.getD 0 0 * 3600 + clock.fields.getD 1 0 * 60 +
      clock.fields.getD 2 0
    return if seconds = 0 then 0
      else withSign (sign == '-') (seconds * microsecondsPerSecond + clock.microsecond)
  | [] => none

/-- Reads a time of day, whatever its fields say. -/
def readTime? (cs : List Char) : Option TimeOfDay := do
  let zone := cs.dropWhile fun c => !isOffsetMark c
  let clock ← readFields? (!zone.isEmpty) none 3 (cs.takeWhile fun c => !isOffsetMark c)
  let time : TimeOfDay := ⟨clock.fields.getD 0 0, clock.fields.getD 1 0, clock.fields.getD 2 0,
    clock.microsecond, none⟩
  if zone.isEmpty then
    if clock.leftOver then none else return time
  else return { time with offset := some (← readOffset? zone) }

/-- Checks an offset, which must be shorter than a day. -/
def checkOffset (time : TimeOfDay) : Except CalendarFault Unit :=
  match time.offset with
  | some offset =>
    if offset.natAbs < secondsPerDay * microsecondsPerSecond then .ok ()
    else .error (.offsetOutOfRange offset)
  | none => .ok ()

/-- Checks the fields of a date. -/
def checkDate (fields : Nat × Nat × Nat) : Except CalendarFault Date :=
  let (year, month, day) := fields
  if year = 0 ∨ lastYear < year then .error (.yearOutOfRange year)
  else if month = 0 ∨ 12 < month then .error .monthOutOfRange
  else if day = 0 ∨ daysInMonth year month < day then .error .dayOutOfRange
  else .ok ⟨year, month, day⟩

/-- Checks the fields of a clock. -/
def checkClock (time : TimeOfDay) : Except CalendarFault Unit :=
  if 23 < time.hour then .error .hourOutOfRange
  else if 59 < time.minute then .error .minuteOutOfRange
  else if 59 < time.second then .error .secondOutOfRange
  else .ok ()

end Calendar

open Calendar

namespace Date

/-- Reads a date. -/
def ofIso (s : String) : Except CalendarFault Date :=
  match if [7, 8, 10].contains s.utf8ByteSize then dateFields? s.toList else none with
  | some fields => checkDate fields
  | none => .error (.notIso s)

end Date

namespace TimeOfDay

/-- Reads a time of day; a `T` may lead it. -/
def ofIso (s : String) : Except CalendarFault TimeOfDay :=
  let cs := s.toList
  match readTime? (if cs.head? = some 'T' then cs.drop 1 else cs) with
  | some time => do
    checkOffset time
    checkClock time
    return time
  | none => .error (.notIso s)

end TimeOfDay

namespace Moment

/-- The fields of the date and the time of a text. -/
def fields? (cs : List Char) : Option ((Nat × Nat × Nat) × TimeOfDay) := do
  let length := dateLength cs
  let date ← dateFields? (cs.take length)
  match cs.drop length with
  | [] => return (date, .midnight)
  | _ :: time => return (date, ← readTime? time)

/-- Reads a moment. -/
def ofIso (s : String) : Except CalendarFault Moment :=
  match fields? s.toList with
  | some (fields, time) => do
    checkOffset time
    let date ← checkDate fields
    checkClock time
    return ⟨date, time⟩
  | none => .error (.notIso s)

end Moment

end FitProfile
