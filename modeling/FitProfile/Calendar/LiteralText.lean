import FitProfile.Calendar.Basic
/-!
# FitProfile.Calendar.LiteralText -- dates and times as constructor calls

Error texts show a date, a time or a moment as the call that makes it: the parts in
order, seconds and microseconds only where they are not zero, and the offset as a length
of time.
-/

namespace FitProfile

open FitProfile.Number

namespace Calendar

/-- A call with its arguments. -/
def callText (name : String) (arguments : List String) : String :=
  "datetime." ++ name ++ "(" ++ ", ".intercalate arguments ++ ")"

/-- A length of time in days, seconds and microseconds, as far as they are not zero. Only
the days may be negative. -/
def spanText (span : Int) : String :=
  let perDay : Int := secondsPerDay * microsecondsPerSecond
  let argument (name : String) (n : Int) : List String :=
    if n = 0 then [] else [name ++ "=" ++ decimal n]
  let arguments := argument "days" (span.fdiv perDay) ++
    argument "seconds" ((span.fmod perDay).fdiv microsecondsPerSecond) ++
    argument "microseconds" (span.fmod microsecondsPerSecond)
  callText "timedelta" (if arguments.isEmpty then ["0"] else arguments)

/-- The argument of an offset. -/
def offsetArgument (offset : Int) : String :=
  "tzinfo=" ++
    if offset = 0 then "datetime.timezone.utc" else callText "timezone" [spanText offset]

end Calendar

open Calendar

namespace Date

/-- Year, month and day. -/
def arguments (d : Date) : List String := [d.year, d.month, d.day].map Nat.repr

/-- A date as a call. -/
def literalText (d : Date) : String := callText "date" d.arguments

end Date

namespace TimeOfDay

/-- Hour and minute, the smaller parts up to the last one that is not zero, the offset. -/
def arguments (t : TimeOfDay) : List String :=
  [t.hour, t.minute].map Nat.repr ++
  (if t.second = 0 ∧ t.microsecond = 0 then [] else [Nat.repr t.second]) ++
  (if t.microsecond = 0 then [] else [Nat.repr t.microsecond]) ++
  (t.offset.map offsetArgument).toList

/-- A time of day as a call. -/
def literalText (t : TimeOfDay) : String := callText "time" t.arguments

end TimeOfDay

namespace Moment

/-- A moment as a call. -/
def literalText (m : Moment) : String := callText "datetime" (m.date.arguments ++ m.time.arguments)

end Moment

end FitProfile
