import FitProfile.Text.Blank
import FitProfile.Text.DecimalDigit
import FitProfile.Number.IntegerText
/-!
# FitProfile.Version -- release numbers of the SDK

A release is a pair of numbers, written with a full stop between them and ordered by the
major part first. The minor part is a number of its own, so `16.2` lies below `16.20`.
File headers carry the release as one number of base one hundred.

A version text is optional white space and then two runs of decimal digits around a full
stop; whatever follows does not count. A run of more digits than are read from decimal
text is a failure of its own.
-/

namespace FitProfile

open FitProfile.Number

/-- A release of the SDK. -/
structure Version where
  major : Int
  minor : Int
  deriving DecidableEq, Repr

namespace Version

/-- Major part first. -/
def lt (a b : Version) : Bool :=
  decide (a.major < b.major) || (a.major == b.major && decide (a.minor < b.minor))

/-- Major part first. -/
def le (a b : Version) : Bool := a.lt b || a == b

/-- `major.minor`. -/
def text (v : Version) : String := decimal v.major ++ "." ++ decimal v.minor

/-- The integers in the text of a release. -/
def numbers (v : Version) : List Int := [v.major, v.minor]

/-- The release as one number: the minor part takes the last two places. -/
def scaled (v : Version) : Int := v.major * 100 + v.minor

/-- What a text says about a release. -/
inductive Reading where
  | absent
  | found (version : Version)
  | tooManyDigits (count : Nat)
  deriving DecidableEq, Repr

/-- The two runs of digits of a version text. -/
def digitRuns? (cs : List Char) : Option (List Char × List Char) :=
  let body := cs.dropWhile Text.isBlank
  let major := body.takeWhile Text.isDecimalDigit
  match body.dropWhile Text.isDecimalDigit with
  | '.' :: rest =>
    let minor := rest.takeWhile Text.isDecimalDigit
    if major.isEmpty || minor.isEmpty then none else some (major, minor)
  | _ => none

/-- The number that a run of decimal digits denotes. -/
def runValue (run : List Char) : Int := ofDigits 10 (run.filterMap Text.digitValue)

/-- Reads a version text. -/
def read (s : String) : Reading :=
  match digitRuns? s.toList with
  | none => .absent
  | some (major, minor) =>
    if digitLimit < major.length then .tooManyDigits major.length
    else if digitLimit < minor.length then .tooManyDigits minor.length
    else .found ⟨runValue major, runValue minor⟩

end Version

end FitProfile
