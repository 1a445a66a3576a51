import FitProfile.Number.Quantity
import FitProfile.RuleSet.Registry
/-!
# FitProfile.RuleSet.Request -- releases that are asked for by any numbers

A generator asks for a release by two integers. The selection as such takes any two numbers. It
compares them with the bounds of a range, the major parts first, so that a number with a fraction
may lie in a range, and what is no number lies in none. A refusal words the ranges and then the
two numbers, each cut towards zero. Infinity and what is no number cannot be cut, and an integer
may have too many digits; then the refusal comes to a failure of its own.
-/

namespace FitProfile

open FitProfile.Number

/-- A release as it is asked for, by any two numbers. -/
structure Request where
  major : Quantity
  minor : Quantity
  deriving DecidableEq, Repr

/-- A release is asked for by its two parts. -/
def Version.request (v : Version) : Request := ⟨.whole v.major, .whole v.minor⟩

/-- What comes of a request that no range holds. -/
inductive RequestFault where
  | unsupported (request : Request) (supported : List String)
  /-- An integer in the wording is too long to write. -/
  | tooManyDigits
  /-- An infinite number cannot be cut to an integer. -/
  | infinite
  /-- What is no number cannot be cut to an integer. -/
  | notANumber
  deriving DecidableEq, Repr

namespace RequestFault

/-- An integer that is too long to write. -/
def ofWhole? (n : Int) : Option RequestFault := if isWritable n then none else some .tooManyDigits

/-- Why a number cannot be written as an integer, if it cannot. -/
def ofQuantity? : Quantity → Option RequestFault
  | .whole n => ofWhole? n
  | .real .notANumber => some .notANumber
  | .real (.infinite _) => some .infinite
  | .real x => x.towardZero?.bind ofWhole?

end RequestFault

namespace Request

/-- How a request compares with a release, major parts first. -/
def compareWith (request : Request) (version : Version) : Option Ordering :=
  match request.major.compareWith version.major with
  | some .eq => request.minor.compareWith version.minor
  | order => order

/-- Why a request cannot be worded, if it cannot; the major part comes first. -/
def fault? (request : Request) : Option RequestFault :=
  (RequestFault.ofQuantity? request.major).or (RequestFault.ofQuantity? request.minor)

/-- The release that stands for a request in texts. -/
def worded (request : Request) : Version :=
  ⟨request.major.towardZero?.getD 0, request.minor.towardZero?.getD 0⟩

end Request

namespace RequestFault

/-- The text of a fault. -/
def message : RequestFault → String
  | .unsupported request supported => Fault.unsupportedText request.worded supported
  | .tooManyDigits => Fault.tooManyDigitsToWrite.message
  | .infinite => "cannot convert float infinity to integer"
  | .notANumber => "cannot convert float NaN to integer"

end RequestFault

namespace RuleSet

/-- Whether the range of a rule set holds a request. -/
def holds (rules : RuleSet) (request : Request) : Bool :=
  (request.compareWith rules.minVersion).any Ordering.isGE &&
    (request.compareWith rules.maxVersion).any Ordering.isLE

/-- The refusal of a request, which words the ranges of the registry first. -/
def refusal (registry : List RuleSet) (request : Request) : RequestFault :=
  if (registry.flatMap bounds).all isWritable then
    request.fault?.getD (.unsupported request (supportedRanges registry))
  else .tooManyDigits

/-- The first rule set of a registry whose range holds a request. -/
def selectFor (registry : List RuleSet) (request : Request) : Except RequestFault RuleSet :=
  match registry.find? fun rules => rules.holds request with
  | some rules => .ok rules
  | none => .error (refusal registry request)

end RuleSet

end FitProfile
