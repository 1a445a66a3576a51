import FitProfile.Model.Basic
import FitProfile.Fault
/-!
# FitProfile.Model.Slices -- bit slices of a carrier

The slices of a packed field take bits of its carrier. They must stay within the width of
the carrier, if it has one, and no two of them may meet. The carrier of a field made by
hand may have an extent that is no number of elements; then no slice can be measured
against it.
-/

namespace FitProfile

open FitProfile.Number

/-- The bits that a carrier has for slices. -/
inductive Width where
  /-- As many as the slices need. -/
  | unbounded
  /-- A number of bits. -/
  | bits (n : Int)
  /-- A number of bits that may have a fraction. -/
  | real (x : Binary64)
  /-- No measure: the text of the extent stands where the number should. -/
  | unmeasured (text : String)
  deriving DecidableEq, Repr

/-- What is wrong with the slices of a carrier. -/
inductive SliceFault where
  | beyondCarrier (slice : Slice) (width : Int)
  | notMeasurable (slice : Slice)
  | overlap (earlier later : Slice)
  deriving DecidableEq, Repr

namespace Extent

/-- The width of a carrier of a base type, single or an array. An array that takes the
rest of the message has no bound; any other symbol stands once for each bit of an
element. -/
def width (base : BaseType) : Option Extent → Width
  | none => .bits base.bits
  | some (.count n) => .bits (base.bits * n)
  | some (.truth b) => .bits (if b then base.bits else 0)
  | some (.real x) => .real (x.times base.bits)
  | some (.symbol s) =>
    if Extent.symbol s = remaining then .unbounded
    else .unmeasured (String.join (List.replicate base.bits s))
  | some (.other written) => .unmeasured written

end Extent

namespace Slice

/-- The bit behind the last bit of a slice. -/
def bitEnd (slice : Slice) : Int := slice.bitOffset + slice.bits

/-- Whether two slices meet. -/
def meets (a b : Slice) : Bool := decide (a.bitOffset < b.bitEnd) && decide (b.bitOffset < a.bitEnd)

/-- What is wrong with a slice of a carrier of a width. -/
def widthFault? (slice : Slice) : Width → Option SliceFault
  | .unbounded => none
  | .bits n => if n < slice.bitEnd then some (.beyondCarrier slice n) else none
  | .real x =>
    if x.isLessThan slice.bitEnd then
      some (x.towardZero?.elim (.notMeasurable slice) (.beyondCarrier slice))
    else none
  | .unmeasured _ => some (.notMeasurable slice)

/-- Checks slices in order, each against the width and then against the slices `taken`
before it. -/
def check (width : Width) (taken : List Slice) : List Slice → Except SliceFault Unit
  | [] => .ok ()
  | slice :: rest =>
    match slice.widthFault? width with
    | some fault => .error fault
    | none =>
      match taken.find? fun other => slice.meets other with
      | some other => .error (.overlap other slice)
      | none => check width (taken ++ [slice]) rest

end Slice

namespace SliceFault

/-- A slice fault as a fault of the field at a location; `carrier` is its name. -/
def toFault (carrier : String) (location : Location) : SliceFault → Fault
  | .beyondCarrier slice width =>
    .ofIntegrity (.componentBeyondCarrier slice.name slice.bitOffset (slice.bitEnd - 1) carrier
      width) location
  | .notMeasurable _ => .carrierNotMeasurable carrier
  | .overlap earlier later =>
    .ofIntegrity (.componentsOverlap earlier.name later.name) location

end SliceFault

end FitProfile
