import FitProfile.Number.Shortest
import FitProfile.Number.RealText
/-!
# FitProfile.Number.Quantity -- scales and offsets

A scale or an offset is a whole number or a double precision number with a fraction. A
number cell is read as a double precision number; one without fraction counts as whole.
-/

namespace FitProfile.Number

/-- A whole or a fractional number. -/
inductive Quantity where
  | whole (n : Int)
  | real (x : Binary64)
  deriving DecidableEq, Repr

namespace Quantity

/-- A double precision number without fraction is a whole number. -/
def ofReal (x : Binary64) : Quantity :=
  match x.integer? with
  | some n => .whole n
  | none => .real x

/-- Reads a quantity. -/
def ofText? (s : String) : Option Quantity := (real? s).map ofReal

/-- Decimal text. -/
def text : Quantity → String
  | .whole n => decimal n
  | .real x => x.text

/-- The integer next to a quantity on the way to zero, for finite ones. -/
def towardZero? : Quantity → Option Int
  | .whole n => some n
  | .real x => x.towardZero?

/-- How a quantity compares with an integer; what is no number does not compare. -/
def compareWith : Quantity → Int → Option Ordering
  | .whole a, n => some (compare a n)
  | .real x, n => x.compareWith n

/-- Equality of values. -/
def sameValue : Quantity → Quantity → Bool
  | .whole a, .whole b => a == b
  | .real x, .real y => x.sameValue y
  | .whole a, .real y => y.integer? == some a
  | .real x, .whole b => x.integer? == some b

end Quantity

end FitProfile.Number
