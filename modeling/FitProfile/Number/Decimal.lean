/-!
# FitProfile.Number.Decimal -- integers as decimal text

Decimal text of an integer, and the limit on its length: an integer of more than
`digitLimit` digits is neither read from nor written to decimal text.
-/

namespace FitProfile.Number

/-- The greatest number of decimal digits that is read or written. -/
def digitLimit : Nat := 4300

/-- Decimal text, with a minus sign in front of a negative integer. -/
def decimal (n : Int) : String :=
  if n < 0 then "-" ++ Nat.repr n.natAbs else Nat.repr n.natAbs

/-- Whether the decimal text of `n` stays within the limit. -/
def isWritable (n : Int) : Bool := decide ((Nat.toDigits 10 n.natAbs).length ≤ digitLimit)

end FitProfile.Number
