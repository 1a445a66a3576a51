/-!
# FitProfile.Number.Binary64 -- double precision numbers, exactly

A finite number is `mantissa · 2 ^ exponent` with a sign. Results of `ofRatio` are in
normal form: the mantissa lies below `2 ^ 53`, the exponent is at least `-1074`, and only
at that exponent is the mantissa below `2 ^ 52`. Rounding goes to the nearest such
number, a tie to the even mantissa, and from half a unit above the greatest number on to
infinity.
-/

namespace FitProfile.Number

/-- A double precision number. -/
inductive Binary64 where
  | notANumber
  | infinite (negative : Bool)
  | finite (negative : Bool) (mantissa : Nat) (exponent : Int)
  deriving DecidableEq, Repr

namespace Binary64

/-- The least exponent. -/
def leastExponent : Int := -1074

/-- The greatest exponent. -/
def greatestExponent : Int := 971

/-- Zero with a sign. -/
def zero (negative : Bool) : Binary64 := .finite negative 0 leastExponent

/-- The quotient rounded to the nearest natural number, a tie to the even one. -/
def divideToEven (num den : Nat) : Nat :=
  let quotient := num / den
  let twice := 2 * (num % den)
  if twice < den then quotient
  else if den < twice then quotient + 1
  else if quotient % 2 = 0 then quotient else quotient + 1

/-- The exponent of the greatest power of two that is at most `num / den`. -/
def floorLog2 (num den : Nat) : Int :=
  let top : Int := (Nat.log2 num : Int) - (Nat.log2 den : Int)
  if den * Nat.pow 2 top.toNat ≤ num * Nat.pow 2 (-top).toNat then top else top - 1

/-- The mantissa of `num / den` at an exponent, rounded. -/
def mantissaAt (num den : Nat) (exponent : Int) : Nat :=
  divideToEven (num * Nat.pow 2 (-exponent).toNat) (den * Nat.pow 2 exponent.toNat)

/-- The number nearest to `num / den`, for `num` and `den` above zero. -/
def ofRatio (negative : Bool) (num den : Nat) : Binary64 :=
  let exponent := max (floorLog2 num den - 52) leastExponent
  let mantissa := mantissaAt num den exponent
  let (mantissa, exponent) :=
    if mantissa = Nat.pow 2 53 then (Nat.pow 2 52, exponent + 1) else (mantissa, exponent)
  if greatestExponent < exponent then .infinite negative else .finite negative mantissa exponent

/-- The integer that a number is; `none` when it has a fraction, is infinite or no number. -/
def integer? : Binary64 → Option Int
  | .finite negative mantissa exponent =>
    let magnitude :=
      if 0 ≤ exponent then some (mantissa * Nat.pow 2 exponent.toNat)
      else if mantissa % Nat.pow 2 (-exponent).toNat = 0 then
        some (mantissa / Nat.pow 2 (-exponent).toNat)
      else none
    magnitude.map fun n => if negative then -(n : Int) else n
  | _ => none

/-- The integer next to a number on the way to zero, for finite numbers. -/
def towardZero? : Binary64 → Option Int
  | .finite negative mantissa exponent =>
    let magnitude : Nat := mantissa * Nat.pow 2 exponent.toNat / Nat.pow 2 (-exponent).toNat
    some (if negative then -(magnitude : Int) else magnitude)
  | _ => none

/-- How a number compares with an integer; what is no number does not compare. -/
def compareWith (x : Binary64) (n : Int) : Option Ordering :=
  match x with
  | .notANumber => none
  | .infinite negative => some (if negative then .lt else .gt)
  | .finite negative mantissa exponent =>
    let magnitude : Int := (mantissa * Nat.pow 2 exponent.toNat : Nat)
    some (compare (if negative then -magnitude else magnitude)
      (n * (Nat.pow 2 (-exponent).toNat : Nat)))

/-- Whether a number is less than an integer. -/
def isLessThan (x : Binary64) (n : Int) : Bool := x.compareWith n == some .lt

/-- A multiple of a number, rounded; `factor` is above zero. -/
def times (x : Binary64) (factor : Nat) : Binary64 :=
  match x with
  | .finite negative 0 _ => .zero negative
  | .finite negative mantissa exponent =>
    .ofRatio negative (mantissa * factor * Nat.pow 2 exponent.toNat) (Nat.pow 2 (-exponent).toNat)
  | x => x

/-- Equality of values: the two zeros are equal, and nothing equals what is no number. -/
def sameValue : Binary64 → Binary64 → Bool
  | .finite _ 0 _, .finite _ 0 _ => true
  | .notANumber, _ => false
  | x, y => decide (x = y)

end Binary64

end FitProfile.Number
