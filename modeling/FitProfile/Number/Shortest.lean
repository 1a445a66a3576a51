import FitProfile.Number.Binary64
import FitProfile.Number.Decimal
/-!
# FitProfile.Number.Shortest -- the shortest decimal text of a double precision number

A number is written with the fewest digits that read back as the same number; of several
such decimals the nearest one, and of two equally near ones the one with an even last
digit. The decimals that read back form an interval around the number, which reaches half
way to both neighbours and includes its ends when the mantissa is even. On the grid of
decimals with a given number of digits only the two neighbours of the number need to be
looked at.

Numbers from `1e-4` on and below `1e16` are written with all places, the others with an
exponent.
-/

namespace FitProfile.Number

/-- The number of decimal digits, none for zero. -/
def digitCount (n : Nat) : Nat := if n = 0 then 0 else (Nat.toDigits 10 n).length

/-- A positive number and the interval of the reals that round to it, all three in units
of `num / den`. -/
structure RoundingInterval where
  value : Nat
  low : Nat
  high : Nat
  num : Nat
  den : Nat
  closed : Bool

namespace RoundingInterval

/-- The interval of `mantissa · 2 ^ exponent`. The gap below a power of two is half the
gap above it, except at the least exponent. -/
def ofFinite (mantissa : Nat) (exponent : Int) : RoundingInterval :=
  let below := if mantissa = Nat.pow 2 52 ∧ Binary64.leastExponent < exponent then 1 else 2
  { value := 4 * mantissa
    low := 4 * mantissa - below
    high := 4 * mantissa + 2
    num := Nat.pow 2 (exponent - 2).toNat
    den := Nat.pow 2 (2 - exponent).toNat
    closed := mantissa % 2 == 0 }

/-- Whether `digits · 10 ^ exponent` lies in the interval. -/
def holds (r : RoundingInterval) (digits : Nat) (exponent : Int) : Bool :=
  let point := digits * r.den * Nat.pow 10 exponent.toNat
  let low := r.low * r.num * Nat.pow 10 (-exponent).toNat
  let high := r.high * r.num * Nat.pow 10 (-exponent).toNat
  if r.closed then decide (low ≤ point) && decide (point ≤ high)
  else decide (low < point) && decide (point < high)

/-- The exponent of the greatest power of ten that is at most the number. -/
def floorLog10 (r : RoundingInterval) : Int :=
  let above := r.value * r.num
  if r.den ≤ above then (digitCount (above / r.den) : Int) - 1
  else -(digitCount ((r.den + above - 1) / above - 1) : Int)

/-- The decimal in the interval with digits at `10 ^ exponent`, if there is one: of the two
neighbours of the number on that grid the nearer one that lies in the interval. -/
def onGrid? (r : RoundingInterval) (exponent : Int) : Option Nat :=
  let num := r.value * r.num * Nat.pow 10 (-exponent).toNat
  let den := r.den * Nat.pow 10 exponent.toNat
  let floor := num / den
  let twice := 2 * (num % den)
  match r.holds floor exponent, r.holds (floor + 1) exponent with
  | true, true =>
    if twice < den then some floor
    else if den < twice then some (floor + 1)
    else some (if floor % 2 = 0 then floor else floor + 1)
  | true, false => some floor
  | false, true => some (floor + 1)
  | false, false => none

/-- The decimal `(digits, exponent)` with the fewest digits in the interval. -/
def shortest (r : RoundingInterval) : Nat × Int :=
  let top := r.floorLog10
  let found := (List.range 17).findSome? fun (n : Nat) =>
    (r.onGrid? (top - n)).map fun digits => (digits, top - n)
  found.getD (r.value * r.num, 0)

end RoundingInterval

/-- The digits of a decimal number with the zeros at its end taken off. -/
def significantDigits (n : Nat) : List Char :=
  ((Nat.toDigits 10 n).reverse.dropWhile (· == '0')).reverse

/-- An exponent with its sign and at least two digits. -/
def exponentText (exponent : Int) : List Char :=
  let digits := Nat.toDigits 10 exponent.natAbs
  (if exponent < 0 then '-' else '+') :: (List.replicate (2 - digits.length) '0' ++ digits)

/-- Decimal text of `0.digits · 10 ^ point`. -/
def placedText (digits : List Char) (point : Int) : List Char :=
  let count := digits.length
  if point ≤ -4 ∨ 16 < point then
    let mantissa := match digits with
      | [] => []
      | [d] => [d]
      | d :: rest => d :: '.' :: rest
    mantissa ++ 'e' :: exponentText (point - 1)
  else if point ≤ 0 then '0' :: '.' :: (List.replicate (-point).toNat '0' ++ digits)
  else if count ≤ point.toNat then
    digits ++ List.replicate (point.toNat - count) '0' ++ ['.', '0']
  else digits.take point.toNat ++ '.' :: digits.drop point.toNat

namespace Binary64

/-- Decimal text of `mantissa · 2 ^ exponent`. -/
def magnitudeText (mantissa : Nat) (exponent : Int) : List Char :=
  if mantissa = 0 then ['0', '.', '0']
  else
    let (digits, power) := (RoundingInterval.ofFinite mantissa exponent).shortest
    placedText (significantDigits digits) (digitCount digits + power)

/-- The shortest decimal text that reads back as the same number. -/
def text : Binary64 → String
  | .notANumber => "nan"
  | .infinite false => "inf"
  | .infinite true => "-inf"
  | .finite negative mantissa exponent =>
    String.ofList ((if negative then ['-'] else []) ++ magnitudeText mantissa exponent)

end Binary64

end FitProfile.Number
