import FitProfile.Number.Binary64
import FitProfile.Number.IntegerText
/-!
# FitProfile.Number.RealText -- reading double precision numbers

The text of a number may stand between white space. It has an optional sign and then
either one of the words `inf`, `infinity` and `nan` in any letter case, or digits with
an optional point and an optional exponent. A single underscore may stand between two
digits. The value is the double precision number nearest to the decimal fraction.
-/

namespace FitProfile.Number

open FitProfile.Text

/-- A character with a digit of any script brought to ASCII. -/
def asciiDigit (c : Char) : Char :=
  match digitValue c with
  | some d => Char.ofNat (0x30 + d)
  | none => c

/-- ASCII digits. -/
def isAsciiDigit (c : Char) : Bool := decide (0x30 ≤ c.toNat) && decide (c.toNat ≤ 0x39)

/-- A text without its underscores, each of which must stand between two digits;
`previous` is the character in front. -/
def dropUnderscores (previous : Option Char) : List Char → Option (List Char)
  | [] => some []
  | '_' :: rest =>
    if previous.any isAsciiDigit && rest.head?.any isAsciiDigit then
      dropUnderscores (some '_') rest
    else none
  | c :: rest => (dropUnderscores (some c) rest).map (c :: ·)

/-- The values of a run of ASCII digits. -/
def digitRun (cs : List Char) : List Nat := cs.map fun c => c.toNat - 0x30

/-- The double precision number nearest to `digits · 10 ^ exponent`, the most significant
digit first. Numbers far outside the range are decided by their size alone. -/
def Binary64.ofDecimal (negative : Bool) (digits : List Nat) (exponent : Int) : Binary64 :=
  let digits := digits.dropWhile (· == 0)
  let size := (digits.length : Int) + exponent
  if digits.isEmpty then .zero negative
  else if 310 < size then .infinite negative
  else if size < -330 then .zero negative
  else .ofRatio negative (ofDigits 10 digits * Nat.pow 10 exponent.toNat)
    (Nat.pow 10 (-exponent).toNat)

/-- The exponent after a decimal fraction: nothing, or `e`, an optional sign and digits. -/
def exponentPart? : List Char → Option Int
  | [] => some 0
  | mark :: rest =>
    let (negative, digits) := takeSign rest
    if (mark = 'e' ∨ mark = 'E') ∧ !digits.isEmpty ∧ digits.all isAsciiDigit then
      some (withSign negative (ofDigits 10 (digitRun digits)))
    else none

/-- A decimal fraction without sign: digits around an optional point, at least one of
them, and an optional exponent. -/
def fraction? (negative : Bool) (cs : List Char) : Option Binary64 :=
  let whole := cs.takeWhile isAsciiDigit
  let rest := cs.dropWhile isAsciiDigit
  let (part, rest) := match rest with
    | '.' :: rest => (rest.takeWhile isAsciiDigit, rest.dropWhile isAsciiDigit)
    | rest => ([], rest)
  if whole.isEmpty && part.isEmpty then none
  else (exponentPart? rest).map fun exponent =>
    .ofDecimal negative (digitRun (whole ++ part)) (exponent - part.length)

/-- A number without sign: one of the special words, or a decimal fraction. -/
def unsigned? (negative : Bool) (cs : List Char) : Option Binary64 :=
  let word := cs.map Char.toLower
  if word = "inf".toList ∨ word = "infinity".toList then some (.infinite negative)
  else if word = "nan".toList then some .notANumber
  else fraction? negative cs

/-- Reads a double precision number. -/
def real? (s : String) : Option Binary64 := do
  let body ← dropUnderscores none ((trimNumeral s.toList).map asciiDigit)
  let (negative, rest) := takeSign body
  unsigned? negative rest

end FitProfile.Number
