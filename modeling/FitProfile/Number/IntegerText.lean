import FitProfile.Text.Blank
import FitProfile.Text.DecimalDigit
import FitProfile.Number.Decimal
/-!
# FitProfile.Number.IntegerText -- reading integers

Three grammars share one shape: white space around the number, an optional sign, and
digits in which single underscores may stand between two digits. Decimal digits may come
from any script.

* `integer?` reads decimal digits.
* `hexadecimal?` reads hexadecimal digits, with an optional `0x` in front.
* `literal?` lets the text choose its base by `0x`, `0o` or `0b`; without such a mark it
  is decimal, and then a zero may lead only when the value is zero.

The number of digits of a decimal number is limited; the other bases know no limit.
-/

namespace FitProfile.Number

open FitProfile.Text

/-- White space around a number. The information separators do not count here. -/
def isNumeralBlank (c : Char) : Bool :=
  let n := c.toNat
  if n < 0x80 then (decide (0x09 ≤ n) && decide (n ≤ 0x0d)) || n == 0x20 else isBlank c

/-- A text without the white space around the number in it. -/
def trimNumeral (cs : List Char) : List Char := trimBy isNumeralBlank cs

/-- Splits off a sign; `true` stands for minus. -/
def takeSign : List Char → Bool × List Char
  | '-' :: rest => (true, rest)
  | '+' :: rest => (false, rest)
  | cs => (false, cs)

/-- The value of a digit or ASCII letter. -/
def digitOrLetter (c : Char) : Option Nat :=
  let n := c.toNat
  if 0x61 ≤ n ∧ n ≤ 0x7a then some (n - 0x61 + 10)
  else if 0x41 ≤ n ∧ n ≤ 0x5a then some (n - 0x41 + 10)
  else digitValue c

/-- The value of a digit in a base. -/
def digitIn (base : Nat) (c : Char) : Option Nat :=
  (digitOrLetter c).filter fun d => decide (d < base)

/-- The digits of a numeral, the most significant first. A single underscore may stand
between two digits. -/
def readDigits (base : Nat) : List Char → Option (List Nat)
  | [] => none
  | [c] => (digitIn base c).map ([·])
  | c :: '_' :: rest => do
    let d ← digitIn base c
    let ds ← readDigits base rest
    return d :: ds
  | c :: next :: rest => do
    let d ← digitIn base c
    let ds ← readDigits base (next :: rest)
    return d :: ds

/-- The number that digits denote, the most significant first. -/
def ofDigits (base : Nat) (digits : List Nat) : Nat :=
  digits.foldl (fun n d => n * base + d) 0

/-- A natural number without sign in one of the bases without a limit. -/
def natural? (base : Nat) (cs : List Char) : Option Nat := (readDigits base cs).map (ofDigits base)

/-- A decimal natural number without sign, within the limit on its digits. -/
def decimalNatural? (cs : List Char) : Option Nat :=
  ((readDigits 10 cs).filter fun ds => decide (ds.length ≤ digitLimit)).map (ofDigits 10)

/-- A magnitude with its sign. -/
def withSign (negative : Bool) (n : Nat) : Int := if negative then -(n : Int) else n

/-- Characters without the base mark `0x`, `0o` or `0b` (the letter in either case) and
without the one underscore that may follow it; `none` when there is no such mark. -/
def dropBaseMark? (small capital : Char) : List Char → Option (List Char)
  | zero :: mark :: rest =>
    if digitValue zero = some 0 ∧ (mark = small ∨ mark = capital) then
      match rest with
      | '_' :: digits => some digits
      | digits => some digits
    else none
  | _ => none

/-- A decimal integer. -/
def integer? (s : String) : Option Int :=
  let (negative, body) := takeSign (trimNumeral s.toList)
  (decimalNatural? body).map (withSign negative)

/-- A hexadecimal integer, with or without the mark `0x`. -/
def hexadecimal? (s : String) : Option Int :=
  let (negative, body) := takeSign (trimNumeral s.toList)
  (natural? 16 ((dropBaseMark? 'x' 'X' body).getD body)).map (withSign negative)

/-- The magnitude of an integer that names its base. -/
def literalNatural? (body : List Char) : Option Nat :=
  match dropBaseMark? 'x' 'X' body with
  | some digits => natural? 16 digits
  | none =>
    match dropBaseMark? 'o' 'O' body with
    | some digits => natural? 8 digits
    | none =>
      match dropBaseMark? 'b' 'B' body with
      | some digits => natural? 2 digits
      | none =>
        if body.head?.bind digitValue = some 0 then
          (decimalNatural? body).filter fun n => n == 0
        else decimalNatural? body

/-- An integer that names its base. -/
def literal? (s : String) : Option Int :=
  let (negative, body) := takeSign (trimNumeral s.toList)
  (literalNatural? body).map (withSign negative)

end FitProfile.Number
