import FitProfile.Text.Ranges
import FitProfile.Text.WordTable
import FitProfile.Text.DecimalDigit
/-!
# FitProfile.Text.Identifier -- names that another tool can read as one word

A word character is a letter, a number or the underscore. Scrubbing a name puts an
underscore in the place of every other character, and one in front of a name that
starts with a decimal digit.
-/

namespace FitProfile.Text

/-- Word characters by code point. -/
def isWordCode (n : Nat) : Bool :=
  if n < 0x80 then
    (decide (0x30 ≤ n) && decide (n ≤ 0x39)) || (decide (0x41 ≤ n) && decide (n ≤ 0x5a)) ||
    n == 0x5f || (decide (0x61 ≤ n) && decide (n ≤ 0x7a))
  else inRanges wordRanges n

/-- Letters, numbers and the underscore. -/
def isWord (c : Char) : Bool := isWordCode c.toNat

/-- A word character stays, any other becomes an underscore. -/
def scrubChar (c : Char) : Char := if isWord c then c else '_'

/-- A name made of word characters that does not start with a decimal digit. -/
def scrubChars : List Char → List Char
  | [] => []
  | c :: rest =>
    if isDecimalDigit c then '_' :: (c :: rest).map scrubChar else (c :: rest).map scrubChar

/-- A name made of word characters that does not start with a decimal digit. -/
def scrub (s : String) : String := String.ofList (scrubChars s.toList)

end FitProfile.Text
