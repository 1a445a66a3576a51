import FitProfile.Text.Ranges
import FitProfile.Text.HiddenTable
/-!
# FitProfile.Text.Quoted -- text between quotes

A quoted text stands between single quotes, or between double quotes when it holds a
single quote and no double one. The backslash, the quote in use and the characters
without a visible form are escaped: tabulator, line feed and carriage return by a
letter, any other by its code point in two, four or eight hexadecimal digits. So a
quoted text never leaves its line. Bytes are quoted in the same way, with a `b` in
front, and every byte beyond ASCII escaped.
-/

namespace FitProfile.Text

/-- Visible characters and the space, by code point. -/
def isPrintableCode (n : Nat) : Bool :=
  if n < 0x80 then decide (0x20 ≤ n) && decide (n < 0x7f) else !inRanges hiddenRanges n

/-- Characters that a quoted text shows as they are. -/
def isPrintable (c : Char) : Bool := isPrintableCode c.toNat

/-- A number in hexadecimal digits, filled up with zeros to a width. -/
def hexPadded (width n : Nat) : List Char :=
  let digits := Nat.toDigits 16 n
  List.replicate (width - digits.length) '0' ++ digits

/-- A code point as an escape of the shortest of the three widths. -/
def escapeCode (n : Nat) : List Char :=
  if n < 0x100 then '\\' :: 'x' :: hexPadded 2 n
  else if n < 0x10000 then '\\' :: 'u' :: hexPadded 4 n
  else '\\' :: 'U' :: hexPadded 8 n

/-- One character of a text quoted by `quote`. -/
def escapeChar (quote c : Char) : List Char :=
  if c = quote ∨ c = '\\' then ['\\', c]
  else if c = '\t' then ['\\', 't']
  else if c = '\n' then ['\\', 'n']
  else if c = '\r' then ['\\', 'r']
  else if isPrintable c then [c]
  else escapeCode c.toNat

/-- The quote for a text: the single one, unless the text holds it and no double one. -/
def quoteFor (cs : List Char) : Char :=
  if cs.contains '\'' && !cs.contains '"' then '"' else '\''

/-- A text between quotes. -/
def quoteChars (cs : List Char) : List Char :=
  let quote := quoteFor cs
  quote :: cs.flatMap (escapeChar quote) ++ [quote]

/-- A text between quotes. -/
def quoted (s : String) : String := String.ofList (quoteChars s.toList)

/-- One byte of a quoted byte string: as the ASCII character of its number where that is
visible. -/
def escapeByte (quote : Char) (b : UInt8) : List Char :=
  if b.toNat < 0x80 then escapeChar quote (Char.ofNat b.toNat) else escapeCode b.toNat

/-- Bytes between quotes, marked by a `b`. -/
def quotedBytes (bytes : List UInt8) : String :=
  let quote := quoteFor (bytes.map fun b => Char.ofNat b.toNat)
  String.ofList ('b' :: quote :: bytes.flatMap (escapeByte quote) ++ [quote])

end FitProfile.Text
