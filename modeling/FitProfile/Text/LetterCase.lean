import FitProfile.Text.Ranges
import FitProfile.Text.CaseTable
/-!
# FitProfile.Text.LetterCase -- lower case

Lower case is taken letter by letter, with two exceptions. A capital I with a dot
becomes two characters. A capital sigma becomes the final form at the end of a word: a
cased letter stands before it and none after it, where case-ignorable characters between
do not count.
-/

namespace FitProfile.Text

/-- Characters with letter case, by code point. -/
def isCasedCode (n : Nat) : Bool :=
  if n < 0x80 then
    (decide (0x41 ≤ n) && decide (n ≤ 0x5a)) || (decide (0x61 ≤ n) && decide (n ≤ 0x7a))
  else inRanges casedRanges n

/-- Characters that are skipped around a sigma, by code point: among ASCII the
apostrophe, full stop, colon, circumflex and grave accent. -/
def isCaseIgnorableCode (n : Nat) : Bool :=
  if n < 0x80 then n == 0x27 || n == 0x2e || n == 0x3a || n == 0x5e || n == 0x60
  else inRanges caseIgnorableRanges n

/-- The lower-case letter of a single character, by code point. -/
def lowerCode (n : Nat) : Nat :=
  if n < 0x80 then
    if 0x41 ≤ n ∧ n ≤ 0x5a then n + 0x20 else n
  else
    match lowerRuns.find? fun r =>
        decide (r.1 ≤ n) && decide (n ≤ r.2.1) && (n - r.1) % r.2.2.1 == 0 with
    | some r => ((n : Int) + r.2.2.2).toNat
    | none => n

/-- Whether a sigma between `before` (nearest first) and `after` ends its word. -/
def endsWord (before after : List Char) : Bool :=
  match before.dropWhile fun c => isCaseIgnorableCode c.toNat with
  | [] => false
  | c :: _ =>
    isCasedCode c.toNat &&
      match after.dropWhile fun d => isCaseIgnorableCode d.toNat with
      | [] => true
      | d :: _ => !isCasedCode d.toNat

/-- Lower case of one character between `before` (nearest first) and `after`. -/
def lowerChar (before : List Char) (c : Char) (after : List Char) : List Char :=
  if c.toNat = 0x3a3 then [if endsWord before after then Char.ofNat 0x3c2 else Char.ofNat 0x3c3]
  else if c.toNat = 0x130 then ['i', Char.ofNat 0x307]
  else [Char.ofNat (lowerCode c.toNat)]

/-- Lower case of a text whose preceding characters are `before`, nearest first. -/
def lowerFrom (before : List Char) : List Char → List Char
  | [] => []
  | c :: rest => lowerChar before c rest ++ lowerFrom (c :: before) rest

/-- Lower case of a text. -/
def lowerChars (cs : List Char) : List Char := lowerFrom [] cs

end FitProfile.Text
