/-!
# FitProfile.Text.Blank -- white space, trimming and words

White space is the Unicode set: the ASCII blanks, the four information separators, and
the spaces and line separators beyond ASCII. A text is trimmed at both ends, or cut into
its words; `collapse` writes the words with one space between them, so that a text of
several lines becomes one line.
-/

namespace FitProfile.Text

/-- White space by code point. -/
def isBlankCode (n : Nat) : Bool :=
  (decide (0x09 ≤ n) && decide (n ≤ 0x0d)) || (decide (0x1c ≤ n) && decide (n ≤ 0x20)) ||
  n == 0x85 || n == 0xa0 || n == 0x1680 || (decide (0x2000 ≤ n) && decide (n ≤ 0x200a)) ||
  n == 0x2028 || n == 0x2029 || n == 0x202f || n == 0x205f || n == 0x3000

/-- White space. -/
def isBlank (c : Char) : Bool := isBlankCode c.toNat

/-- A text without the characters of the class `p` at its two ends. -/
def trimBy (p : Char → Bool) (cs : List Char) : List Char :=
  ((cs.dropWhile p).reverse.dropWhile p).reverse

/-- A text without white space at its two ends. -/
def strip (s : String) : String := String.ofList (trimBy isBlank s.toList)

/-- One step of `words`, read from the right: the word under way and those already
complete. -/
def wordStep (c : Char) (state : List Char × List (List Char)) : List Char × List (List Char) :=
  if isBlank c then ([], if state.1.isEmpty then state.2 else state.1 :: state.2)
  else (c :: state.1, state.2)

/-- The maximal runs of characters that are not white space. -/
def words (cs : List Char) : List (List Char) :=
  let state := cs.foldr wordStep ([], [])
  if state.1.isEmpty then state.2 else state.1 :: state.2

/-- The words of a text with one space between them. -/
def collapse (s : String) : String :=
  String.ofList ([' '].intercalate (words s.toList))

end FitProfile.Text
