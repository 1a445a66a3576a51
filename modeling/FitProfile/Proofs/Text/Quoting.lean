import FitProfile.Text.Quoted
import Mathlib.Algebra.Group.Nat.Defs
/-!
# FitProfile.Proofs.Text.Quoting -- quoted text can be read back

A quoted text is a prefix code: where two texts start with quoted texts, these are the
same or the two texts differ. It is proved character by character: `unescape` reads one
escaped character, whatever follows it, and no escaped character starts with the quote in
use. The escapes also keep line feeds out of quoted texts.
-/

namespace FitProfile.Text

/-! ## Hexadecimal digits -/

/-- The hexadecimal digits, in order. -/
def hexDigits : List Char :=
  ['0', '1', '2', '3', '4', '5', '6', '7', '8', '9', 'a', 'b', 'c', 'd', 'e', 'f']

/-- The number that hexadecimal digits denote, the most significant first. -/
def hexValue (digits : List Char) : Nat :=
  digits.foldl (fun n c => 16 * n + hexDigits.idxOf c) 0

theorem hexValue_append_singleton (digits : List Char) (c : Char) :
    hexValue (digits ++ [c]) = 16 * hexValue digits + hexDigits.idxOf c := by
  simp only [hexValue, List.foldl_append, List.foldl_cons, List.foldl_nil]

theorem digitChar_spec : ∀ d < 16, d.digitChar ∈ hexDigits ∧ hexDigits.idxOf d.digitChar = d := by
  decide

/-- The digits of a number denote it, and all of them are hexadecimal digits. -/
theorem toDigits_spec (n : Nat) :
    hexValue (Nat.toDigits 16 n) = n ∧ ∀ c ∈ Nat.toDigits 16 n, c ∈ hexDigits := by
  induction n using Nat.strongRecOn with
  | ind n ih =>
    rw [Nat.toDigits_eq_if (by omega)]
    split
    next hlt =>
      obtain ⟨hmem, hidx⟩ := digitChar_spec n hlt
      refine ⟨?_, by simpa using hmem⟩
      simpa [hexValue] using hidx
    next hge =>
      -- the last digit is that of the remainder, the others are those of the quotient
      obtain ⟨hvalue, hdigits⟩ := ih (n / 16) (by omega)
      obtain ⟨hmem, hidx⟩ := digitChar_spec (n % 16) (by omega)
      refine ⟨?_, ?_⟩
      · rw [hexValue_append_singleton, hvalue, hidx]
        omega
      · intro c hc
        rcases List.mem_append.mp hc with hc | hc
        · exact hdigits c hc
        · obtain rfl := List.mem_singleton.mp hc
          exact hmem

theorem hexValue_zeros (k : Nat) (digits : List Char) :
    hexValue (List.replicate k '0' ++ digits) = hexValue digits := by
  induction k with
  | zero => rfl
  | succ k ih =>
    rw [List.replicate_succ, List.cons_append]
    exact ih

theorem hexValue_hexPadded (width n : Nat) : hexValue (hexPadded width n) = n := by
  rw [hexPadded, hexValue_zeros, (toDigits_spec n).1]

theorem length_hexPadded {width n : Nat} (hwidth : 0 < width) (h : n < 16 ^ width) :
    (hexPadded width n).length = width := by
  have hlength : (Nat.toDigits 16 n).length ≤ width :=
    (Nat.length_toDigits_le_iff (by omega) hwidth).mpr h
  simp only [hexPadded, List.length_append, List.length_replicate]
  omega

theorem mem_hexDigits_of_mem_hexPadded {width n : Nat} {c : Char} (h : c ∈ hexPadded width n) :
    c ∈ hexDigits := by
  rcases List.mem_append.mp h with h | h
  · rw [(List.mem_replicate.mp h).2]
    decide
  · exact (toDigits_spec n).2 c h

/-! ## Reading one character -/

/-- Reads the character that a text starts with, as the generated modules are read: a
backslash and what belongs to it, or a character that stands for itself. -/
def unescape : List Char → Option (Char × List Char)
  | [] => none
  | '\\' :: 't' :: rest => some ('\t', rest)
  | '\\' :: 'n' :: rest => some ('\n', rest)
  | '\\' :: 'r' :: rest => some ('\r', rest)
  | '\\' :: 'x' :: rest => some (Char.ofNat (hexValue (rest.take 2)), rest.drop 2)
  | '\\' :: 'u' :: rest => some (Char.ofNat (hexValue (rest.take 4)), rest.drop 4)
  | '\\' :: 'U' :: rest => some (Char.ofNat (hexValue (rest.take 8)), rest.drop 8)
  | '\\' :: c :: rest => some (c, rest)
  | c :: rest => some (c, rest)

/-- The two characters that texts are quoted by. -/
def IsQuote (quote : Char) : Prop := quote = '\'' ∨ quote = '"'

theorem isQuote_quoteFor (cs : List Char) : IsQuote (quoteFor cs) := by
  unfold quoteFor IsQuote
  split
  · exact .inr rfl
  · exact .inl rfl

theorem take_hexPadded {width n : Nat} (hwidth : 0 < width) (h : n < 16 ^ width)
    (rest : List Char) :
    hexValue ((hexPadded width n ++ rest).take width) = n ∧
      (hexPadded width n ++ rest).drop width = rest := by
  have hlength := length_hexPadded hwidth h
  rw [List.take_append_of_le_length (by omega), List.drop_append_of_le_length (by omega),
    List.take_of_length_le (by omega), List.drop_of_length_le (by omega), hexValue_hexPadded]
  exact ⟨rfl, rfl⟩

/-- An escape by code point reads as the character of that code point. -/
theorem unescape_escapeCode (c : Char) (rest : List Char) :
    unescape (escapeCode c.toNat ++ rest) = some (c, rest) := by
  have hvalid : c.toNat < 0x110000 := by
    rcases c.valid with hlow | ⟨-, hhigh⟩
    · exact Nat.lt_trans hlow (by decide)
    · exact hhigh
  have hchar : Char.ofNat c.toNat = c := Char.ofNat_toNat c
  unfold escapeCode
  split
  next h =>
    obtain ⟨hvalue, hrest⟩ := take_hexPadded (by omega : 0 < 2) h rest
    simp only [List.cons_append, unescape, hvalue, hrest, hchar]
  next =>
    split
    next h =>
      obtain ⟨hvalue, hrest⟩ := take_hexPadded (by omega : 0 < 4) h rest
      simp only [List.cons_append, unescape, hvalue, hrest, hchar]
    next =>
      obtain ⟨hvalue, hrest⟩ :=
        take_hexPadded (by omega : 0 < 8) (by omega : c.toNat < 16 ^ 8) rest
      simp only [List.cons_append, unescape, hvalue, hrest, hchar]

/-- Every escaped character reads as itself. -/
theorem unescape_escapeChar {quote : Char} (hquote : IsQuote quote) (c : Char)
    (rest : List Char) : unescape (escapeChar quote c ++ rest) = some (c, rest) := by
  unfold escapeChar
  split
  next h =>
    rcases h with rfl | rfl
    · rcases hquote with rfl | rfl <;> rfl
    · rfl
  next hplain =>
    rw [not_or] at hplain
    split
    next h => rw [h]; rfl
    next =>
      split
      next h => rw [h]; rfl
      next =>
        split
        next h => rw [h]; rfl
        next =>
          split
          next =>
            -- what stands for itself is no backslash, so the last case reads it
            rw [List.singleton_append]
            unfold unescape
            split <;> simp_all
          next => exact unescape_escapeCode c rest

/-- An escaped character is the character itself, or a backslash with a mark and
hexadecimal digits behind it. -/
theorem escapeChar_cases {quote : Char} (hquote : IsQuote quote) (c : Char) :
    (escapeChar quote c = [c] ∧ c ≠ quote ∧ c ≠ '\\' ∧ c ≠ '\n') ∨
      ∃ mark digits, escapeChar quote c = '\\' :: mark :: digits ∧ mark ≠ '\n' ∧
        ∀ d ∈ digits, d ∈ hexDigits := by
  unfold escapeChar
  split
  next h =>
    refine .inr ⟨c, [], rfl, ?_, by simp⟩
    rcases h with rfl | rfl
    · rcases hquote with rfl | rfl <;> decide
    · decide
  next hplain =>
    rw [not_or] at hplain
    split
    next => exact .inr ⟨'t', [], rfl, by decide, by simp⟩
    next =>
      split
      next => exact .inr ⟨'n', [], rfl, by decide, by simp⟩
      next hline =>
        split
        next => exact .inr ⟨'r', [], rfl, by decide, by simp⟩
        next =>
          split
          next => exact .inl ⟨rfl, hplain.1, hplain.2, hline⟩
          next =>
            right
            unfold escapeCode
            split
            next => exact ⟨'x', _, rfl, by decide, fun d => mem_hexDigits_of_mem_hexPadded⟩
            next =>
              split
              next => exact ⟨'u', _, rfl, by decide, fun d => mem_hexDigits_of_mem_hexPadded⟩
              next => exact ⟨'U', _, rfl, by decide, fun d => mem_hexDigits_of_mem_hexPadded⟩

/-- No escaped character starts with the quote in use. -/
theorem escapeChar_append_ne {quote : Char} (hquote : IsQuote quote) (c : Char)
    (rest more : List Char) : escapeChar quote c ++ rest ≠ quote :: more := by
  rcases escapeChar_cases hquote c with ⟨heq, hne, -⟩ | ⟨mark, digits, heq, -⟩
  · rw [heq, List.singleton_append]
    intro h
    exact hne (List.cons.inj h).1
  · rw [heq, List.cons_append]
    intro h
    have hback := (List.cons.inj h).1
    rcases hquote with rfl | rfl <;> exact absurd hback (by decide)

/-! ## Reading a whole text -/

/-- What stands between two quotes ends at the first quote that is not escaped. -/
theorem escaped_append_inj {quote : Char} (hquote : IsQuote quote) {s t rest more : List Char}
    (h : s.flatMap (escapeChar quote) ++ quote :: rest =
      t.flatMap (escapeChar quote) ++ quote :: more) : s = t ∧ rest = more := by
  induction s generalizing t with
  | nil =>
    cases t with
    | nil => exact ⟨rfl, (List.cons.inj h).2⟩
    | cons d t =>
      rw [List.flatMap_cons, List.append_assoc] at h
      exact absurd h.symm (escapeChar_append_ne hquote d _ _)
  | cons c s ih =>
    rw [List.flatMap_cons, List.append_assoc] at h
    cases t with
    | nil => exact absurd h (escapeChar_append_ne hquote c _ _)
    | cons d t =>
      rw [List.flatMap_cons, List.append_assoc] at h
      have hread := congrArg unescape h
      rw [unescape_escapeChar hquote, unescape_escapeChar hquote] at hread
      obtain ⟨rfl, htail⟩ := Prod.mk.inj (Option.some.inj hread)
      obtain ⟨rfl, hrest⟩ := ih htail
      exact ⟨rfl, hrest⟩

/-- Quoted texts are a prefix code. -/
theorem quoteChars_append_inj {s t rest more : List Char}
    (h : quoteChars s ++ rest = quoteChars t ++ more) : s = t ∧ rest = more := by
  simp only [quoteChars, List.cons_append, List.append_assoc] at h
  obtain ⟨hquote, hbody⟩ := List.cons.inj h
  rw [hquote] at hbody
  exact escaped_append_inj (isQuote_quoteFor t) hbody

theorem quoted_append_inj {s t rest more : String}
    (h : quoted s ++ rest = quoted t ++ more) : s = t ∧ rest = more := by
  have hchars := congrArg String.toList h
  simp only [String.toList_append, quoted, String.toList_ofList] at hchars
  obtain ⟨hs, hrest⟩ := quoteChars_append_inj hchars
  exact ⟨String.toList_inj.mp hs, String.toList_inj.mp hrest⟩

/-- A quoted text never leaves its line. -/
theorem newline_notMem_quoteChars (s : List Char) : '\n' ∉ quoteChars s := by
  have hquote := isQuote_quoteFor s
  have hne : '\n' ≠ quoteFor s := by
    rcases hquote with h | h <;> rw [h] <;> decide
  intro hmem
  simp only [quoteChars, List.mem_cons, List.mem_append, List.mem_flatMap, List.cons_append,
    List.not_mem_nil, or_false] at hmem
  rcases hmem with heq | ⟨c, -, hc⟩ | heq
  · exact hne heq
  · rcases escapeChar_cases hquote c with ⟨hself, -, -, hline⟩ | ⟨mark, digits, hself, hmark, hhex⟩
    · rw [hself] at hc
      exact hline (List.mem_singleton.mp hc).symm
    · rw [hself] at hc
      rcases List.mem_cons.mp hc with hc | hc
      · exact absurd hc (by decide)
      · rcases List.mem_cons.mp hc with hc | hc
        · exact hmark hc.symm
        · exact absurd (hhex _ hc) (by decide)
  · exact hne heq

end FitProfile.Text
