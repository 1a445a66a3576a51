import FitProfile.Proofs.Text.Numerals
import FitProfile.Proofs.Text.Quoting
import FitProfile.Proofs.Text.Words
/-!
# FitProfile.Proofs.Text.Unbroken -- texts that stay on their line

A text that is part of a line must not end it. There are more characters that end lines than the
line feed and the carriage return, and all of them are white space; so a text is called unbroken
when the space is the only white space in it. Numbers and names of releases and moments are
unbroken as they are. A text of any characters becomes unbroken in two ways: between quotes,
where other white space is escaped, and brought to its words.
-/

namespace FitProfile.Text

open FitProfile.Number

/-- Characters with no white space but the space among them. -/
def UnbrokenChars (cs : List Char) : Prop := ∀ c ∈ cs, isBlank c = true → c = ' '

instance (cs : List Char) : Decidable (UnbrokenChars cs) :=
  decidable_of_iff ((cs.all fun c => !isBlank c || c == ' ') = true) <| by
    simp only [List.all_eq_true, Bool.or_eq_true, Bool.not_eq_true', beq_iff_eq, UnbrokenChars,
      ← Bool.not_eq_true, ← imp_iff_not_or]

/-- Texts with no white space but the space in them. -/
def Unbroken (s : String) : Prop := UnbrokenChars s.toList

instance (s : String) : Decidable (Unbroken s) :=
  inferInstanceAs (Decidable (UnbrokenChars s.toList))

/-- White space other than the space does not occur in an unbroken text. -/
theorem UnbrokenChars.notMem {cs : List Char} (h : UnbrokenChars cs) {c : Char}
    (hblank : isBlank c = true) (hspace : c ≠ ' ') : c ∉ cs := by
  intro hmem
  exact hspace (h c hmem hblank)

theorem UnbrokenChars.append {cs ds : List Char} (hc : UnbrokenChars cs) (hd : UnbrokenChars ds) :
    UnbrokenChars (cs ++ ds) := List.forall_mem_append.mpr ⟨hc, hd⟩

theorem Unbroken.append {s t : String} (hs : Unbroken s) (ht : Unbroken t) :
    Unbroken (s ++ t) := by
  unfold Unbroken
  rw [String.toList_append]
  exact UnbrokenChars.append hs ht

theorem unbroken_ofList {cs : List Char} (h : UnbrokenChars cs) : Unbroken (String.ofList cs) := by
  unfold Unbroken
  rwa [String.toList_ofList]

/-! ## Numbers, releases and moments -/

/-- White space by ranges of code points. -/
theorem isBlankCode_cases {n : Nat} (h : isBlankCode n = true) :
    (0x09 ≤ n ∧ n ≤ 0x0d) ∨ (0x1c ≤ n ∧ n ≤ 0x20) ∨ n = 0x85 ∨ n = 0xa0 ∨ n = 0x1680 ∨
      (0x2000 ≤ n ∧ n ≤ 0x200a) ∨ n = 0x2028 ∨ n = 0x2029 ∨ n = 0x202f ∨ n = 0x205f ∨
      n = 0x3000 := by
  simpa only [isBlankCode, Bool.or_eq_true, Bool.and_eq_true, decide_eq_true_eq, beq_iff_eq,
    or_assoc] using h

/-- The characters of numbers stand between the space and the end of ASCII. -/
theorem toNat_of_isNumeral {c : Char} (h : isNumeral c = true) :
    0x20 < c.toNat ∧ c.toNat < 0x7f := by
  rcases (Bool.or_eq_true _ _).mp h with hdigit | hmark
  · obtain ⟨hlow, hhigh⟩ := Char.isDigit_iff_toNat.mp hdigit
    exact ⟨Nat.lt_of_lt_of_le (by decide) hlow, Nat.lt_of_le_of_lt hhigh (by decide)⟩
  · have hmarks : ("+-.einfa".toList.all fun d => 0x20 < d.toNat ∧ d.toNat < 0x7f) = true := by
      decide
    exact of_decide_eq_true (List.all_eq_true.mp hmarks c (List.contains_iff_mem.mp hmark))

theorem not_isBlank_of_isNumeral {c : Char} (h : isNumeral c = true) : isBlank c = false := by
  obtain ⟨hlow, hhigh⟩ := toNat_of_isNumeral h
  apply Bool.eq_false_iff.mpr
  intro hblank
  have := isBlankCode_cases hblank
  omega

theorem unbroken_of_numeralChars {s : String} (h : NumeralChars s.toList) : Unbroken s := by
  intro c hmem hblank
  rw [not_isBlank_of_isNumeral (h c hmem)] at hblank
  cases hblank

theorem unbroken_decimal (n : Int) : Unbroken (decimal n) :=
  unbroken_of_numeralChars (numeralChars_decimal n)

theorem unbroken_binary64 (x : Binary64) : Unbroken x.text :=
  unbroken_of_numeralChars (numeralChars_binary64 x)

theorem unbroken_quantity (q : Quantity) : Unbroken q.text :=
  unbroken_of_numeralChars (numeralChars_quantity q)

theorem unbroken_repr (n : Nat) : Unbroken (Nat.repr n) := by
  apply unbroken_of_numeralChars
  rw [Nat.toList_repr]
  exact numeralChars_toDigits n

theorem unbroken_version (version : Version) : Unbroken version.text :=
  ((unbroken_decimal _).append (by decide)).append (unbroken_decimal _)

theorem unbroken_padded (width n : Nat) : Unbroken (Calendar.padded width n) := by
  refine Unbroken.append (unbroken_of_numeralChars ?_) (unbroken_repr n)
  rw [String.toList_ofList]
  exact numeralChars_replicate (by decide) _

theorem unbroken_stamp (moment : Moment) : Unbroken moment.stamp := by
  have hclock : Unbroken moment.time.clockText :=
    ((((unbroken_padded _ _).append (by decide)).append (unbroken_padded _ _)).append
      (by decide)).append (unbroken_padded _ _)
  have hdate : Unbroken (Nat.repr moment.date.year ++ "-" ++ Calendar.padded 2 moment.date.month ++
      "-" ++ Calendar.padded 2 moment.date.day) :=
    ((((unbroken_repr _).append (by decide)).append (unbroken_padded _ _)).append
      (by decide)).append (unbroken_padded _ _)
  exact (hdate.append (by decide)).append hclock

/-! ## Quoted texts and words -/

/-- White space other than the space has no visible form. -/
theorem not_isPrintable_of_isBlank {c : Char} (hblank : isBlank c = true) (hspace : c ≠ ' ') :
    isPrintable c = false := by
  have hcode : c.toNat ≠ 0x20 := fun heq => hspace (Char.toNat_inj.mp heq)
  unfold isPrintable isPrintableCode
  split
  next hascii =>
    have := isBlankCode_cases hblank
    simp only [Bool.and_eq_false_iff, decide_eq_false_iff_not]
    omega
  next hbeyond =>
    -- beyond ASCII, each range of white space lies in a range of the table
    have hhidden : ∀ r ∈ [(0x80, 0xa0), (0x1680, 0x1680), (0x1fff, 0x200f), (0x2028, 0x202f),
        (0x205f, 0x206f), (0x2ffc, 0x3000)], r ∈ hiddenRanges := by decide +kernel
    have hcovered : ∃ r ∈ [(0x80, 0xa0), (0x1680, 0x1680), (0x1fff, 0x200f), (0x2028, 0x202f),
        (0x205f, 0x206f), (0x2ffc, 0x3000)], r.1 ≤ c.toNat ∧ c.toNat ≤ r.2 := by
      have := isBlankCode_cases hblank
      simp only [List.exists_mem_cons_iff, List.not_mem_nil, false_and, exists_false, or_false]
      omega
    obtain ⟨r, hr, hbounds⟩ := hcovered
    rw [Bool.not_eq_false', inRanges_iff]
    exact ⟨r, hhidden r hr, hbounds⟩

theorem unbrokenChars_hexPadded (width n : Nat) : UnbrokenChars (hexPadded width n) := by
  intro c hmem
  have hdigits : UnbrokenChars hexDigits := by decide
  exact hdigits c (mem_hexDigits_of_mem_hexPadded hmem)

theorem unbrokenChars_escapeCode (n : Nat) : UnbrokenChars (escapeCode n) := by
  have hescape : ∀ {mark : Char} {width : Nat}, isBlank mark = false →
      UnbrokenChars ('\\' :: mark :: hexPadded width n) := by
    intro mark width hmark
    refine List.forall_mem_cons.mpr ⟨by decide, List.forall_mem_cons.mpr ⟨?_, ?_⟩⟩
    · intro hblank
      rw [hmark] at hblank
      cases hblank
    · exact unbrokenChars_hexPadded width n
  unfold escapeCode
  split
  next => exact hescape (by decide)
  next =>
    split
    next => exact hescape (by decide)
    next => exact hescape (by decide)

/-- A character of a quoted text stands for itself only if it does not break the text. -/
theorem unbrokenChars_escapeChar {quote : Char} (hquote : IsQuote quote) (c : Char) :
    UnbrokenChars (escapeChar quote c) := by
  unfold escapeChar
  split
  next h =>
    have hmarks : UnbrokenChars ['\\', '\'', '"'] := by decide
    have hquoted : c ∈ ['\\', '\'', '"'] := by
      rcases h with rfl | rfl
      · rcases hquote with rfl | rfl <;> decide
      · decide
    exact List.forall_mem_cons.mpr ⟨by decide, List.forall_mem_singleton.mpr (hmarks c hquoted)⟩
  next =>
    split
    next => decide
    next =>
      split
      next => decide
      next =>
        split
        next => decide
        next =>
          split
          next hprintable =>
            intro d hmem hblank
            obtain rfl := List.mem_singleton.mp hmem
            by_contra hspace
            rw [not_isPrintable_of_isBlank hblank hspace] at hprintable
            cases hprintable
          next => exact unbrokenChars_escapeCode c.toNat

theorem unbroken_quoted (s : String) : Unbroken (quoted s) := by
  have hquote := isQuote_quoteFor s.toList
  have hmark : UnbrokenChars [quoteFor s.toList] := by
    rcases hquote with h | h
    · rw [h]
      decide
    · rw [h]
      decide
  have hbody : UnbrokenChars (s.toList.flatMap (escapeChar (quoteFor s.toList))) := by
    intro c hmem
    obtain ⟨d, -, hc⟩ := List.mem_flatMap.mp hmem
    exact unbrokenChars_escapeChar hquote d c hc
  exact unbroken_ofList ((hmark.append hbody).append hmark)

theorem unbroken_collapse (s : String) : Unbroken (collapse s) := by
  apply unbroken_ofList
  intro c hmem hblank
  rcases mem_intercalate hmem with hspace | ⟨word, hword, hchar⟩
  · exact List.mem_singleton.mp hspace
  · rw [not_isBlank_of_mem_words hword hchar] at hblank
    cases hblank

end FitProfile.Text
