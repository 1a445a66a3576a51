import FitProfile.Calendar.Basic
import FitProfile.Number.Quantity
import FitProfile.Version
import Mathlib.Data.List.Basic
import Std.Data.String.ToNat
/-!
# FitProfile.Proofs.Text.Numerals -- the texts of numbers

Decimal text determines its integer, and so does the text of a release. The texts of
numbers are made of few characters. They are plain, and so are those of releases and
moments: no character in them opens a string, a remark or a bracket, and none ends the line.
-/

namespace FitProfile.Text

open FitProfile.Number

/-! ## Plain texts -/

/-- Characters that open neither a string, nor a remark, nor a bracket, nor end a line. -/
def isPlain (c : Char) : Bool := c != '\'' && c != '"' && c != '#' && c != '\n' && c != '['

/-- Lists of plain characters. -/
def PlainChars (cs : List Char) : Prop := ∀ c ∈ cs, isPlain c = true

instance (cs : List Char) : Decidable (PlainChars cs) :=
  decidable_of_iff (cs.all isPlain = true) List.all_eq_true

/-- Texts of plain characters. -/
def Plain (s : String) : Prop := PlainChars s.toList

instance (s : String) : Decidable (Plain s) := inferInstanceAs (Decidable (PlainChars s.toList))

theorem PlainChars.append {cs ds : List Char} (hc : PlainChars cs) (hd : PlainChars ds) :
    PlainChars (cs ++ ds) := by
  intro c hmem
  rcases List.mem_append.mp hmem with hmem | hmem
  · exact hc c hmem
  · exact hd c hmem

theorem Plain.append {s t : String} (hs : Plain s) (ht : Plain t) : Plain (s ++ t) := by
  unfold Plain
  rw [String.toList_append]
  exact PlainChars.append hs ht

theorem plain_ofList {cs : List Char} (h : PlainChars cs) : Plain (String.ofList cs) := by
  unfold Plain
  rwa [String.toList_ofList]

/-! ## The characters of numbers -/

/-- Characters that the texts of numbers are made of: digits, signs, points, the mark of an
exponent, and the letters of the words for what is not finite. -/
def isNumeral (c : Char) : Bool := c.isDigit || "+-.einfa".toList.contains c

/-- Lists of such characters. -/
def NumeralChars (cs : List Char) : Prop := ∀ c ∈ cs, isNumeral c = true

instance (cs : List Char) : Decidable (NumeralChars cs) :=
  decidable_of_iff (cs.all isNumeral = true) List.all_eq_true

theorem isNumeral_of_isDigit {c : Char} (h : c.isDigit = true) : isNumeral c = true := by
  rw [isNumeral, h, Bool.true_or]

/-- A character of a number is none that fails to be one. -/
theorem ne_of_isNumeral {c d : Char} (hc : isNumeral c = true) (hd : isNumeral d = false) :
    c ≠ d := by
  rintro rfl
  rw [hd] at hc
  cases hc

theorem isPlain_of_isNumeral {c : Char} (h : isNumeral c = true) : isPlain c = true := by
  simp only [isPlain, Bool.and_eq_true, bne_iff_ne]
  exact ⟨⟨⟨⟨ne_of_isNumeral h (by decide), ne_of_isNumeral h (by decide)⟩,
    ne_of_isNumeral h (by decide)⟩, ne_of_isNumeral h (by decide)⟩, ne_of_isNumeral h (by decide)⟩

theorem NumeralChars.plain {cs : List Char} (h : NumeralChars cs) : PlainChars cs :=
  fun c hmem => isPlain_of_isNumeral (h c hmem)

theorem NumeralChars.append {cs ds : List Char} (hc : NumeralChars cs) (hd : NumeralChars ds) :
    NumeralChars (cs ++ ds) := List.forall_mem_append.mpr ⟨hc, hd⟩

theorem NumeralChars.cons {c : Char} {cs : List Char} (hc : isNumeral c = true)
    (hcs : NumeralChars cs) : NumeralChars (c :: cs) := List.forall_mem_cons.mpr ⟨hc, hcs⟩

theorem NumeralChars.of_subset {cs ds : List Char} (h : NumeralChars ds)
    (hsub : ∀ c ∈ cs, c ∈ ds) : NumeralChars cs := fun c hmem => h c (hsub c hmem)

theorem numeralChars_replicate {c : Char} (h : isNumeral c = true) (k : Nat) :
    NumeralChars (List.replicate k c) := by
  intro d hmem
  rw [(List.mem_replicate.mp hmem).2]
  exact h

theorem numeralChars_toDigits (n : Nat) : NumeralChars (Nat.toDigits 10 n) :=
  fun _ hmem => isNumeral_of_isDigit (Nat.isDigit_of_mem_toDigits (by omega) (by omega) hmem)

theorem numeralChars_decimal (n : Int) : NumeralChars (decimal n).toList := by
  have hrepr : NumeralChars (Nat.repr n.natAbs).toList := by
    rw [Nat.toList_repr]
    exact numeralChars_toDigits n.natAbs
  unfold decimal
  split
  · rw [String.toList_append]
    exact NumeralChars.append (by decide) hrepr
  · exact hrepr

theorem plain_repr (n : Nat) : Plain (Nat.repr n) := by
  unfold Plain
  rw [Nat.toList_repr]
  exact (numeralChars_toDigits n).plain

theorem plain_decimal (n : Int) : Plain (decimal n) := (numeralChars_decimal n).plain

/-! ## Quantities -/

theorem numeralChars_significantDigits (n : Nat) : NumeralChars (significantDigits n) := by
  apply (numeralChars_toDigits n).of_subset
  intro c hmem
  unfold significantDigits at hmem
  have := (List.dropWhile_sublist _).mem (List.mem_reverse.mp hmem)
  exact List.mem_reverse.mp this

theorem numeralChars_exponentText (exponent : Int) : NumeralChars (exponentText exponent) := by
  unfold exponentText
  refine NumeralChars.cons ?_
    ((numeralChars_replicate (by decide) _).append (numeralChars_toDigits _))
  split <;> decide

theorem numeralChars_placedText {digits : List Char} (h : NumeralChars digits) (point : Int) :
    NumeralChars (placedText digits point) := by
  have hpart : ∀ {ds : List Char}, (∀ c ∈ ds, c ∈ digits) → NumeralChars ds := h.of_subset
  unfold placedText
  dsimp only
  split
  · refine NumeralChars.append ?_ (.cons (by decide) (numeralChars_exponentText _))
    split
    · exact h
    · exact h
    next d rest _ =>
      exact .cons (h d (List.mem_cons_self ..))
        (.cons (by decide) (hpart fun c hc => List.mem_cons_of_mem d hc))
  · split
    · exact .cons (by decide) (.cons (by decide)
        ((numeralChars_replicate (by decide) _).append h))
    · split
      · exact (h.append (numeralChars_replicate (by decide) _)).append (by decide)
      · exact (hpart fun c hc => List.mem_of_mem_take hc).append
          (.cons (by decide) (hpart fun c hc => List.mem_of_mem_drop hc))

theorem numeralChars_binary64 (x : Binary64) : NumeralChars x.text.toList := by
  unfold Binary64.text
  split
  · decide
  · decide
  · decide
  next negative mantissa exponent =>
    rw [String.toList_ofList]
    refine NumeralChars.append ?_ ?_
    · cases negative <;> decide
    · unfold Binary64.magnitudeText
      split
      · decide
      · exact numeralChars_placedText (numeralChars_significantDigits _) _

theorem numeralChars_quantity (q : Quantity) : NumeralChars q.text.toList := by
  cases q with
  | whole n => exact numeralChars_decimal n
  | real x => exact numeralChars_binary64 x

theorem plain_quantity (q : Quantity) : Plain q.text := (numeralChars_quantity q).plain

/-! ## Releases and moments -/

theorem plain_version (version : Version) : Plain version.text :=
  ((plain_decimal _).append (by decide)).append (plain_decimal _)

theorem plain_padded (width n : Nat) : Plain (Calendar.padded width n) :=
  (plain_ofList (numeralChars_replicate (by decide) _).plain).append (plain_repr n)

theorem plain_stamp (moment : Moment) : Plain moment.stamp := by
  have hclock : Plain moment.time.clockText :=
    ((((plain_padded _ _).append (by decide)).append (plain_padded _ _)).append
      (by decide)).append (plain_padded _ _)
  exact ((((((plain_repr _).append (by decide)).append (plain_padded _ _)).append
    (by decide)).append (plain_padded _ _)).append (by decide)).append hclock

/-! ## Numbers read off their text -/

/-- A run of a class of characters is taken off as a whole where the next character is none of
the class. -/
theorem takeWhile_dropWhile_append {p : Char → Bool} {run rest : List Char}
    (hrun : ∀ c ∈ run, p c = true) (hrest : ∀ c ∈ rest.head?, p c = false) :
    (run ++ rest).takeWhile p = run ∧ (run ++ rest).dropWhile p = rest := by
  rw [List.takeWhile_append_of_pos hrun, List.dropWhile_append_of_pos hrun]
  cases rest with
  | nil => exact ⟨List.append_nil run, rfl⟩
  | cons c rest =>
    have hc : ¬ p c = true := Bool.eq_false_iff.mp (hrest c rfl)
    rw [List.takeWhile_cons_of_neg hc, List.dropWhile_cons_of_neg hc]
    exact ⟨List.append_nil run, rfl⟩

theorem mem_decimal {n : Int} {c : Char} (h : c ∈ (decimal n).toList) :
    c = '-' ∨ c.isDigit = true := by
  have hdigit : ∀ {c : Char}, c ∈ (Nat.repr n.natAbs).toList → c.isDigit = true := by
    intro c hmem
    rw [Nat.toList_repr] at hmem
    exact Nat.isDigit_of_mem_toDigits (by omega) (by omega) hmem
  unfold decimal at h
  split at h
  · rw [String.toList_append] at h
    rcases List.mem_append.mp h with h | h
    · exact .inl (List.mem_singleton.mp h)
    · exact .inr (hdigit h)
  · exact .inr (hdigit h)

/-- A sign and digits leave no doubt about the integer. -/
theorem decimal_inj {a b : Int} (h : decimal a = decimal b) : a = b := by
  -- a minus sign is no digit, so the two texts agree about the sign
  have hsign : ∀ m n : Nat, Nat.repr m ≠ "-" ++ Nat.repr n := by
    intro m n heq
    have hmem : '-' ∈ (Nat.repr m).toList := by
      rw [heq, String.toList_append]
      exact List.mem_append_left _ (List.mem_singleton.mpr rfl)
    rw [Nat.toList_repr] at hmem
    exact absurd (Nat.isDigit_of_mem_toDigits (by omega) (by omega) hmem) (by decide)
  unfold decimal at h
  split at h <;> split at h
  · have := Nat.repr_inj.mp ((String.append_right_inj _).mp h)
    omega
  · exact absurd h.symm (hsign _ _)
  · exact absurd h (hsign _ _)
  · have := Nat.repr_inj.mp h
    omega

theorem append_cons_inj {separator : Char} {xs ys rest more : List Char} (hxs : separator ∉ xs)
    (hys : separator ∉ ys) (h : xs ++ separator :: rest = ys ++ separator :: more) :
    xs = ys ∧ rest = more := by
  induction xs generalizing ys with
  | nil =>
    cases ys with
    | nil => exact ⟨rfl, (List.cons.inj h).2⟩
    | cons y ys => exact absurd (List.mem_cons.mpr (.inl (List.cons.inj h).1)) hys
  | cons x xs ih =>
    cases ys with
    | nil => exact absurd (List.mem_cons.mpr (.inl (List.cons.inj h).1.symm)) hxs
    | cons y ys =>
      obtain ⟨rfl, htail⟩ := List.cons.inj h
      rw [List.mem_cons, not_or] at hxs hys
      obtain ⟨rfl, hrest⟩ := ih hxs.2 hys.2 htail
      exact ⟨rfl, hrest⟩

/-- Two texts are read off in front of a mark that starts with a character of neither. -/
theorem append_mark_inj {s t mark rest more : String} {separator : Char} {tail : List Char}
    (hmark : mark.toList = separator :: tail) (hs : separator ∉ s.toList)
    (ht : separator ∉ t.toList) (h : s ++ mark ++ rest = t ++ mark ++ more) :
    s = t ∧ rest = more := by
  have hchars := congrArg String.toList h
  simp only [String.toList_append, hmark, List.append_assoc, List.cons_append] at hchars
  obtain ⟨heq, hrest⟩ := append_cons_inj hs ht hchars
  exact ⟨String.toList_inj.mp heq, String.toList_inj.mp (List.append_cancel_left hrest)⟩

theorem notMem_decimal {separator : Char} (hminus : separator ≠ '-')
    (hdigit : separator.isDigit = false) (n : Int) : separator ∉ (decimal n).toList := by
  intro hmem
  rcases mem_decimal hmem with heq | hd
  · exact hminus heq
  · rw [hdigit] at hd
    cases hd

theorem version_inj {a b : Version} (h : a.text = b.text) : a = b := by
  obtain ⟨major, minor⟩ := a
  obtain ⟨major', minor'⟩ := b
  have hmark : ".".toList = '.' :: [] := by decide
  obtain ⟨hmajor, hminor⟩ := append_mark_inj hmark
    (notMem_decimal (by decide) (by decide) major) (notMem_decimal (by decide) (by decide) major') h
  have hsame : minor = minor' := decimal_inj hminor
  rw [decimal_inj hmajor, hsame]

end FitProfile.Text
