import FitProfile.Number.Quantity
import FitProfile.Proofs.Number.Decimals
import Mathlib.Data.List.TakeWhile
/-!
# FitProfile.Proofs.Number.RealText -- texts of integers as texts of numbers

What is read as an integer is also read as a number: both readers trim the same white space, take
the same sign, and let single underscores stand between digits of any script
(`real?_of_integer?`). The digits are the same as well; what becomes of them when they are rounded
is another matter.
-/

namespace FitProfile.Number

open FitProfile.Text

/-! ## Digits of any script -/

/-- The ASCII digit of a value. -/
def digitMark (d : Nat) : Char := Char.ofNat (0x30 + d)

/-- The ASCII digits of some values. -/
def digitMarks (digits : List Nat) : List Char := digits.map digitMark

theorem isAsciiDigit_digitMark {d : Nat} (h : d < 10) : isAsciiDigit (digitMark d) = true := by
  have hall : ∀ d < 10, isAsciiDigit (digitMark d) = true := by decide
  exact hall d h

theorem toNat_digitMark {d : Nat} (h : d < 10) : (digitMark d).toNat - 0x30 = d := by
  have hall : ∀ d < 10, (digitMark d).toNat - 0x30 = d := by decide
  exact hall d h

/-- A digit in base ten becomes its ASCII digit. -/
theorem asciiDigit_of_digitIn {c : Char} {d : Nat} (h : digitIn 10 c = some d) :
    d < 10 ∧ asciiDigit c = digitMark d := by
  obtain ⟨hvalue, hlt⟩ := Option.filter_eq_some_iff.mp h
  have hten : d < 10 := of_decide_eq_true hlt
  refine ⟨hten, ?_⟩
  unfold digitOrLetter at hvalue
  dsimp only at hvalue
  -- letters stand for ten and more
  split at hvalue
  next => cases hvalue; omega
  next =>
    split at hvalue
    next => cases hvalue; omega
    next =>
      unfold asciiDigit
      rw [hvalue]
      rfl

theorem ne_underscore_digitMark {d : Nat} (h : d < 10) : digitMark d ≠ '_' := by
  have hall : ∀ d < 10, digitMark d ≠ '_' := by decide
  exact hall d h

theorem dropUnderscores_cons {previous : Option Char} {c : Char} {rest : List Char}
    (h : c ≠ '_') :
    dropUnderscores previous (c :: rest) = (dropUnderscores (some c) rest).map (c :: ·) := by
  rw [dropUnderscores]
  exact h

/-- Digits in base ten, brought to ASCII and without their underscores. -/
theorem dropUnderscores_of_readDigits {cs : List Char} {digits : List Nat}
    (h : readDigits 10 cs = some digits) :
    (∀ d ∈ digits, d < 10) ∧ digits ≠ [] ∧ (cs.map asciiDigit).head?.any isAsciiDigit = true ∧
      ∀ previous, dropUnderscores previous (cs.map asciiDigit) = some (digitMarks digits) := by
  induction cs using readDigits.induct generalizing digits with
  | case1 => cases h
  | case2 c =>
    obtain ⟨d, hd, rfl⟩ := Option.map_eq_some_iff.mp h
    obtain ⟨hlt, hmark⟩ := asciiDigit_of_digitIn hd
    refine ⟨by simpa using hlt, by simp, ?_, ?_⟩
    · simpa [hmark] using isAsciiDigit_digitMark hlt
    · intro previous
      rw [List.map_singleton, hmark, dropUnderscores_cons (ne_underscore_digitMark hlt)]
      rfl
  | case3 c rest ih =>
    obtain ⟨d, hd, h⟩ := Option.bind_eq_some_iff.mp h
    obtain ⟨others, hothers, hpure⟩ := Option.bind_eq_some_iff.mp h
    cases hpure
    obtain ⟨hall, -, hhead, hrest⟩ := ih hothers
    obtain ⟨hlt, hmark⟩ := asciiDigit_of_digitIn hd
    have hdigit : isAsciiDigit (digitMark d) = true := isAsciiDigit_digitMark hlt
    have hline : asciiDigit '_' = '_' := by decide
    refine ⟨List.forall_mem_cons.mpr ⟨hlt, hall⟩, by simp, ?_, ?_⟩
    · simpa [hmark] using hdigit
    · -- the underscore stands between this digit and the next one
      intro previous
      have hbetween : ((some (digitMark d)).any isAsciiDigit &&
          (rest.map asciiDigit).head?.any isAsciiDigit) = true := by
        rw [hhead, Option.any_some, hdigit]
        rfl
      rw [List.map_cons, List.map_cons, hmark, hline,
        dropUnderscores_cons (ne_underscore_digitMark hlt), dropUnderscores, if_pos hbetween,
        hrest]
      rfl
  | case4 c next rest hne ih =>
    rw [readDigits] at h
    · obtain ⟨d, hd, h⟩ := Option.bind_eq_some_iff.mp h
      obtain ⟨others, hothers, hpure⟩ := Option.bind_eq_some_iff.mp h
      cases hpure
      obtain ⟨hall, -, -, hrest⟩ := ih hothers
      obtain ⟨hlt, hmark⟩ := asciiDigit_of_digitIn hd
      refine ⟨List.forall_mem_cons.mpr ⟨hlt, hall⟩, by simp, ?_, ?_⟩
      · simpa [hmark] using isAsciiDigit_digitMark hlt
      · intro previous
        rw [List.map_cons, hmark, dropUnderscores_cons (ne_underscore_digitMark hlt), hrest]
        rfl
    · exact hne

/-! ## Texts of integers -/

theorem takeWhile_digitMarks {digits : List Nat} (h : ∀ d ∈ digits, d < 10) :
    (digitMarks digits).takeWhile isAsciiDigit = digitMarks digits ∧
      (digitMarks digits).dropWhile isAsciiDigit = [] := by
  have hall : ∀ c ∈ digitMarks digits, isAsciiDigit c = true := by
    intro c hmem
    obtain ⟨d, hd, rfl⟩ := List.mem_map.mp hmem
    exact isAsciiDigit_digitMark (h d hd)
  exact ⟨List.takeWhile_eq_self_iff.mpr hall, List.dropWhile_eq_nil_iff.mpr hall⟩

theorem digitRun_digitMarks {digits : List Nat} (h : ∀ d ∈ digits, d < 10) :
    digitRun (digitMarks digits) = digits := by
  rw [digitRun, digitMarks, List.map_map]
  conv_rhs => rw [← List.map_id digits]
  exact List.map_congr_left fun d hd => toNat_digitMark (h d hd)

/-- Digits alone are a number without point and exponent. -/
theorem unsigned?_digitMarks (negative : Bool) {digits : List Nat} (h : ∀ d ∈ digits, d < 10)
    (hne : digits ≠ []) :
    unsigned? negative (digitMarks digits) = some (.ofDecimal negative digits 0) := by
  obtain ⟨htake, hdrop⟩ := takeWhile_digitMarks h
  have hword : ∀ word ∈ ["inf", "infinity", "nan"],
      (digitMarks digits).map Char.toLower ≠ word.toList := by
    obtain ⟨d, rest, rfl⟩ := List.exists_cons_of_ne_nil hne
    have hletters : ∀ d < 10, ∀ word ∈ ["inf", "infinity", "nan"],
        word.toList.head? ≠ some (digitMark d).toLower := by decide
    intro word hmem heq
    apply hletters d (h d (List.mem_cons_self ..)) word hmem
    rw [← heq]
    rfl
  have hfraction : fraction? negative (digitMarks digits) =
      some (.ofDecimal negative digits 0) := by
    have hnone : (digitMarks digits).isEmpty = false := by simpa [digitMarks] using hne
    simp only [fraction?, htake, hdrop, hnone, Bool.false_and, Bool.false_eq_true, if_false,
      exponentPart?, Option.map_some, List.append_nil, digitRun_digitMarks h, List.length_nil]
    rfl
  unfold unsigned?
  dsimp only
  rw [if_neg, if_neg, hfraction]
  · exact hword "nan" (by simp)
  · exact not_or.mpr ⟨hword "inf" (by simp), hword "infinity" (by simp)⟩

/-- What stands in front of digits is a sign or nothing. -/
theorem takeSign_cases (cs : List Char) :
    (∃ rest, cs = '-' :: rest ∧ takeSign cs = (true, rest)) ∨
      (∃ rest, cs = '+' :: rest ∧ takeSign cs = (false, rest)) ∨ takeSign cs = (false, cs) := by
  unfold takeSign
  split
  next rest => exact .inl ⟨rest, rfl, rfl⟩
  next rest => exact .inr (.inl ⟨rest, rfl, rfl⟩)
  next => exact .inr (.inr rfl)

theorem takeSign_digitMarks {digits : List Nat} (h : ∀ d ∈ digits, d < 10) :
    takeSign (digitMarks digits) = (false, digitMarks digits) := by
  cases digits with
  | nil => rfl
  | cons d rest =>
    have hsigns : ∀ d < 10, digitMark d ≠ '-' ∧ digitMark d ≠ '+' := by decide
    obtain ⟨hminus, hplus⟩ := hsigns d (h d (List.mem_cons_self ..))
    show takeSign (digitMark d :: digitMarks rest) = _
    unfold takeSign
    split
    next heq => exact absurd (List.cons.inj heq).1 hminus
    next heq => exact absurd (List.cons.inj heq).1 hplus
    next => rfl

/-- The text of an integer is the text of a number, with the same sign and the same digits. -/
theorem real?_of_integer? {s : String} {n : Int} (h : integer? s = some n) :
    ∃ negative digits, (∀ d ∈ digits, d < 10) ∧ n = withSign negative (ofDigits 10 digits) ∧
      real? s = some (.ofDecimal negative digits 0) := by
  unfold integer? decimalNatural? at h
  unfold real?
  generalize trimNumeral s.toList = cs at *
  rcases hsign : takeSign cs with ⟨negative, body⟩
  rw [hsign] at h
  obtain ⟨m, hm, rfl⟩ := Option.map_eq_some_iff.mp h
  obtain ⟨digits, hdigits, rfl⟩ := Option.map_eq_some_iff.mp hm
  obtain ⟨hall, hne, -, hdrop⟩ :=
    dropUnderscores_of_readDigits (Option.filter_eq_some_iff.mp hdigits).1
  refine ⟨negative, digits, hall, rfl, ?_⟩
  -- the sign is no digit, so it stays in front of the digits
  have hbody : ∃ text, dropUnderscores none (cs.map asciiDigit) = some text ∧
      takeSign text = (negative, digitMarks digits) := by
    rcases takeSign_cases cs with ⟨rest, rfl, heq⟩ | ⟨rest, rfl, heq⟩ | heq
    · cases heq.symm.trans hsign
      have hmark : asciiDigit '-' = '-' := by decide
      refine ⟨'-' :: digitMarks digits, ?_, rfl⟩
      rw [List.map_cons, hmark, dropUnderscores_cons (by decide), hdrop]
      rfl
    · cases heq.symm.trans hsign
      have hmark : asciiDigit '+' = '+' := by decide
      refine ⟨'+' :: digitMarks digits, ?_, rfl⟩
      rw [List.map_cons, hmark, dropUnderscores_cons (by decide), hdrop]
      rfl
    · cases heq.symm.trans hsign
      exact ⟨digitMarks digits, hdrop none, takeSign_digitMarks hall⟩
  obtain ⟨text, htext, htake⟩ := hbody
  rw [htext]
  show unsigned? (takeSign text).1 (takeSign text).2 = _
  rw [htake]
  exact unsigned?_digitMarks negative hall hne

end FitProfile.Number
