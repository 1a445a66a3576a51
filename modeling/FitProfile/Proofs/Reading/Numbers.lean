import FitProfile.Proofs.Number.Integers
import FitProfile.Proofs.Reading.Refusal
/-!
# FitProfile.Proofs.Reading.Numbers -- number cells that hold integers

Integer cells are read exactly, and number cells through a double precision number. So a scale or
an offset that is written as an integer keeps its value only if that is one of the double
precision numbers (`readNumber_of_readInteger`).
-/

namespace FitProfile.SheetReader

open FitProfile.Number

/-- Integers are as far apart as their magnitudes at least. -/
theorem abs_withSign_sub_le {negative : Bool} {n k : Nat}
    (hnear : ∀ other : Nat, IsExact other → |(n : ℚ) - k| ≤ |(n : ℚ) - other|) {other : Int}
    (hother : IsExact other) :
    |((withSign negative n : Int) : ℚ) - (withSign negative k : Int)| ≤
      |((withSign negative n : Int) : ℚ) - other| := by
  have hmagnitude : ∀ m : Nat, ((withSign negative n : Int) : ℚ) - (withSign negative m : Int) =
      (n : ℚ) - m ∨ ((withSign negative n : Int) : ℚ) - (withSign negative m : Int) =
        -((n : ℚ) - m) := by
    intro m
    cases negative with
    | true =>
      right
      simp only [withSign, if_true]
      push_cast
      ring
    | false => exact .inl rfl
  have hleft : |((withSign negative n : Int) : ℚ) - (withSign negative k : Int)| = |(n : ℚ) - k| := by
    rcases hmagnitude k with h | h
    · rw [h]
    · rw [h, abs_neg]
  have hsize : |((withSign negative n : Int) : ℚ)| = n := by
    rw [← Int.cast_abs, Int.abs_eq_natAbs, natAbs_withSign, Int.cast_natCast]
  calc |((withSign negative n : Int) : ℚ) - (withSign negative k : Int)|
      = |(n : ℚ) - k| := hleft
    _ ≤ |(n : ℚ) - other.natAbs| := hnear other.natAbs hother
    _ = abs (|((withSign negative n : Int) : ℚ)| - |(other : ℚ)|) := by
        rw [hsize, ← Int.cast_abs, Int.abs_eq_natAbs, Int.cast_natCast]
    _ ≤ |((withSign negative n : Int) : ℚ) - other| := abs_abs_sub_abs_le _ _

/-- The sign of what is not zero shows. -/
theorem decide_withSign_neg {negative : Bool} {n : Nat} (hpos : 0 < n) :
    decide (withSign negative n < 0) = negative := by
  cases negative with
  | true =>
    apply decide_eq_true
    show -(n : Int) < 0
    omega
  | false =>
    apply decide_eq_false
    show ¬ (n : Int) < 0
    omega

theorem pos_of_overflowBound_le {n : Nat} (h : Binary64.overflowBound ≤ n) : 0 < n := by
  have hbound : (0 : ℚ) < Binary64.overflowBound :=
    lt_trans (by positivity) Binary64.overflowBound_bounds.1
  exact_mod_cast lt_of_lt_of_le hbound h

/-- An integer is the nearest exact one to itself if and only if it is exact. -/
theorem whole_withSign_inj {negative : Bool} {n k : Nat} (hexact : IsExact k)
    (hnear : ∀ other : Nat, IsExact other → |(n : ℚ) - k| ≤ |(n : ℚ) - other|) :
    Quantity.whole (withSign negative k) = .whole (withSign negative n) ↔ IsExact n := by
  constructor
  · intro heq
    have hsame := congrArg Int.natAbs (Quantity.whole.inj heq)
    rw [natAbs_withSign, natAbs_withSign] at hsame
    rwa [hsame] at hexact
  · intro hself
    have hzero := hnear _ hself
    rw [sub_self, abs_zero, abs_nonpos_iff, sub_eq_zero] at hzero
    have hsame : n = k := by exact_mod_cast hzero
    rw [hsame]

/-- A text that is read as an integer is also read as a number, but only as the nearest one that
double precision has. It is the integer itself if and only if that is a mantissa of 53 bits and a
power of two within the range; from half a unit above the greatest number on it is infinity. -/
theorem readNumber_of_readInteger (r : SheetReader) (row : Row) (key text : String) (n : Int)
    (hdecimal : r.hexValues = false) (h : r.readInteger row key text = .ok n) :
    ∃ q, r.readNumber row key text = .ok (some q) ∧ (q = .whole n ↔ IsExact n) ∧
      ((n.natAbs : ℚ) < Binary64.overflowBound → ∃ k, q = .whole k ∧ IsExact k ∧
        ∀ other : Int, IsExact other → |(n : ℚ) - k| ≤ |(n : ℚ) - other|) ∧
      (Binary64.overflowBound ≤ (n.natAbs : ℚ) →
        q = .real (.infinite (decide (n < 0)))) := by
  rw [readInteger_eq_ok, integerIn?, hdecimal, Bool.false_and, if_neg Bool.false_ne_true] at h
  obtain ⟨negative, digits, hdigits, rfl, hreal⟩ := real?_of_integer? h
  have hread : r.readNumber row key text =
      .ok (some (Quantity.ofReal (.ofDecimal negative digits 0))) := by
    have hsome : text.toList.isEmpty = false := by
      cases hempty : text.toList with
      | nil =>
        rw [integer?, hempty] at h
        cases h
      | cons c cs => rfl
    rw [readNumber, hsome, if_neg Bool.false_ne_true, Quantity.ofText?, hreal]
    rfl
  refine ⟨_, hread, ?_⟩
  rw [natAbs_withSign, isExact_withSign]
  rcases ofReal_ofDecimal negative hdigits with ⟨habove, hvalue⟩ | ⟨hbelow, k, hexact, hvalue, hnear⟩
  · rw [hvalue]
    refine ⟨?_, ?_, ?_⟩
    · refine iff_of_false nofun ?_
      intro hexact
      exact absurd (Binary64.lt_overflowBound_of_isExact hexact) (not_lt.mpr habove)
    · intro hbelow
      exact absurd hbelow (not_lt.mpr habove)
    · intro _
      rw [decide_withSign_neg (pos_of_overflowBound_le habove)]
  · rw [hvalue]
    refine ⟨whole_withSign_inj hexact hnear, ?_, ?_⟩
    · intro _
      exact ⟨_, rfl, isExact_withSign.mpr hexact, fun other hother =>
        abs_withSign_sub_le hnear hother⟩
    · intro habove
      exact absurd hbelow (not_lt.mpr habove)

/-- A reader of decimal integers, without columns. -/
def decimalReader : SheetReader where
  sheet := "Messages"
  header := ⟨0, []⟩
  columns := ⟨[], []⟩
  hexValues := false

/-- Underscores and digits of another script are read alike, and a hundred is kept. -/
theorem decimalReader_hundred : ∃ q,
    decimalReader.readInteger ⟨1, []⟩ "scale" " +1_0٠" = .ok 100 ∧
      decimalReader.readNumber ⟨1, []⟩ "scale" " +1_0٠" = .ok (some q) ∧ q = .whole 100 := by
  have hread : decimalReader.readInteger ⟨1, []⟩ "scale" " +1_0٠" = .ok 100 :=
    readInteger_eq_ok.mpr (by decide +kernel)
  obtain ⟨q, hq, hwhole, -⟩ :=
    readNumber_of_readInteger decimalReader ⟨1, []⟩ "scale" " +1_0٠" 100 rfl hread
  have hexact : IsExact 100 := isExact_of_lt (by decide)
  exact ⟨q, hread, hq, hwhole.mpr hexact⟩

/-- One more than the greatest mantissa is read exactly as an integer, but not as a number. -/
theorem readNumber_ne_readInteger :
    decimalReader.readInteger ⟨1, []⟩ "scale" "9007199254740993" = .ok 9007199254740993 ∧
      decimalReader.readNumber ⟨1, []⟩ "scale" "9007199254740993" =
        .ok (some (.whole 9007199254740992)) := by
  have hread : Quantity.ofText? "9007199254740993" = some (.whole 9007199254740992) := by
    decide +kernel
  refine ⟨readInteger_eq_ok.mpr (by decide +kernel), ?_⟩
  rw [readNumber, hread]
  rfl

end FitProfile.SheetReader
