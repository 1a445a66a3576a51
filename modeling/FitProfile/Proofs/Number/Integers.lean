import FitProfile.Proofs.Number.RealText
/-!
# FitProfile.Proofs.Number.Integers -- integers read as numbers

A scale or an offset that is written as an integer goes through a double precision number and
back. It comes out as the integer it was just when that is one of the double precision numbers.
Any other integer becomes the nearest of these, and from the end of their range on it becomes
infinity (`ofReal_ofDecimal`).
-/

namespace FitProfile.Number

/-- Integers that are double precision numbers: a mantissa of 53 bits times a power of two, the
greatest being that of the greatest exponent. -/
def IsExact (n : Int) : Prop := ∃ m e : Nat, m < 2 ^ 53 ∧ e ≤ 971 ∧ n.natAbs = m * 2 ^ e

/-- The integers of up to 53 bits are among them. -/
theorem isExact_of_lt {n : Int} (h : n.natAbs < 2 ^ 53) : IsExact n :=
  ⟨n.natAbs, 0, h, by omega, by omega⟩

theorem natAbs_withSign (negative : Bool) (n : Nat) : (withSign negative n).natAbs = n := by
  cases negative with
  | true => exact Int.natAbs_neg n
  | false => rfl

theorem isExact_withSign {negative : Bool} {n : Nat} : IsExact (withSign negative n) ↔ IsExact n := by
  unfold IsExact
  rw [natAbs_withSign]
  rfl

namespace Binary64

/-! ## Rounding an integer -/

theorem magnitude_natCast (m e : Nat) : magnitude m e = (m * 2 ^ e : Nat) := by
  unfold magnitude
  push_cast
  rw [zpow_natCast]

/-- An integer of the format lies below the bound, for the greatest one does. -/
theorem lt_overflowBound_of_isExact {n : Nat} (h : IsExact n) : (n : ℚ) < overflowBound := by
  obtain ⟨m, e, hm, he, hn⟩ := h
  have hmantissa : (m : ℚ) ≤ 2 ^ 53 - 1 := by
    have : ((m + 1 : Nat) : ℚ) ≤ (2 ^ 53 : Nat) := by exact_mod_cast hm
    push_cast at this
    linarith
  have hunit : (0 : ℚ) < 2 ^ greatestExponent := by positivity
  have hvalue : m * 2 ^ (e : Int) = (n : ℚ) := by
    rw [Int.natAbs_natCast] at hn
    rw [hn]
    exact magnitude_natCast m e
  rw [overflowBound_eq, ← hvalue]
  have hgreatest : (e : Int) ≤ greatestExponent := by
    have : greatestExponent = 971 := rfl
    omega
  have hpower : (2 : ℚ) ^ (e : Int) ≤ 2 ^ greatestExponent :=
    zpow_le_zpow_right₀ (by norm_num) hgreatest
  calc (m : ℚ) * 2 ^ (e : Int) ≤ m * 2 ^ greatestExponent :=
        mul_le_mul_of_nonneg_left hpower (Nat.cast_nonneg m)
    _ < (2 ^ 53 - 1 / 2) * 2 ^ greatestExponent := by
        apply mul_lt_mul_of_pos_right _ hunit
        linarith

/-- Below exponent zero there are only small numbers, so an integer that is rounded to one of them
is small, and is itself one of them. -/
theorem magnitude_eq_of_neg {n mantissa : Nat} {exponent : Int} (hneg : exponent < 0)
    (hfits : Fits mantissa exponent)
    (hnear : ∀ m e, Fits m e → |(n : ℚ) - magnitude mantissa exponent| ≤ |n - magnitude m e|) :
    n < 2 ^ 53 ∧ magnitude mantissa exponent = n := by
  have hsmall : magnitude mantissa exponent < 2 ^ 52 := by
    have hpower : magnitude (2 ^ 52) 0 = 2 ^ 52 := by
      unfold magnitude
      norm_num
    rw [← hpower]
    exact magnitude_lt hfits.1 hneg
  have hlt : n < 2 ^ 53 := by
    by_contra hge
    have hge' : (2 ^ 53 : ℚ) ≤ n := by exact_mod_cast not_lt.mp hge
    -- the power of two at the end of the small integers would be nearer
    have hnearer := hnear (2 ^ 52) 1 ⟨by norm_num, by decide⟩
    have hpower : magnitude (2 ^ 52) 1 = 2 ^ 53 := by
      unfold magnitude
      norm_num
    rw [hpower, abs_of_nonneg (by linarith), abs_of_nonneg (by linarith)] at hnearer
    linarith
  refine ⟨hlt, ?_⟩
  have hself := hnear n 0 ⟨hlt, by decide⟩
  have hzero : magnitude n 0 = n := by
    unfold magnitude
    rw [zpow_zero, mul_one]
  rw [hzero, sub_self, abs_zero] at hself
  exact (sub_eq_zero.mp (abs_nonpos_iff.mp hself)).symm

/-- What an integer is rounded to is an integer. -/
theorem integer?_of_near {n mantissa : Nat} {exponent : Int} (negative : Bool)
    (hfits : Fits mantissa exponent) (hbounded : exponent ≤ greatestExponent)
    (hnear : ∀ m e, Fits m e → |(n : ℚ) - magnitude mantissa exponent| ≤ |n - magnitude m e|) :
    ∃ k : Nat, magnitude mantissa exponent = k ∧ IsExact k ∧
      (Binary64.finite negative mantissa exponent).integer? = some (withSign negative k) := by
  have hgreatest : greatestExponent = 971 := rfl
  rcases le_or_gt 0 exponent with hpos | hneg
  · have hexponent : ((exponent.toNat : Nat) : Int) = exponent := Int.toNat_of_nonneg hpos
    refine ⟨mantissa * 2 ^ exponent.toNat, ?_, ⟨mantissa, exponent.toNat, hfits.1, by omega, rfl⟩,
      ?_⟩
    · rw [← magnitude_natCast, hexponent]
    · rw [integer?, if_pos hpos]
      rfl
  · obtain ⟨hlt, hvalue⟩ := magnitude_eq_of_neg hneg hfits hnear
    refine ⟨n, hvalue, isExact_of_lt hlt, ?_⟩
    have hunit : (0 : ℚ) < 2 ^ (-exponent).toNat := by positivity
    have hmantissa : mantissa = n * 2 ^ (-exponent).toNat := by
      rw [magnitude, zpow_eq_div (by norm_num), Int.toNat_of_nonpos hneg.le, pow_zero,
        mul_one_div, div_eq_iff hunit.ne'] at hvalue
      exact_mod_cast hvalue
    have hpow : 0 < 2 ^ (-exponent).toNat := Nat.two_pow_pos _
    rw [integer?, if_neg (not_le.mpr hneg), hmantissa, Nat.pow_eq, if_pos (Nat.mul_mod_left _ _), Nat.mul_div_cancel _ hpow]
    rfl

end Binary64

/-- A decimal integer as a quantity: the nearest of the integers among the double precision
numbers, or infinity from the end of their range on. -/
theorem ofReal_ofDecimal (negative : Bool) {digits : List Nat} (hdigits : ∀ d ∈ digits, d < 10) :
    (Binary64.overflowBound ≤ (ofDigits 10 digits : ℚ) ∧
        Quantity.ofReal (.ofDecimal negative digits 0) = .real (.infinite negative)) ∨
      ((ofDigits 10 digits : ℚ) < Binary64.overflowBound ∧ ∃ k : Nat, IsExact k ∧
        Quantity.ofReal (.ofDecimal negative digits 0) = .whole (withSign negative k) ∧
        ∀ other : Nat, IsExact other →
          |(ofDigits 10 digits : ℚ) - k| ≤ |(ofDigits 10 digits : ℚ) - other|) := by
  have hrounds := Binary64.ofDecimal_roundsTo negative hdigits 0
  rw [zpow_zero, mul_one] at hrounds
  generalize ofDigits 10 digits = n at *
  generalize Binary64.ofDecimal negative digits 0 = x at *
  cases hrounds with
  | overflow above => exact .inl ⟨above, rfl⟩
  | nearest below fits bounded near _ =>
    right
    obtain ⟨k, hvalue, hexact, hinteger⟩ :=
      Binary64.integer?_of_near negative fits bounded near
    refine ⟨below, k, hexact, ?_, ?_⟩
    · rw [Quantity.ofReal, hinteger]
    · intro other hother
      obtain ⟨m, e, hm, -, hother⟩ := hother
      have hnear := near m e ⟨hm, by have : Binary64.leastExponent = -1074 := rfl; omega⟩
      rw [hvalue, Binary64.magnitude_natCast, ← hother, Int.natAbs_natCast] at hnear
      exact hnear

end FitProfile.Number
