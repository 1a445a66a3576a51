import FitProfile.Number.RealText
import FitProfile.Proofs.Number.Rounding
/-!
# FitProfile.Proofs.Number.Decimals -- decimal fractions are rounded to the nearest number

A decimal fraction is digits and a power of ten. `Binary64.ofDecimal` decides fractions far
outside the range by their size and rounds the others as ratios; both ways lead to the number that
the fraction rounds to (`ofDecimal_roundsTo`).
-/

namespace FitProfile.Number

/-! ## Digits -/

theorem foldl_digits (base : Nat) (digits : List Nat) (n : Nat) :
    digits.foldl (fun n d => n * base + d) n =
      n * base ^ digits.length + ofDigits base digits := by
  induction digits generalizing n with
  | nil => simp [ofDigits]
  | cons d rest ih =>
    rw [ofDigits, List.foldl_cons, List.foldl_cons, ih, ih (0 * base + d), List.length_cons]
    ring

theorem ofDigits_cons (base d : Nat) (digits : List Nat) :
    ofDigits base (d :: digits) = d * base ^ digits.length + ofDigits base digits := by
  rw [ofDigits, List.foldl_cons, foldl_digits]
  ring

/-- Zeros in front do not count. -/
theorem ofDigits_dropWhile (base : Nat) (digits : List Nat) :
    ofDigits base (digits.dropWhile (· == 0)) = ofDigits base digits := by
  induction digits with
  | nil => rfl
  | cons d rest ih =>
    rw [List.dropWhile_cons]
    split
    next hzero =>
      rw [ih, ofDigits_cons, beq_iff_eq.mp hzero]
      ring
    next => rfl

theorem ofDigits_lt {base : Nat} {digits : List Nat} (h : ∀ d ∈ digits, d < base) :
    ofDigits base digits < base ^ digits.length := by
  induction digits with
  | nil => simp [ofDigits]
  | cons d rest ih =>
    have hrest := ih fun other hmem => h other (List.mem_cons_of_mem d hmem)
    have hd : d + 1 ≤ base := h d (List.mem_cons_self ..)
    rw [ofDigits_cons, List.length_cons]
    calc d * base ^ rest.length + ofDigits base rest
        < d * base ^ rest.length + base ^ rest.length := by omega
      _ = (d + 1) * base ^ rest.length := by ring
      _ ≤ base * base ^ rest.length := Nat.mul_le_mul_right _ hd
      _ = base ^ (rest.length + 1) := by ring

/-- What does not start with a zero has as many places as digits. -/
theorem le_ofDigits (base : Nat) {d : Nat} (digits : List Nat) (hd : d ≠ 0) :
    base ^ digits.length ≤ ofDigits base (d :: digits) := by
  rw [ofDigits_cons]
  calc base ^ digits.length ≤ d * base ^ digits.length :=
        Nat.le_mul_of_pos_left _ (Nat.pos_of_ne_zero hd)
    _ ≤ d * base ^ digits.length + ofDigits base digits := Nat.le_add_right _ _

namespace Binary64

/-- Numbers up to half of the least one are rounded to zero. -/
theorem roundsTo_zero {x : ℚ} (negative : Bool) (hx : 0 ≤ x) (hsmall : 2 * x ≤ 2 ^ leastExponent) :
    RoundsTo x negative (.zero negative) := by
  have hunit : (2 : ℚ) ^ leastExponent ≤ 1 := zpow_le_one_of_nonpos₀ (by norm_num) (by decide)
  have hbelow : x < overflowBound := by
    calc x ≤ 1 := by linarith
      _ ≤ 2 ^ (1023 : Int) := one_le_zpow₀ (by norm_num) (by norm_num)
      _ < overflowBound := overflowBound_bounds.1
  have hzero : magnitude 0 leastExponent = 0 := by
    rw [magnitude, Nat.cast_zero, zero_mul]
  refine .nearest hbelow ⟨by norm_num, le_refl _⟩ (by decide) ?_ fun _ _ _ _ _ => Even.zero
  intro m e hfits
  rw [hzero, sub_zero, abs_of_nonneg hx]
  rcases Nat.eq_zero_or_pos m with rfl | hpos
  · rw [magnitude, Nat.cast_zero, zero_mul, sub_zero, abs_of_nonneg hx]
  · -- any other number is at least a unit away from zero
    have hleast : (2 : ℚ) ^ leastExponent ≤ magnitude m e := by
      have hone : (1 : ℚ) ≤ m := by exact_mod_cast hpos
      calc (2 : ℚ) ^ leastExponent ≤ 2 ^ e := zpow_le_zpow_right₀ (by norm_num) hfits.2
        _ ≤ m * 2 ^ e := le_mul_of_one_le_left (by positivity) hone
    calc x ≤ magnitude m e - x := by linarith
      _ ≤ |magnitude m e - x| := le_abs_self _
      _ = |x - magnitude m e| := abs_sub_comm _ _

/-- Powers of ten beyond the range. -/
theorem overflowBound_le_pow : overflowBound ≤ 10 ^ (310 : Int) := by
  have hpowers : 2 ^ 1024 ≤ 10 ^ 310 := by decide +kernel
  have hcast : (2 : ℚ) ^ (1024 : Int) ≤ 10 ^ (310 : Int) := by exact_mod_cast hpowers
  exact overflowBound_bounds.2.trans hcast

/-- Powers of ten that are less than half of the least number. -/
theorem pow_le_leastHalf : 2 * (10 : ℚ) ^ (-331 : Int) ≤ 2 ^ leastExponent := by
  have hpowers : 2 * 2 ^ 1074 ≤ 10 ^ 331 := by decide +kernel
  have hcast : (2 : ℚ) * 2 ^ 1074 ≤ 10 ^ 331 := by exact_mod_cast hpowers
  have hleast : (2 : ℚ) ^ leastExponent = 1 / 2 ^ 1074 := by
    simp only [leastExponent, zpow_neg, zpow_ofNat, one_div]
  have hten : (10 : ℚ) ^ (-331 : Int) = 1 / 10 ^ 331 := by
    simp only [zpow_neg, zpow_ofNat, one_div]
  rw [hleast, hten, mul_one_div, div_le_div_iff₀ (by positivity) (by positivity), one_mul]
  exact hcast

theorem cast_pow_mul_zpow (places : Nat) (exponent : Int) :
    ((10 ^ places : Nat) : ℚ) * 10 ^ exponent = 10 ^ ((places : Int) + exponent) := by
  rw [zpow_add₀ (by norm_num), zpow_natCast]
  push_cast
  rfl

/-- What has too many places in front of its point is beyond the range. -/
theorem overflowBound_le_decimal {n places : Nat} {exponent : Int} (hlow : 10 ^ places ≤ n)
    (hlarge : 310 ≤ places + exponent) : overflowBound ≤ n * 10 ^ exponent := by
  have hcast : ((10 ^ places : Nat) : ℚ) ≤ n := by exact_mod_cast hlow
  calc overflowBound ≤ 10 ^ (310 : Int) := overflowBound_le_pow
    _ ≤ 10 ^ ((places : Int) + exponent) := zpow_le_zpow_right₀ (by norm_num) hlarge
    _ = (10 ^ places : Nat) * 10 ^ exponent := (cast_pow_mul_zpow places exponent).symm
    _ ≤ n * 10 ^ exponent := by gcongr

/-- What starts too far behind its point is at most half of the least number. -/
theorem decimal_le_leastHalf {n places : Nat} {exponent : Int} (hhigh : n < 10 ^ places)
    (hsmall : places + exponent ≤ -331) : 2 * ((n : ℚ) * 10 ^ exponent) ≤ 2 ^ leastExponent := by
  have hcast : (n : ℚ) ≤ (10 ^ places : Nat) := by exact_mod_cast hhigh.le
  have hpower : (n : ℚ) * 10 ^ exponent ≤ 10 ^ (-331 : Int) := by
    calc (n : ℚ) * 10 ^ exponent ≤ (10 ^ places : Nat) * 10 ^ exponent := by gcongr
      _ = 10 ^ ((places : Int) + exponent) := cast_pow_mul_zpow places exponent
      _ ≤ 10 ^ (-331 : Int) := zpow_le_zpow_right₀ (by norm_num) hsmall
  linarith [pow_le_leastHalf]

/-- A decimal fraction as a ratio, with the power of ten above or below. -/
theorem decimal_eq_ratio (n : Nat) (exponent : Int) : (n : ℚ) * 10 ^ exponent =
    (n * Nat.pow 10 exponent.toNat : Nat) / (Nat.pow 10 (-exponent).toNat : Nat) := by
  rw [zpow_eq_div (by norm_num)]
  simp only [Nat.pow_eq]
  push_cast
  ring

/-- Decimal fractions are rounded to the nearest number. -/
theorem ofDecimal_roundsTo (negative : Bool) {digits : List Nat} (hdigits : ∀ d ∈ digits, d < 10)
    (exponent : Int) :
    RoundsTo (ofDigits 10 digits * 10 ^ exponent) negative
      (ofDecimal negative digits exponent) := by
  unfold ofDecimal
  dsimp only
  rw [← ofDigits_dropWhile 10 digits]
  have hsub : ∀ d ∈ digits.dropWhile (· == 0), d < 10 :=
    fun d hmem => hdigits d ((List.dropWhile_sublist _).mem hmem)
  cases hdrop : digits.dropWhile (· == 0) with
  | nil =>
    rw [if_pos (by rfl)]
    refine roundsTo_zero negative ?_ ?_
    · simp [ofDigits]
    · simp only [ofDigits, List.foldl_nil, Nat.cast_zero, zero_mul, mul_zero]
      positivity
  | cons d rest =>
    have hd : d ≠ 0 := by
      have := List.head?_dropWhile_not (· == 0) digits
      rw [hdrop] at this
      simpa using this
    rw [hdrop] at hsub
    -- the first digit that counts tells how large the fraction is
    have hlow := le_ofDigits 10 rest hd
    have hhigh := ofDigits_lt hsub
    rw [if_neg (by simp)]
    rw [List.length_cons] at hhigh ⊢
    split
    next hlarge => exact .overflow (overflowBound_le_decimal hlow (by omega))
    next =>
      split
      next hsmall =>
        exact roundsTo_zero negative (by positivity) (decimal_le_leastHalf hhigh (by omega))
      next =>
        have hpos : 0 < ofDigits 10 (d :: rest) := lt_of_lt_of_le (by positivity) hlow
        rw [decimal_eq_ratio]
        exact ofRatio_roundsTo negative (Nat.mul_pos hpos (Nat.pow_pos (by norm_num)))
          (Nat.pow_pos (by norm_num))

end Binary64

end FitProfile.Number
