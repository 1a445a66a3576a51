import FitProfile.Number.Binary64
import Mathlib.Algebra.Order.Field.Power
import Mathlib.Algebra.Order.Ring.Rat
import Mathlib.Tactic.FieldSimp
import Mathlib.Tactic.Linarith
import Mathlib.Tactic.NormNum
import Mathlib.Tactic.Positivity
import Mathlib.Tactic.Ring
/-!
# FitProfile.Proofs.Number.Rounding -- ratios are rounded to the nearest number

`RoundsTo` says which double precision number stands for a rational number that is not negative:
no other one is nearer, of two that are equally near it is the even one, and from half a unit
above the greatest number on it is infinity. What `Binary64.ofRatio` computes is that number
(`ofRatio_roundsTo`). The exponent comes first: it is the binary logarithm of the ratio. Then the
ratio is a natural number of units at this exponent, but for less than one unit, and the mantissa
is the nearest natural number.
-/

namespace FitProfile.Number.Binary64

/-! ## Numbers of the format -/

/-- What a mantissa at an exponent stands for. -/
def magnitude (mantissa : Nat) (exponent : Int) : ℚ := mantissa * 2 ^ exponent

/-- Mantissas and exponents of the format, as far as it is bounded below. -/
def Fits (mantissa : Nat) (exponent : Int) : Prop := mantissa < 2 ^ 53 ∧ leastExponent ≤ exponent

/-- Half a unit above the greatest number. -/
def overflowBound : ℚ := 2 ^ 1024 - 2 ^ 970

/-- The number that stands for a rational number, with a sign. -/
inductive RoundsTo (x : ℚ) (negative : Bool) : Binary64 → Prop where
  | overflow (above : overflowBound ≤ x) : RoundsTo x negative (.infinite negative)
  | nearest {mantissa : Nat} {exponent : Int} (below : x < overflowBound)
      (fits : Fits mantissa exponent) (bounded : exponent ≤ greatestExponent)
      (near : ∀ m e, Fits m e → |x - magnitude mantissa exponent| ≤ |x - magnitude m e|)
      (even : ∀ m e, Fits m e → |x - magnitude mantissa exponent| = |x - magnitude m e| →
        magnitude m e ≠ magnitude mantissa exponent → Even mantissa) :
      RoundsTo x negative (.finite negative mantissa exponent)

/-! ## Rounding to a natural number -/

/-- A natural number that is nearest to a rational one, the even one of two. -/
structure Nearest (y : ℚ) (q : Nat) : Prop where
  low : y - 1 / 2 ≤ q
  high : q ≤ y + 1 / 2
  even : (q : ℚ) = y - 1 / 2 ∨ (q : ℚ) = y + 1 / 2 → Even q

namespace Nearest

variable {y : ℚ} {q : Nat}

theorem dist_le (h : Nearest y q) : |y - q| ≤ 1 / 2 := by
  rw [abs_le]
  constructor
  · linarith [h.high]
  · linarith [h.low]

/-- Two integers that differ are a unit apart, one of them by half a unit or more. -/
theorem one_le_of_ne {j : Int} (hne : j ≠ q) : 1 ≤ |y - j| + |y - q| := by
  have hgap : (1 : ℚ) ≤ |(j : ℚ) - q| := by
    have := Int.one_le_abs (sub_ne_zero.mpr hne)
    exact_mod_cast this
  have htriangle := abs_sub_le (j : ℚ) y q
  rw [abs_sub_comm (j : ℚ) y] at htriangle
  linarith

/-- No integer is nearer. -/
theorem dist_le_dist (h : Nearest y q) (j : Int) : |y - q| ≤ |y - j| := by
  by_cases hne : j = q
  · rw [hne]
    exact le_of_eq rfl
  · have := one_le_of_ne (y := y) hne
    linarith [h.dist_le]

/-- Another integer is as near only if the nearest one is even. -/
theorem even_of_eq (h : Nearest y q) {j : Int} (hne : j ≠ q) (heq : |y - q| = |y - j|) :
    Even q := by
  have hgap := one_le_of_ne (y := y) hne
  have hhalf : |y - q| = 1 / 2 := by linarith [h.dist_le]
  apply h.even
  rcases (abs_eq (by norm_num)).mp hhalf with heq | heq
  · exact .inl (by linarith)
  · exact .inr (by linarith)

end Nearest

theorem nearest_divideToEven (num : Nat) {den : Nat} (hden : 0 < den) :
    Nearest (num / den) (divideToEven num den) := by
  have hpos : (0 : ℚ) < den := by exact_mod_cast hden
  -- the ratio is the quotient and a part of one, which is compared with a half
  obtain ⟨part, hpart⟩ : ∃ part : ℚ, part = (num % den : Nat) / den := ⟨_, rfl⟩
  have hratio : (num : ℚ) / den = (num / den : Nat) + part := by
    have hsplit : (num : ℚ) = den * (num / den : Nat) + (num % den : Nat) := by
      exact_mod_cast (Nat.div_add_mod num den).symm
    rw [hpart]
    field_simp
    linarith
  have hlow : 0 ≤ part := by
    rw [hpart]
    positivity
  have hhigh : part < 1 := by
    rw [hpart, div_lt_one hpos]
    exact_mod_cast Nat.mod_lt num hden
  have hbelow : 2 * (num % den) < den ↔ part < 1 / 2 := by
    rw [hpart, div_lt_div_iff₀ hpos (by norm_num), one_mul, mul_comm]
    exact_mod_cast Iff.rfl
  have habove : den < 2 * (num % den) ↔ 1 / 2 < part := by
    rw [hpart, div_lt_div_iff₀ (by norm_num) hpos, one_mul, mul_comm]
    exact_mod_cast Iff.rfl
  unfold divideToEven
  dsimp only
  rw [hratio]
  split
  next h =>
    rw [hbelow] at h
    refine ⟨by linarith, by linarith, ?_⟩
    rintro (heq | heq) <;> linarith
  next hnot =>
    split
    next h =>
      rw [habove] at h
      refine ⟨by push_cast; linarith, by push_cast; linarith, ?_⟩
      rintro (heq | heq) <;> push_cast at heq <;> linarith
    next hnot' =>
      rw [hbelow] at hnot
      rw [habove] at hnot'
      split
      next heven => exact ⟨by linarith, by linarith, fun _ => Nat.even_iff.mpr heven⟩
      next hodd =>
        refine ⟨by push_cast; linarith, by push_cast; linarith, fun _ => ?_⟩
        rw [Nat.even_iff]
        omega

/-! ## The binary logarithm -/

/-- A power is a ratio of powers with natural exponents. -/
theorem zpow_eq_div {b : ℚ} (hb : b ≠ 0) (e : Int) : b ^ e = b ^ e.toNat / b ^ (-e).toNat := by
  have hsplit : e = (e.toNat : Int) - ((-e).toNat : Int) := by omega
  conv_lhs => rw [hsplit]
  rw [zpow_sub₀ hb, zpow_natCast, zpow_natCast]

theorem zpow_le_ratio_iff {num den : Nat} (hden : 0 < den) (e : Int) :
    den * Nat.pow 2 e.toNat ≤ num * Nat.pow 2 (-e).toNat ↔ (2 : ℚ) ^ e ≤ num / den := by
  have hpos : (0 : ℚ) < den := by exact_mod_cast hden
  rw [zpow_eq_div (by norm_num), div_le_div_iff₀ (by positivity) hpos, Nat.pow_eq, Nat.pow_eq,
    mul_comm den]
  exact_mod_cast Iff.rfl

theorem floorLog2_spec {num den : Nat} (hnum : 0 < num) (hden : 0 < den) :
    (2 : ℚ) ^ floorLog2 num den ≤ num / den ∧
      (num : ℚ) / den < 2 ^ (floorLog2 num den + 1) := by
  have htwo : (2 : ℚ) ≠ 0 := by norm_num
  have hpos : (0 : ℚ) < den := by exact_mod_cast hden
  obtain ⟨top, htop⟩ : ∃ top : Int, top = (Nat.log2 num : Int) - (Nat.log2 den : Int) := ⟨_, rfl⟩
  -- the logarithms of the two parts leave two candidates
  have hnumLow : (2 : ℚ) ^ (Nat.log2 num : Int) ≤ num := by
    rw [zpow_natCast]
    exact_mod_cast Nat.log2_self_le hnum.ne'
  have hnumHigh : (num : ℚ) < 2 ^ (Nat.log2 num + 1 : Int) := by
    have : num < 2 ^ (Nat.log2 num + 1) := Nat.lt_log2_self
    exact_mod_cast this
  have hdenLow : (2 : ℚ) ^ (Nat.log2 den : Int) ≤ den := by
    rw [zpow_natCast]
    exact_mod_cast Nat.log2_self_le hden.ne'
  have hdenHigh : (den : ℚ) < 2 ^ (Nat.log2 den + 1 : Int) := by
    have : den < 2 ^ (Nat.log2 den + 1) := Nat.lt_log2_self
    exact_mod_cast this
  have hlow : (2 : ℚ) ^ (top - 1) ≤ num / den := by
    rw [le_div_iff₀ hpos]
    calc (2 : ℚ) ^ (top - 1) * den
        ≤ 2 ^ (top - 1) * 2 ^ (Nat.log2 den + 1 : Int) := by gcongr
      _ = 2 ^ (Nat.log2 num : Int) := by
          rw [← zpow_add₀ htwo]
          congr 1
          omega
      _ ≤ num := hnumLow
  have hhigh : (num : ℚ) / den < 2 ^ (top + 1) := by
    rw [div_lt_iff₀ hpos]
    calc (num : ℚ) < 2 ^ (Nat.log2 num + 1 : Int) := hnumHigh
      _ = 2 ^ (top + 1) * 2 ^ (Nat.log2 den : Int) := by
          rw [← zpow_add₀ htwo]
          congr 1
          omega
      _ ≤ 2 ^ (top + 1) * den := by gcongr
  unfold floorLog2
  dsimp only
  rw [← htop]
  split
  next h => exact ⟨(zpow_le_ratio_iff hden top).mp h, hhigh⟩
  next h =>
    rw [zpow_le_ratio_iff hden top, not_le] at h
    refine ⟨hlow, ?_⟩
    rwa [sub_add_cancel]

/-! ## Rounding a ratio -/

theorem nearest_mantissaAt (num : Nat) {den : Nat} (hden : 0 < den) (exponent : Int) :
    Nearest (num / den / 2 ^ exponent) (mantissaAt num den exponent) := by
  have hpos : 0 < den * Nat.pow 2 exponent.toNat := Nat.mul_pos hden (Nat.two_pow_pos _)
  have hden' : (den : ℚ) ≠ 0 := by exact_mod_cast hden.ne'
  have hratio : (num : ℚ) / den / 2 ^ exponent =
      (num * Nat.pow 2 (-exponent).toNat : Nat) / (den * Nat.pow 2 exponent.toNat : Nat) := by
    rw [zpow_eq_div (by norm_num)]
    simp only [Nat.pow_eq]
    push_cast
    field_simp
  rw [hratio]
  exact nearest_divideToEven _ hpos

/-- A distance in units. -/
theorem abs_sub_mul (x y : ℚ) (exponent : Int) :
    |x - y * 2 ^ exponent| = 2 ^ exponent * |x / 2 ^ exponent - y| := by
  have hunit : (0 : ℚ) < 2 ^ exponent := by positivity
  have hsplit : x - y * 2 ^ exponent = 2 ^ exponent * (x / 2 ^ exponent - y) := by
    field_simp
  rw [hsplit, abs_mul, abs_of_pos hunit]

/-- A number at a higher exponent is a multiple of the unit. -/
theorem magnitude_eq_mul {m : Nat} {e exponent : Int} (h : exponent ≤ e) :
    ∃ j : Int, magnitude m e = j * 2 ^ exponent := by
  refine ⟨m * 2 ^ (e - exponent).toNat, ?_⟩
  have hsplit : e = ((e - exponent).toNat : Int) + exponent := by omega
  unfold magnitude
  conv_lhs => rw [hsplit]
  rw [zpow_add₀ (by norm_num), zpow_natCast]
  push_cast
  ring

/-- A number at a lower exponent lies below the numbers with a full mantissa. -/
theorem magnitude_lt {m : Nat} {e exponent : Int} (hm : m < 2 ^ 53) (h : e < exponent) :
    magnitude m e < magnitude (2 ^ 52) exponent := by
  have hm' : (m : ℚ) < 2 ^ 53 := by exact_mod_cast hm
  unfold magnitude
  calc (m : ℚ) * 2 ^ e < 2 ^ 53 * 2 ^ e := by gcongr
    _ ≤ 2 ^ 53 * 2 ^ (exponent - 1) := by
        gcongr
        · norm_num
        · omega
    _ = (2 ^ 52 : Nat) * 2 ^ exponent := by
        rw [zpow_sub_one₀ (by norm_num)]
        push_cast
        ring

/-- Rounding to units is rounding to the numbers of the format: those at higher exponents are
among the multiples of the unit, and those at lower ones lie too far below. -/
theorem near_of_nearest {x : ℚ} {q : Nat} {exponent : Int} (hq : Nearest (x / 2 ^ exponent) q)
    (hfull : leastExponent < exponent → magnitude (2 ^ 52) exponent ≤ x) {m : Nat} {e : Int}
    (hfits : Fits m e) :
    |x - magnitude q exponent| ≤ |x - magnitude m e| ∧
      (|x - magnitude q exponent| = |x - magnitude m e| →
        magnitude m e ≠ magnitude q exponent → Even q) := by
  have hunit : (0 : ℚ) < 2 ^ exponent := by positivity
  have hgrid : ∀ j : Int, |x - magnitude q exponent| ≤ |x - j * 2 ^ exponent| := by
    intro j
    rw [magnitude, abs_sub_mul, abs_sub_mul]
    exact mul_le_mul_of_nonneg_left (hq.dist_le_dist j) hunit.le
  rcases le_or_gt exponent e with hhigher | hlower
  · obtain ⟨j, hj⟩ := magnitude_eq_mul (m := m) hhigher
    rw [hj]
    refine ⟨hgrid j, ?_⟩
    intro heq hne
    rw [magnitude, abs_sub_mul, abs_sub_mul] at heq
    apply hq.even_of_eq (j := j) ?_ (mul_left_cancel₀ hunit.ne' heq)
    rintro rfl
    exact hne rfl
  · have hnormal : magnitude (2 ^ 52) exponent ≤ x := hfull (lt_of_le_of_lt hfits.2 hlower)
    have hbelow := magnitude_lt hfits.1 hlower
    have hfarther : |x - magnitude q exponent| < |x - magnitude m e| := by
      calc |x - magnitude q exponent| ≤ |x - magnitude (2 ^ 52) exponent| := by
            have := hgrid (2 ^ 52 : Nat)
            exact_mod_cast this
        _ = x - magnitude (2 ^ 52) exponent := abs_of_nonneg (by linarith)
        _ < x - magnitude m e := by linarith
        _ ≤ |x - magnitude m e| := le_abs_self _
    refine ⟨hfarther.le, ?_⟩
    intro heq
    exact absurd heq hfarther.ne

theorem overflowBound_eq : overflowBound = (2 ^ 53 - 1 / 2) * 2 ^ greatestExponent := by
  have hpower : (2 : ℚ) ^ 1024 = 2 ^ 54 * 2 ^ 970 := by rw [← pow_add]
  have hunit : (2 : ℚ) ^ greatestExponent = 2 * 2 ^ 970 := by
    rw [← pow_succ']
    exact zpow_natCast 2 971
  rw [overflowBound, hpower, hunit]
  generalize (2 : ℚ) ^ 970 = half
  ring

/-- The bound lies between two powers of two. -/
theorem overflowBound_bounds : 2 ^ (1023 : Int) < overflowBound ∧ overflowBound ≤ 2 ^ (1024 : Int) := by
  have hunit : (0 : ℚ) < 2 ^ greatestExponent := by positivity
  have hpower : ∀ e : Int, (2 : ℚ) ^ (e + greatestExponent) = 2 ^ e * 2 ^ greatestExponent :=
    fun e => zpow_add₀ (by norm_num) e greatestExponent
  rw [overflowBound_eq]
  constructor
  · rw [show (1023 : Int) = 52 + greatestExponent from rfl, hpower]
    gcongr
    norm_num
  · rw [show (1024 : Int) = 53 + greatestExponent from rfl, hpower]
    gcongr
    norm_num

section

variable {x : ℚ} {k exponent : Int} {q : Nat}

/-- The rounded mantissa is at most one step beyond the greatest one. -/
theorem mantissa_le (hhigh : x < 2 ^ (k + 1)) (hexponent : k - 52 ≤ exponent)
    (hq : Nearest (x / 2 ^ exponent) q) : q ≤ 2 ^ 53 := by
  have hunit : (0 : ℚ) < 2 ^ exponent := by positivity
  have hroom : x / 2 ^ exponent < 2 ^ 53 := by
    rw [div_lt_iff₀ hunit]
    calc x < 2 ^ (k + 1) := hhigh
      _ ≤ 2 ^ (53 + exponent) := zpow_le_zpow_right₀ (by norm_num) (by omega)
      _ = 2 ^ 53 * 2 ^ exponent := by
          rw [zpow_add₀ (by norm_num)]
          norm_num
  have hlt : (q : ℚ) < (2 ^ 53 + 1 : Nat) := by
    push_cast
    linarith [hq.high]
  have : q < 2 ^ 53 + 1 := by exact_mod_cast hlt
  omega

/-- At the greatest exponent the mantissa leaves the format from half a unit above the greatest
number on. The tie leaves it as well, because the greatest mantissa is odd. -/
theorem overflow_iff_mantissa (hq : Nearest (x / 2 ^ greatestExponent) q) (hle : q ≤ 2 ^ 53) :
    overflowBound ≤ x ↔ q = 2 ^ 53 := by
  have hunit : (0 : ℚ) < 2 ^ greatestExponent := by positivity
  rw [overflowBound_eq, ← le_div_iff₀ hunit]
  constructor
  · intro hover
    by_contra hne
    have hgreatest : q = 2 ^ 53 - 1 := by
      have hlow : ((2 ^ 53 - 1 : Nat) : ℚ) ≤ q := by
        push_cast
        linarith [hq.low]
      have : 2 ^ 53 - 1 ≤ q := by exact_mod_cast hlow
      omega
    have htie : (q : ℚ) = x / 2 ^ greatestExponent - 1 / 2 := by
      have hcast : (q : ℚ) = 2 ^ 53 - 1 := by
        rw [hgreatest]
        push_cast
        norm_num
      linarith [hq.low]
    have heven := hq.even (.inl htie)
    rw [hgreatest] at heven
    exact absurd heven (by decide)
  · intro hq'
    have hcast : (q : ℚ) = 2 ^ 53 := by
      rw [hq']
      push_cast
      rfl
    linarith [hq.high]

/-- A ratio is beyond the format when its exponent is, after the carry if there is one. -/
theorem overflow_iff (hlow : 2 ^ k ≤ x) (hhigh : x < 2 ^ (k + 1))
    (hexponent : exponent = max (k - 52) leastExponent) (hq : Nearest (x / 2 ^ exponent) q) :
    overflowBound ≤ x ↔
      greatestExponent < if q = 2 ^ 53 then exponent + 1 else exponent := by
  have hle : q ≤ 2 ^ 53 := mantissa_le hhigh (by omega) hq
  have hleast : leastExponent = -1074 := rfl
  have hgreatest : greatestExponent = 971 := rfl
  rcases lt_trichotomy exponent greatestExponent with hbelow | heq | habove
  · -- the ratio is smaller than the bound, and the carry does not lead beyond the format
    have hsmall : x < overflowBound := by
      calc x < 2 ^ (k + 1) := hhigh
        _ ≤ 2 ^ (1023 : Int) := zpow_le_zpow_right₀ (by norm_num) (by omega)
        _ < overflowBound := overflowBound_bounds.1
    apply iff_of_false (not_le.mpr hsmall)
    split <;> omega
  · rw [heq] at hq
    rw [overflow_iff_mantissa hq hle]
    split <;> omega
  · have hlarge : overflowBound ≤ x := by
      calc overflowBound ≤ 2 ^ (1024 : Int) := overflowBound_bounds.2
        _ ≤ 2 ^ k := zpow_le_zpow_right₀ (by norm_num) (by omega)
        _ ≤ x := hlow
    apply iff_of_true hlarge
    split <;> omega

end

/-- A full mantissa carried to the next exponent stands for the same number. -/
theorem magnitude_carry (exponent : Int) :
    magnitude (2 ^ 52) (exponent + 1) = magnitude (2 ^ 53) exponent := by
  unfold magnitude
  rw [zpow_add_one₀ (by norm_num)]
  push_cast
  ring

/-- Ratios are rounded to the nearest number. -/
theorem ofRatio_roundsTo (negative : Bool) {num den : Nat} (hnum : 0 < num) (hden : 0 < den) :
    RoundsTo (num / den) negative (ofRatio negative num den) := by
  obtain ⟨hlow, hhigh⟩ := floorLog2_spec hnum hden
  obtain ⟨exponent, hexponent⟩ : ∃ e, e = max (floorLog2 num den - 52) leastExponent := ⟨_, rfl⟩
  have hq := nearest_mantissaAt num hden exponent
  have hover := overflow_iff hlow hhigh hexponent hq
  have hle := mantissa_le hhigh (by omega) hq
  have hfull : leastExponent < exponent → magnitude (2 ^ 52) exponent ≤ (num : ℚ) / den := by
    intro hnormal
    have hlog : floorLog2 num den = 52 + exponent := by omega
    refine le_trans (le_of_eq ?_) hlow
    rw [magnitude, hlog, zpow_add₀ (by norm_num)]
    norm_num
  unfold ofRatio
  dsimp only
  rw [← hexponent]
  generalize mantissaAt num den exponent = q at *
  rw [Nat.pow_eq] at *
  by_cases hcarry : q = 2 ^ 53
  · rw [if_pos hcarry] at hover ⊢
    subst hcarry
    split
    next habove => exact .overflow (hover.mpr habove)
    next hbelow =>
      have hnear := fun m e hfits => near_of_nearest hq hfull (m := m) (e := e) hfits
      rw [← magnitude_carry] at hnear
      refine .nearest (not_le.mp (mt hover.mp hbelow)) ⟨by norm_num, by omega⟩ (by omega)
        (fun m e hfits => (hnear m e hfits).1) ?_
      intro _ _ _ _ _
      exact Nat.even_iff.mpr (by norm_num)
  · rw [if_neg hcarry] at hover ⊢
    split
    next habove => exact .overflow (hover.mpr habove)
    next hbelow =>
      have hnear := fun m e hfits => near_of_nearest hq hfull (m := m) (e := e) hfits
      exact .nearest (not_le.mp (mt hover.mp hbelow)) ⟨by omega, by omega⟩ (by omega)
        (fun m e hfits => (hnear m e hfits).1) (fun m e hfits => (hnear m e hfits).2)

end FitProfile.Number.Binary64
