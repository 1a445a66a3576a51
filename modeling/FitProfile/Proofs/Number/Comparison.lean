import FitProfile.Number.Quantity
/-!
# FitProfile.Proofs.Number.Comparison -- numbers against integers

A number is compared with an integer exactly: both are brought to the exponent of the number, and
nothing is rounded. So a number that does not exceed an integer lies below every greater one
(`Quantity.compareWith_eq_lt`). Infinity lies beyond all integers, and what is no number compares
with none.
-/

namespace FitProfile.Number

variable {m n : Int}

theorem Binary64.compareWith_eq_lt {x : Binary64} (h : (x.compareWith m).any Ordering.isLE = true)
    (hmn : m < n) : x.compareWith n = some .lt := by
  cases x with
  | notANumber => cases h
  | infinite negative =>
    cases negative with
    | false => cases h
    | true => rfl
  | finite negative mantissa exponent =>
    simp only [compareWith, Option.any_some, Int.isLE_compare] at h ⊢
    have hscale : (0 : Int) < (Nat.pow 2 (-exponent).toNat : Nat) :=
      Int.natCast_pos.mpr (Nat.pow_pos (by decide))
    have hlt := Int.lt_of_le_of_lt h (Int.mul_lt_mul_of_pos_right hmn hscale)
    rw [Int.compare_eq_lt.mpr hlt]

/-- What is less than an integer is less than every one that is at least as great. -/
theorem Binary64.isLessThan_of_le {x : Binary64} (h : x.isLessThan m = true) (hmn : m ≤ n) :
    x.isLessThan n = true := by
  rcases Int.le_iff_lt_or_eq.mp hmn with hlt | rfl
  · have hbelow := beq_iff_eq.mp h
    exact beq_iff_eq.mpr (compareWith_eq_lt (by rw [hbelow]; rfl) hlt)
  · exact h

/-- A number that does not exceed an integer is less than every greater one. -/
theorem Quantity.compareWith_eq_lt {q : Quantity} (h : (q.compareWith m).any Ordering.isLE = true)
    (hmn : m < n) : q.compareWith n = some .lt := by
  cases q with
  | whole a =>
    simp only [compareWith, Option.any_some, Int.isLE_compare] at h ⊢
    rw [Int.compare_eq_lt.mpr (Int.lt_of_le_of_lt h hmn)]
  | real x => exact Binary64.compareWith_eq_lt h hmn

end FitProfile.Number
