import FitProfile.Fault
import Mathlib.Algebra.Group.Nat.Defs
/-!
# FitProfile.Proofs.Wording -- integers that are too long to write

An integer can be written just when its magnitude lies below the power of ten that the limit on
decimal digits names. A fault that words integers is that fault as long as each of them can be
written, and the limit itself as soon as one cannot (`Fault.worded_cases`).
-/

namespace FitProfile

open FitProfile.Number

namespace Number

variable {n : Int}

theorem isWritable_eq_true : isWritable n = true ↔ n.natAbs < 10 ^ digitLimit := by
  rw [isWritable, decide_eq_true_iff]
  exact Nat.length_toDigits_le_iff (by decide) (by decide)

theorem isWritable_eq_false : isWritable n = false ↔ 10 ^ digitLimit ≤ n.natAbs := by
  rw [Bool.eq_false_iff, Ne, isWritable_eq_true, Nat.not_lt]

end Number

namespace Fault

variable {numbers : List Int} {fault : Fault}

theorem worded_of_writable (h : ∀ n ∈ numbers, isWritable n = true) :
    worded numbers fault = fault :=
  if_pos (List.all_eq_true.mpr h)

theorem worded_of_overlong (h : ∃ n ∈ numbers, isWritable n = false) :
    worded numbers fault = .tooManyDigitsToWrite := by
  obtain ⟨n, hn, hlong⟩ := h
  refine if_neg fun hall => ?_
  rw [List.all_eq_true.mp hall n hn] at hlong
  cases hlong

/-- A fault can be worded, or one of the integers in its wording is too long. -/
theorem worded_cases (numbers : List Int) (fault : Fault) :
    worded numbers fault = fault ∨
      worded numbers fault = .tooManyDigitsToWrite ∧ ∃ n ∈ numbers, isWritable n = false := by
  by_cases h : ∃ n ∈ numbers, isWritable n = false
  · exact .inr ⟨worded_of_overlong h, h⟩
  · refine .inl (worded_of_writable fun n hn => ?_)
    exact eq_true_of_ne_false fun hlong => h ⟨n, hn, hlong⟩

/-- A contradiction is reported with its location, unless that takes too many digits. -/
theorem ofIntegrity_cases (cause : IntegrityCause) (location : Location) :
    ofIntegrity cause location = .tooManyDigitsToWrite ∨
      ofIntegrity cause location = .integrity cause location :=
  (worded_cases _ _).elim .inr fun hlong => .inl hlong.1

end Fault

end FitProfile
