import FitProfile.Proofs.Number.Comparison
import FitProfile.Proofs.RuleSet.Selection
import FitProfile.RuleSet.Request
/-!
# FitProfile.Proofs.RuleSet.Requests -- what is selected for numbers of any kind

A request by two integers is answered as the release that they make (`selectFor_request`). Other
numbers are compared exactly, so a request that does not exceed the end of a range lies below all
that begins later (`Request.compareWith_eq_lt`). Hence the ranges of a sound registry have no
request in common either, and the order of the registry matters for a request as little as it does
for a release (`selectFor_decides`). What no range holds is refused as unsupported just when the
ranges and the request can be worded. Infinity cannot be (`selectFor_infinite`).
-/

namespace FitProfile

open FitProfile.Number

/-! ## The order of requests and releases -/

namespace Request

variable {request : Request} {a b : Version}

/-- A request that does not exceed a release lies below every higher one. -/
theorem compareWith_eq_lt (h : (request.compareWith a).any Ordering.isLE = true)
    (hab : a.lt b = true) : request.compareWith b = some .lt := by
  rw [Version.lt_iff] at hab
  unfold compareWith at h ⊢
  -- the major part is below that of the first release, or equal to it
  cases hmajor : request.major.compareWith a.major with
  | none => simp [hmajor] at h
  | some order =>
    have hstep := @Quantity.compareWith_eq_lt a.major b.major request.major
    rw [hmajor] at h hstep
    cases order with
    | gt => cases h
    | lt =>
      rcases hab with hlt | ⟨heq, -⟩
      · rw [hstep rfl hlt]
      · rw [← heq, hmajor]
    | eq =>
      rcases hab with hlt | ⟨heq, hlt⟩
      · rw [hstep rfl hlt]
      · rw [← heq, hmajor]
        exact Quantity.compareWith_eq_lt h hlt

/-- The two parts of a release compare as the release does. -/
theorem compareWith_request (v w : Version) :
    ((v.request.compareWith w).any Ordering.isLE = true ↔ v.le w = true) ∧
      ((v.request.compareWith w).any Ordering.isGE = true ↔ w.le v = true) := by
  rw [Version.le_iff, Version.le_iff]
  cases hmajor : compare v.major w.major with
  | lt =>
    have hlt := Int.compare_eq_lt.mp hmajor
    have hbelow : v.request.compareWith w = some .lt := by
      rw [compareWith, Version.request, Quantity.compareWith, hmajor]
    rw [hbelow]
    exact ⟨iff_of_true rfl (by omega), iff_of_false (by decide) (by omega)⟩
  | eq =>
    have heq := Int.compare_eq_eq.mp hmajor
    have hminor : v.request.compareWith w = some (compare v.minor w.minor) := by
      rw [compareWith, Version.request, Quantity.compareWith, hmajor, Quantity.compareWith]
    simp only [hminor, Option.any_some, Int.isLE_compare, Int.isGE_compare]
    omega
  | gt =>
    have hgt := Int.compare_eq_gt.mp hmajor
    have habove : v.request.compareWith w = some .gt := by
      rw [compareWith, Version.request, Quantity.compareWith, hmajor]
    rw [habove]
    exact ⟨iff_of_false (by decide) (by omega), iff_of_true rfl (by omega)⟩

end Request

/-! ## Numbers that cannot be worded -/

/-- A number that cannot be worded has a fault of its own. -/
theorem RequestFault.ofQuantity?_ne_unsupported (q : Quantity) (request : Request)
    (supported : List String) : ofQuantity? q ≠ some (.unsupported request supported) := by
  have hwhole : ∀ n, ofWhole? n ≠ some (.unsupported request supported) := by
    intro n
    unfold ofWhole?
    split <;> nofun
  cases q with
  | whole n => exact hwhole n
  | real x =>
    cases x with
    | notANumber => nofun
    | infinite negative => nofun
    | finite negative mantissa exponent => exact hwhole _

theorem Request.fault?_ne_unsupported (request other : Request) (supported : List String) :
    request.fault? ≠ some (.unsupported other supported) := by
  rw [fault?, Ne, Option.or_eq_some_iff, not_or, not_and]
  exact ⟨RequestFault.ofQuantity?_ne_unsupported _ _ _,
    fun _ => RequestFault.ofQuantity?_ne_unsupported _ _ _⟩

namespace RuleSet

variable {a b rules : RuleSet} {registry : List RuleSet} {request : Request} {fault : RequestFault}

/-- A range holds the two parts of a release just when it holds the release. -/
theorem holds_request (rules : RuleSet) (version : Version) :
    rules.holds version.request = rules.supports version := by
  rw [Bool.eq_iff_iff, supports_iff, holds, Bool.and_eq_true]
  exact and_congr (Request.compareWith_request version _).2 (Request.compareWith_request version _).1

theorem Below.not_both_hold (h : Below a b) :
    ¬ (a.holds request = true ∧ b.holds request = true) := by
  rintro ⟨ha, hb⟩
  simp only [holds, Bool.and_eq_true] at ha hb
  rw [Request.compareWith_eq_lt ha.2 h] at hb
  cases hb.1

/-- The ranges of a sound registry have no request in common. -/
theorem Sound.not_both_hold (h : Sound registry) (request : Request) :
    registry.Pairwise fun a b => ¬ (a.holds request = true ∧ b.holds request = true) := by
  refine h.apart.imp_of_mem fun {a b} ha hb hab => ?_
  rcases Version.le_total a.minVersion b.minVersion with hfirst | hfirst
  · exact (hab.below hfirst (h.wellFormed b hb).range).not_both_hold
  · intro hboth
    exact (hab.symm.below hfirst (h.wellFormed a ha).range).not_both_hold hboth.symm

/-! ## Refusals -/

/-- A request is refused as unsupported just when the ranges and its numbers can be worded. -/
theorem refusal_eq_unsupported :
    refusal registry request = .unsupported request (supportedRanges registry) ↔
      (∀ n ∈ registry.flatMap bounds, isWritable n = true) ∧ request.fault? = none := by
  rw [refusal, ← List.all_eq_true]
  split
  next hbounds =>
    cases hfault : request.fault? with
    | none => exact iff_of_true rfl ⟨hbounds, rfl⟩
    | some fault =>
      refine iff_of_false (fun h => ?_) nofun
      exact request.fault?_ne_unsupported _ _ (hfault.trans (congrArg some h))
  next hbounds => exact iff_of_false nofun fun h => hbounds h.1

/-- Integers are refused as the release that they make. -/
theorem refusal_request (registry : List RuleSet) (version : Version) :
    refusal registry version.request =
      if (unsupportedNumbers registry version).all isWritable then
        .unsupported version.request (supportedRanges registry)
      else .tooManyDigits := by
  unfold refusal
  cases hbounds : (registry.flatMap bounds).all isWritable <;>
    cases hmajor : isWritable version.major <;> cases hminor : isWritable version.minor <;>
    simp [unsupportedNumbers, hbounds, hmajor, hminor, Version.numbers, Version.request,
      Request.fault?, RequestFault.ofQuantity?, RequestFault.ofWhole?]

/-! ## Selection -/

theorem selectFor_eq_ok : selectFor registry request = .ok rules ↔
    (registry.find? fun rules => rules.holds request) = some rules := by
  unfold selectFor
  split <;> simp [*]

theorem selectFor_eq_error : selectFor registry request = .error fault ↔
    (registry.find? fun rules => rules.holds request) = none ∧
      refusal registry request = fault := by
  unfold selectFor
  split <;> simp [*]

/-- A request by two integers is answered as the release that they make. -/
theorem selectFor_request (registry : List RuleSet) (version : Version) :
    selectFor registry version.request = .ok rules ↔ select registry version = .ok rules := by
  simp only [selectFor_eq_ok, select_eq_ok, holds_request]

/-- In whatever order a registry that passes its check stands, the rule set selected for a request
is the one and only one whose range holds it, and the request is refused just when there is none. -/
theorem selectFor_decides {other : List RuleSet} (hchecked : checkRegistry registry = .ok ())
    (hperm : other.Perm registry) (request : Request) :
    (∀ rules, selectFor other request = .ok rules ↔
      (registry.filter fun rules => rules.holds request) = [rules]) ∧
    (∀ fault, selectFor other request = .error fault ↔
      (∀ rules ∈ registry, ¬ rules.holds request = true) ∧ refusal other request = fault) := by
  have hsound := checkRegistry_eq_ok.mp hchecked
  obtain ⟨hfound, hnone⟩ := find?_decides (hsound.not_both_hold request) hperm
  refine ⟨fun rules => selectFor_eq_ok.trans (hfound rules), fun fault => ?_⟩
  rw [selectFor_eq_error, hnone]

/-- No range holds infinity, and it is not refused as unsupported. -/
theorem selectFor_infinite (hbounds : ∀ n ∈ registry.flatMap bounds, isWritable n = true)
    (negative : Bool) (minor : Quantity) :
    selectFor registry ⟨.real (.infinite negative), minor⟩ = .error .infinite := by
  have hnone : ∀ rules ∈ registry, ¬ rules.holds ⟨.real (.infinite negative), minor⟩ = true := by
    intro rules _ hholds
    obtain ⟨hleast, hgreatest⟩ := Bool.and_eq_true_iff.mp hholds
    cases negative with
    | false => cases hgreatest
    | true => cases hleast
  refine selectFor_eq_error.mpr ⟨List.find?_eq_none.mpr hnone, ?_⟩
  rw [refusal, if_pos (List.all_eq_true.mpr hbounds)]
  rfl

example : selectFor registered ⟨.real (.infinite false), .whole 0⟩ = .error .infinite := by
  decide +kernel

end RuleSet

end FitProfile
