import FitProfile.Proofs.Linking.Fields
/-!
# FitProfile.Proofs.Linking.BitPositions -- slices as sets of bit positions

The check on slices compares where half-open ranges start and end, each slice with those in
front of it. Here a slice is the set of the bit positions that it takes (`Slice.Covers`), and
two slices are apart when no position is in both. For slices that take some bits the two
readings agree: `meets_eq_false_iff` for a pair, `admits_bitEnd_iff` for a slice and a width.
So the check decides whether the slices are apart and inside the carrier, in whatever order
they are listed (`check_eq_ok_iff_positions`).
-/

namespace FitProfile

open FitProfile.Draft

namespace Slice

/-! ## Positions -/

/-- A slice takes a bit of its carrier. -/
def Covers (slice : Slice) (position : Int) : Prop :=
  slice.bitOffset ≤ position ∧ position < slice.bitEnd

/-- Two slices take no bit together. -/
def Apart (a b : Slice) : Prop := ∀ position, ¬ (a.Covers position ∧ b.Covers position)

/-- Ranges of at least one bit that do not meet share no position, and ranges that meet share
the later one of their first positions. -/
theorem meets_eq_false_iff {a b : Slice} (ha : 0 < a.bits) (hb : 0 < b.bits) :
    a.meets b = false ↔ a.Apart b := by
  have hends : a.bitEnd = a.bitOffset + a.bits ∧ b.bitEnd = b.bitOffset + b.bits := ⟨rfl, rfl⟩
  constructor
  · intro hmeets position hboth
    obtain ⟨⟨hfirst, hlast⟩, hfirst', hlast'⟩ := hboth
    have hmeet : a.meets b = true := by
      simp only [meets, Bool.and_eq_true, decide_eq_true_eq]
      omega
    rw [hmeet] at hmeets
    cases hmeets
  · intro hapart
    rw [Bool.eq_false_iff]
    intro hmeets
    simp only [meets, Bool.and_eq_true, decide_eq_true_eq] at hmeets
    refine hapart (max a.bitOffset b.bitOffset) ⟨⟨?_, ?_⟩, ?_, ?_⟩ <;> omega

/-- A number of bits has room for a slice when it has a bit for each of its positions. -/
theorem admits_bitEnd_iff {slice : Slice} (hbits : 0 < slice.bits) {n : Int} :
    (Width.bits n).Admits slice.bitEnd ↔ ∀ position, slice.Covers position → position < n := by
  have hend : slice.bitEnd = slice.bitOffset + slice.bits := rfl
  constructor
  · intro hroom position hcovers
    exact Int.lt_of_lt_of_le hcovers.2 hroom
  · intro hall
    -- the last position is one before the end
    have hlast := hall (slice.bitEnd - 1) ⟨by omega, by omega⟩
    show slice.bitEnd ≤ n
    omega

/-! ## The check -/

/-- The order of the slices does not matter for passing. -/
theorem check_eq_ok_of_perm {width : Width} {slices other : List Slice} (h : slices.Perm other)
    (hok : check width [] slices = .ok ()) : check width [] other = .ok () := by
  rw [check_eq_ok] at hok ⊢
  obtain ⟨hroom, -, hpair⟩ := hok
  refine ⟨fun slice hmem => hroom slice (h.mem_iff.mpr hmem), by simp, ?_⟩
  refine (h.pairwise_iff ?_).mp hpair
  intro a b hab
  rwa [meets_comm]

/-- A carrier without a bound, or of a number of bits, has room for slices when it has a bit for
each of their positions. -/
theorem forall_admits_iff {width : Width} (hwidth : width = .unbounded ∨ ∃ n, width = .bits n)
    {slices : List Slice} (hbits : ∀ slice ∈ slices, 0 < slice.bits) :
    (∀ slice ∈ slices, width.Admits slice.bitEnd) ↔ ∀ n, width = .bits n →
      ∀ slice ∈ slices, ∀ position, slice.Covers position → position < n := by
  obtain rfl | ⟨n, rfl⟩ := hwidth
  · exact iff_of_true (fun _ _ => trivial) nofun
  · constructor
    · rintro hroom _ ⟨⟩ slice hmem
      exact (admits_bitEnd_iff (hbits slice hmem)).mp (hroom slice hmem)
    · intro hall slice hmem
      exact (admits_bitEnd_iff (hbits slice hmem)).mpr (hall n rfl slice hmem)

/-- Slices of at least one bit pass the check of a carrier when no two of them share a bit and
none takes a bit behind the width of the carrier, if that has one. Slices in another order pass
just the same. -/
theorem check_eq_ok_iff_positions (base : BaseType) (extent : Option Extent)
    (slices : List Slice) (hextent : Extent.IsArraySize extent)
    (hbits : ∀ slice ∈ slices, 0 < slice.bits) :
    (check (Extent.width base extent) [] slices = .ok () ↔
      slices.Pairwise Apart ∧ ∀ n, Extent.width base extent = .bits n →
        ∀ slice ∈ slices, ∀ position, slice.Covers position → position < n) ∧
    ∀ other, slices.Perm other →
      (check (Extent.width base extent) [] slices = .ok () ↔
        check (Extent.width base extent) [] other = .ok ()) := by
  constructor
  · have hwidth := Extent.width_of_isArraySize base hextent
    have hpairs : (slices.Pairwise fun a b => a.meets b = false) ↔ slices.Pairwise Apart :=
      List.Pairwise.iff_of_mem fun ha hb => meets_eq_false_iff (hbits _ ha) (hbits _ hb)
    rw [check_eq_ok, forall_admits_iff hwidth hbits, hpairs]
    simp only [List.not_mem_nil, false_imp_iff, implies_true, true_and]
    exact and_comm
  · intro other hperm
    exact ⟨check_eq_ok_of_perm hperm, check_eq_ok_of_perm hperm.symm⟩

/-- Two slices out of order, with bits 8 to 11 left free, in a carrier of two bytes. -/
theorem check_unorderedSlices :
    Extent.IsArraySize (some (.count 2)) ∧
      (∀ slice ∈ [(⟨"high", 1, 4, 12, default⟩ : Slice), ⟨"low", 2, 8, 0, default⟩],
        0 < slice.bits) ∧
      [(⟨"high", 1, 4, 12, default⟩ : Slice), ⟨"low", 2, 8, 0, default⟩].Pairwise Apart ∧
      check (Extent.width .byte (some (.count 2))) []
        [⟨"low", 2, 8, 0, default⟩, ⟨"high", 1, 4, 12, default⟩] = .ok () := by
  have hbits : ∀ slice ∈ [(⟨"high", 1, 4, 12, default⟩ : Slice), ⟨"low", 2, 8, 0, default⟩],
      0 < slice.bits := by decide
  obtain ⟨hpositions, hperm⟩ := check_eq_ok_iff_positions .byte (some (.count 2))
    [⟨"high", 1, 4, 12, default⟩, ⟨"low", 2, 8, 0, default⟩] trivial hbits
  have hok : check (Extent.width .byte (some (.count 2))) []
      [⟨"high", 1, 4, 12, default⟩, ⟨"low", 2, 8, 0, default⟩] = .ok () := rfl
  exact ⟨trivial, hbits, (hpositions.mp hok).1, (hperm _ (List.Perm.swap _ _ _)).mp hok⟩

end Slice

end FitProfile
