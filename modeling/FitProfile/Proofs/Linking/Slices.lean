import FitProfile.Proofs.Linking.Types
import FitProfile.Proofs.Number.Comparison
/-!
# FitProfile.Proofs.Linking.Slices -- components as slices of their carrier

Components are laid side by side from bit zero on. `Tiles` is the relation between the
components of a carrier and the slices made of them. Slices that tile never meet, so of
the two checks on slices only the one against the width decides, and it comes down to
whether the width leaves room for all components together.
-/

namespace FitProfile

open FitProfile.Draft FitProfile.Outcome

/-! ## Slices against a width and against each other -/

namespace Slice

theorem widthFault?_eq_none {slice : Slice} {width : Width} :
    slice.widthFault? width = none ↔ width.Admits slice.bitEnd := by
  cases width with
  | unbounded => simp [widthFault?, Width.Admits]
  | bits n => simp [widthFault?, Width.Admits]
  | real x => simp [widthFault?, Width.Admits]
  | unmeasured text => simp [widthFault?, Width.Admits]

theorem meets_comm (a b : Slice) : a.meets b = b.meets a := by
  simp only [meets]
  exact Bool.and_comm ..

/-- A list of slices passes when each is inside the width and no two meet. -/
theorem check_eq_ok {width : Width} {taken slices : List Slice} :
    check width taken slices = .ok () ↔
      (∀ s ∈ slices, width.Admits s.bitEnd) ∧ (∀ s ∈ slices, ∀ t ∈ taken, s.meets t = false) ∧
        slices.Pairwise fun a b => a.meets b = false := by
  induction slices generalizing taken with
  | nil => simp [check]
  | cons slice rest ih =>
    unfold check
    cases hwidth : slice.widthFault? width with
    | some fault =>
      have hnot : ¬ width.Admits slice.bitEnd := by
        rw [← widthFault?_eq_none, hwidth]
        simp
      simp [hnot]
    | none =>
      have hfits := widthFault?_eq_none.mp hwidth
      cases hfind : taken.find? fun other => slice.meets other with
      | some other =>
        have hmeets : slice.meets other = true := by simpa using List.find?_some hfind
        have hmem := List.mem_of_find?_eq_some hfind
        simp only [reduceCtorEq, false_iff]
        rintro ⟨-, hapart, -⟩
        rw [hapart slice (by simp) other hmem] at hmeets
        cases hmeets
      | none =>
        have hapart : ∀ t ∈ taken, slice.meets t = false := by
          simpa [List.find?_eq_none] using hfind
        -- the slice joins those taken, so the later slices are held against it by the
        -- second condition on the left and by the third one on the right
        simp only [ih, List.mem_append, List.mem_cons, List.not_mem_nil, or_false,
          List.pairwise_cons]
        constructor
        · rintro ⟨hall, hno, hpair⟩
          refine ⟨?_, ?_, ?_, hpair⟩
          · rintro s (rfl | hs)
            · exact hfits
            · exact hall s hs
          · rintro s (rfl | hs) t ht
            · exact hapart t ht
            · exact hno s hs t (.inl ht)
          · intro s hs
            rw [meets_comm]
            exact hno s hs slice (.inr rfl)
        · rintro ⟨hall, hno, hslice, hpair⟩
          refine ⟨fun s hs => hall s (.inr hs), ?_, hpair⟩
          rintro s hs t (ht | rfl)
          · exact hno s (.inr hs) t ht
          · rw [meets_comm]
            exact hslice s hs

/-- Widths that are a number of bits, or have no bound, measure every slice. -/
theorem check_ne_notMeasurable {width : Width} {taken slices : List Slice} {slice : Slice}
    (hwidth : width = .unbounded ∨ ∃ n, width = .bits n) :
    check width taken slices ≠ .error (.notMeasurable slice) := by
  induction slices generalizing taken with
  | nil => simp [check]
  | cons first rest ih =>
    have hfault : ∀ s, first.widthFault? width ≠ some (.notMeasurable s) := by
      intro s
      obtain rfl | ⟨n, rfl⟩ := hwidth
      · simp [widthFault?]
      · simp only [widthFault?]
        split <;> simp
    unfold check
    split
    next fault heq =>
      intro herr
      cases herr
      exact hfault slice heq
    next =>
      split
      · simp
      · exact ih

end Slice

namespace Width

/-- A width that has room for some bits has room for fewer. -/
theorem Admits.mono {width : Width} {a b : Int} (hab : a ≤ b) (h : width.Admits b) :
    width.Admits a := by
  cases width with
  | unbounded => trivial
  | bits n => exact Int.le_trans hab h
  | unmeasured text => exact h
  | real x =>
    refine Bool.eq_false_iff.mpr fun hless => ?_
    exact Bool.eq_false_iff.mp h (Number.Binary64.isLessThan_of_le hless hab)

end Width

/-! ## Components laid side by side -/

namespace LinkContext

/-- The slices that the components of a carrier become, the first free bit being given. -/
inductive Tiles (c : LinkContext) (carrier : FieldRow) :
    Int → List ComponentEntry → List Slice → Prop where
  | nil (offset : Int) : Tiles c carrier offset [] []
  | cons {offset : Int} {entry : ComponentEntry} {target : FieldRow}
      {rest : List ComponentEntry} {slices : List Slice}
      (found : c.main? entry.name = some target) (other : target.number ≠ carrier.number)
      (positive : 0 < entry.bits) (tail : Tiles c carrier (offset + entry.bits) rest slices) :
      Tiles c carrier offset (entry :: rest)
        ({ name := entry.name, number := target.number, bits := entry.bits, bitOffset := offset
           scaling := ⟨entry.scale, entry.offset, entry.units, entry.accumulate⟩ } :: slices)

variable {c : LinkContext} {carrier : FieldRow}

theorem linkComponents_eq_ok {offset : Int} {entries : List ComponentEntry} {slices : List Slice} :
    c.linkComponents carrier offset entries = .ok slices ↔
      c.Tiles carrier offset entries slices := by
  induction entries generalizing offset slices with
  | nil =>
    constructor
    · intro h
      cases h
      exact .nil offset
    · rintro ⟨⟩
      rfl
  | cons entry rest ih =>
    constructor
    · intro h
      unfold linkComponents at h
      split at h
      next => cases h
      next target hfound =>
        split at h
        next => cases h
        next hother =>
          split at h
          next => cases h
          next hbits =>
            obtain ⟨tail, htail, hpure⟩ := bind_eq_ok.mp h
            cases hpure
            exact .cons hfound hother (by omega) (ih.mp htail)
    · rintro (_ | ⟨hfound, hother, hbits, htail⟩)
      unfold linkComponents
      simp only [hfound]
      rw [if_neg hother, if_neg (by omega)]
      exact bind_eq_ok.mpr ⟨_, ih.mpr htail, rfl⟩

/-- A contradiction in a row of the message under link. -/
def BlamesField (c : LinkContext) (row : FieldRow) (fault : Fault) : Prop :=
  ∃ cause, fault = c.fieldFault row cause

theorem BlamesField.of_error {α : Type} {row : FieldRow} {cause : IntegrityCause} {fault : Fault}
    (h : (Except.error (c.fieldFault row cause) : Except Fault α) = .error fault) :
    c.BlamesField row fault := ⟨cause, (Except.error.inj h).symm⟩

theorem linkComponents_refused {offset : Int} {entries : List ComponentEntry} {fault : Fault}
    (h : c.linkComponents carrier offset entries = .error fault) :
    c.BlamesField carrier fault := by
  induction entries generalizing offset with
  | nil => cases h
  | cons entry rest ih =>
    unfold linkComponents at h
    split at h
    next => exact .of_error h
    next =>
      split at h
      next => exact .of_error h
      next =>
        split at h
        next => exact .of_error h
        next =>
          rcases bind_eq_error.mp h with htail | ⟨_, _, hpure⟩
          · exact ih htail
          · cases hpure

namespace Tiles

theorem exists_of_forall (offset : Int) {entries : List ComponentEntry}
    (htargets : ∀ entry ∈ entries,
      ∃ target, c.main? entry.name = some target ∧ target.number ≠ carrier.number)
    (hpositive : ∀ entry ∈ entries, 0 < entry.bits) :
    ∃ slices, c.Tiles carrier offset entries slices := by
  induction entries generalizing offset with
  | nil => exact ⟨[], .nil offset⟩
  | cons entry rest ih =>
    obtain ⟨target, hfound, hother⟩ := htargets entry (by simp)
    obtain ⟨slices, htail⟩ := ih (offset + entry.bits) (fun e he => htargets e (by simp [he]))
      (fun e he => hpositive e (by simp [he]))
    exact ⟨_, .cons hfound hother (hpositive entry (by simp)) htail⟩

theorem targets {offset : Int} {entries : List ComponentEntry} {slices : List Slice}
    (h : c.Tiles carrier offset entries slices) :
    ∀ entry ∈ entries,
      ∃ target, c.main? entry.name = some target ∧ target.number ≠ carrier.number := by
  induction h with
  | nil => simp
  | cons found other _ _ ih =>
    intro e he
    rcases List.mem_cons.mp he with rfl | he
    · exact ⟨_, found, other⟩
    · exact ih e he

theorem positive {offset : Int} {entries : List ComponentEntry} {slices : List Slice}
    (h : c.Tiles carrier offset entries slices) : ∀ entry ∈ entries, 0 < entry.bits := by
  induction h with
  | nil => simp
  | cons _ _ positive _ ih =>
    intro e he
    rcases List.mem_cons.mp he with rfl | he
    · exact positive
    · exact ih e he

theorem slices_ne_nil {offset : Int} {entries : List ComponentEntry} {slices : List Slice}
    (h : c.Tiles carrier offset entries slices) (hne : entries ≠ []) : slices ≠ [] := by
  cases h with
  | nil => exact absurd rfl hne
  | cons => simp

/-- A slice names the main field that the component names, which is not the carrier. -/
theorem slice_target {offset : Int} {entries : List ComponentEntry} {slices : List Slice}
    (h : c.Tiles carrier offset entries slices) {slice : Slice} (hmem : slice ∈ slices) :
    ∃ target, c.main? slice.name = some target ∧ slice.number = target.number ∧
      target.number ≠ carrier.number := by
  induction h with
  | nil => cases hmem
  | cons found other _ _ ih =>
    rcases List.mem_cons.mp hmem with rfl | hmem
    · exact ⟨_, found, rfl, other⟩
    · exact ih hmem

theorem room {offset : Int} {entries : List ComponentEntry} {slices : List Slice}
    (h : c.Tiles carrier offset entries slices) : 0 ≤ (entries.map ComponentEntry.bits).sum := by
  induction h with
  | nil => exact Int.le_refl _
  | cons _ _ positive _ ih =>
    rw [List.map_cons, List.sum_cons]
    omega

/-- No slice starts before the first free bit, and none ends behind all components. -/
theorem bounds {offset : Int} {entries : List ComponentEntry} {slices : List Slice}
    (h : c.Tiles carrier offset entries slices) :
    ∀ slice ∈ slices, offset ≤ slice.bitOffset ∧
      slice.bitEnd ≤ offset + (entries.map ComponentEntry.bits).sum := by
  induction h with
  | nil => simp
  | @cons offset entry target rest slices found other positive tail ih =>
    have hrest := tail.room
    intro slice hslice
    rw [List.map_cons, List.sum_cons]
    rcases List.mem_cons.mp hslice with rfl | hslice
    · refine ⟨Int.le_refl _, ?_⟩
      show offset + entry.bits ≤ _
      omega
    · have := ih slice hslice
      omega

/-- The last slice ends behind all components. -/
theorem exists_bitEnd {offset : Int} {entries : List ComponentEntry} {slices : List Slice}
    (h : c.Tiles carrier offset entries slices) (hne : entries ≠ []) :
    ∃ slice ∈ slices, slice.bitEnd = offset + (entries.map ComponentEntry.bits).sum := by
  induction h with
  | nil => exact absurd rfl hne
  | @cons offset entry target rest slices found other positive tail ih =>
    rw [List.map_cons, List.sum_cons]
    -- only the last component is followed by no other one
    by_cases hrest : rest = []
    · subst hrest
      refine ⟨_, List.mem_cons_self .., ?_⟩
      show offset + entry.bits = _
      simp
    · obtain ⟨slice, hmem, hend⟩ := ih hrest
      exact ⟨slice, List.mem_cons_of_mem _ hmem, by omega⟩

/-- Slices that tile never meet. -/
theorem pairwise {offset : Int} {entries : List ComponentEntry} {slices : List Slice}
    (h : c.Tiles carrier offset entries slices) :
    slices.Pairwise fun a b => a.meets b = false := by
  induction h with
  | nil => exact List.Pairwise.nil
  | @cons offset entry target rest slices found other positive tail ih =>
    refine List.pairwise_cons.mpr ⟨?_, ih⟩
    intro slice hslice
    have hstart := (tail.bounds slice hslice).1
    have hend : ¬ slice.bitOffset < offset + entry.bits := by omega
    simp [Slice.meets, Slice.bitEnd, hend]

/-- Against a width, slices that tile pass when there is room for all components. -/
theorem check_eq_ok {width : Width} {entries : List ComponentEntry} {slices : List Slice}
    (h : c.Tiles carrier 0 entries slices) (hne : entries ≠ []) :
    Slice.check width [] slices = .ok () ↔
      width.Admits (entries.map ComponentEntry.bits).sum := by
  rw [Slice.check_eq_ok]
  constructor
  · rintro ⟨hall, -, -⟩
    obtain ⟨slice, hmem, hend⟩ := h.exists_bitEnd hne
    have := hall slice hmem
    rwa [hend, Int.zero_add] at this
  · intro hroom
    refine ⟨fun slice hslice => hroom.mono ?_, by simp, h.pairwise⟩
    have := (h.bounds slice hslice).2
    omega

end Tiles

end LinkContext

end FitProfile
