import FitProfile.Reported
import Mathlib.Data.List.Forall2
import Mathlib.Data.List.Nodup
/-!
# FitProfile.Proofs.Outcome -- taking computations apart

A computation that can fail is a chain of steps. The lemmas here peel off the first step:
a chain succeeds when each step does, and it fails with the fault of the step that fails
first. For `Reported` the outcomes are compared without the notes, and of the notes the
warnings are followed.
-/

namespace FitProfile.Outcome

variable {ε α β γ : Type}

theorem bind_eq_ok {x : Except ε α} {f : α → Except ε β} {b : β} :
    (x >>= f) = .ok b ↔ ∃ a, x = .ok a ∧ f a = .ok b := by
  cases x <;> simp [bind, Except.bind]

theorem bind_eq_error {x : Except ε α} {f : α → Except ε β} {fault : ε} :
    (x >>= f) = .error fault ↔
      x = .error fault ∨ ∃ a, x = .ok a ∧ f a = .error fault := by
  cases x <;> simp [bind, Except.bind]

theorem pure_eq_ok {a b : α} : (pure a : Except ε α) = .ok b ↔ a = b := by
  simp [pure, Except.pure]

theorem pure_ne_error {a : α} {fault : ε} : (pure a : Except ε α) ≠ .error fault := by
  simp [pure, Except.pure]

theorem throw_ne_ok {a : α} {fault : ε} : (throw fault : Except ε α) ≠ .ok a := by
  simp [throw, throwThe, MonadExceptOf.throw]

theorem throw_eq_error {a b : ε} : (throw a : Except ε α) = .error b ↔ a = b := by
  simp [throw, throwThe, MonadExceptOf.throw]

theorem map_eq_ok {x : Except ε α} {f : α → β} {b : β} :
    x.map f = .ok b ↔ ∃ a, x = .ok a ∧ f a = b := by
  cases x <;> simp [Except.map]

theorem map_eq_error {x : Except ε α} {f : α → β} {fault : ε} :
    x.map f = .error fault ↔ x = .error fault := by
  cases x <;> simp [Except.map]

/-- What is not accepted is refused. -/
theorem exists_error_of_not_ok {x : Except ε α} (h : ¬ ∃ a, x = .ok a) :
    ∃ fault, x = .error fault := by
  cases x with
  | ok a => exact absurd ⟨a, rfl⟩ h
  | error fault => exact ⟨fault, rfl⟩

/-! ## Lists related element by element -/

theorem forall₂_exists_of_mem {R : α → β → Prop} {as : List α} {bs : List β}
    (h : List.Forall₂ R as bs) {a : α} (hmem : a ∈ as) : ∃ b ∈ bs, R a b := by
  induction h with
  | nil => cases hmem
  | cons hab _ ih =>
    rcases List.mem_cons.mp hmem with rfl | hmem
    · exact ⟨_, by simp, hab⟩
    · obtain ⟨b, hb, hrel⟩ := ih hmem
      exact ⟨b, by simp [hb], hrel⟩

theorem forall₂_exists_of_mem_right {R : α → β → Prop} {as : List α} {bs : List β}
    (h : List.Forall₂ R as bs) {b : β} (hmem : b ∈ bs) : ∃ a ∈ as, R a b :=
  forall₂_exists_of_mem h.flip hmem

/-- Lists that are related element by element are so at each place. -/
theorem forall₂_getElem? {R : α → β → Prop} {as : List α} {bs : List β}
    (h : List.Forall₂ R as bs) {i : Nat} {a : α} (ha : as[i]? = some a) :
    ∃ b, bs[i]? = some b ∧ R a b := by
  induction h generalizing i with
  | nil => cases ha
  | @cons first other _ _ hfirst _ ih =>
    cases i with
    | zero =>
      cases ha
      exact ⟨other, rfl, hfirst⟩
    | succ i => exact ih ha

/-- Each element has a counterpart just when the whole list has one. -/
theorem exists_forall₂ {R : α → β → Prop} {as : List α} :
    (∃ bs, List.Forall₂ R as bs) ↔ ∀ a ∈ as, ∃ b, R a b := by
  constructor
  · rintro ⟨bs, h⟩ a hmem
    obtain ⟨b, -, hrel⟩ := forall₂_exists_of_mem h hmem
    exact ⟨b, hrel⟩
  · intro h
    induction as with
    | nil => exact ⟨[], .nil⟩
    | cons a rest ih =>
      obtain ⟨b, hb⟩ := h a (by simp)
      obtain ⟨bs, hbs⟩ := ih fun other hother => h other (by simp [hother])
      exact ⟨b :: bs, .cons hb hbs⟩

/-- What is related to a list around an element is a list around its counterpart. -/
theorem forall₂_split {R : α → β → Prop} {left right : List α} {a : α} {bs : List β}
    (h : List.Forall₂ R (left ++ a :: right) bs) :
    ∃ left' b right', bs = left' ++ b :: right' ∧ List.Forall₂ R left left' ∧ R a b ∧
      List.Forall₂ R right right' := by
  induction left generalizing bs with
  | nil =>
    cases h with
    | cons hab hrest => exact ⟨[], _, _, rfl, .nil, hab, hrest⟩
  | cons first left ih =>
    cases h with
    | cons hfirst hrest =>
      obtain ⟨left', b, right', rfl, hleft, hab, hright⟩ := ih hrest
      exact ⟨_ :: left', b, right', rfl, .cons hfirst hleft, hab, hright⟩

/-- Lists around related elements are related when what stands around them is. -/
theorem forall₂_join {R : α → β → Prop} {left right : List α} {left' right' : List β} {a : α}
    {b : β} (hleft : List.Forall₂ R left left') (hab : R a b)
    (hright : List.Forall₂ R right right') :
    List.Forall₂ R (left ++ a :: right) (left' ++ b :: right') :=
  List.rel_append hleft (.cons hab hright)

/-- Relations that follow one another do so along lists. -/
theorem forall₂_trans {R : α → β → Prop} {S : β → γ → Prop} {T : α → γ → Prop}
    (hRST : ∀ a b c, R a b → S b c → T a c) {as : List α} {bs : List β} {cs : List γ}
    (hR : List.Forall₂ R as bs) (hS : List.Forall₂ S bs cs) : List.Forall₂ T as cs := by
  induction hR generalizing cs with
  | nil =>
    cases hS
    exact .nil
  | cons hab _ ih =>
    cases hS with
    | cons hbc hrest => exact .cons (hRST _ _ _ hab hbc) (ih hrest)

/-! ## Computations along a list -/

/-- A computation along a list succeeds when it does so element by element. -/
theorem mapM_eq_ok {f : α → Except ε β} {list : List α} {out : List β} :
    list.mapM f = .ok out ↔ List.Forall₂ (fun a b => f a = .ok b) list out := by
  induction list generalizing out with
  | nil =>
    rw [List.mapM_nil, pure_eq_ok, List.forall₂_nil_left_iff]
    exact eq_comm
  | cons a rest ih =>
    rw [List.mapM_cons]
    constructor
    · intro h
      obtain ⟨b, hb, h⟩ := bind_eq_ok.mp h
      obtain ⟨others, hothers, hpure⟩ := bind_eq_ok.mp h
      cases hpure
      exact .cons hb (ih.mp hothers)
    · rintro (_ | ⟨hb, hothers⟩)
      apply bind_eq_ok.mpr
      exact ⟨_, hb, bind_eq_ok.mpr ⟨_, ih.mpr hothers, rfl⟩⟩

/-- A computation along a list fails with the fault of an element. -/
theorem exists_of_mapM_eq_error {f : α → Except ε β} {list : List α} {fault : ε}
    (h : list.mapM f = .error fault) : ∃ a ∈ list, f a = .error fault := by
  induction list with
  | nil => cases h
  | cons a rest ih =>
    rw [List.mapM_cons] at h
    rcases bind_eq_error.mp h with hfirst | ⟨b, -, h⟩
    · exact ⟨a, by simp, hfirst⟩
    · rcases bind_eq_error.mp h with hrest | ⟨_, -, hpure⟩
      · obtain ⟨other, hmem, hother⟩ := ih hrest
        exact ⟨other, by simp [hmem], hother⟩
      · exact absurd hpure pure_ne_error

/-- A list with an element of a kind has a first one. -/
theorem exists_first {p : α → Prop} {list : List α} (h : ∃ a ∈ list, p a) :
    ∃ before a after, list = before ++ a :: after ∧ (∀ b ∈ before, ¬ p b) ∧ p a := by
  induction list with
  | nil =>
    obtain ⟨a, hmem, -⟩ := h
    cases hmem
  | cons first rest ih =>
    by_cases hfirst : p first
    · exact ⟨[], first, rest, rfl, nofun, hfirst⟩
    · obtain ⟨a, hmem, ha⟩ := h
      have hrest : a ∈ rest := by
        rcases List.mem_cons.mp hmem with rfl | hmem
        · exact absurd ha hfirst
        · exact hmem
      obtain ⟨before, b, after, rfl, hbefore, hb⟩ := ih ⟨a, hrest, ha⟩
      exact ⟨first :: before, b, after, rfl, List.forall_mem_cons.mpr ⟨hfirst, hbefore⟩, hb⟩

/-- A computation along a list fails with the fault of the first element that has one. -/
theorem mapM_eq_error_of_first {f : α → Except ε β} {before after : List α} {a : α} {fault : ε}
    (hbefore : ∀ b ∈ before, ∃ out, f b = .ok out) (ha : f a = .error fault) :
    (before ++ a :: after).mapM f = .error fault := by
  induction before with
  | nil =>
    rw [List.nil_append, List.mapM_cons]
    exact bind_eq_error.mpr (.inl ha)
  | cons b rest ih =>
    obtain ⟨⟨out, hout⟩, hrest⟩ := List.forall_mem_cons.mp hbefore
    rw [List.cons_append, List.mapM_cons]
    exact bind_eq_error.mpr (.inr ⟨out, hout, bind_eq_error.mpr (.inl (ih hrest))⟩)

/-! ## Lists without a repeated key -/

theorem nodup_map_left {key : α → β} {left right : List α}
    (h : ((left ++ right).map key).Nodup) : (left.map key).Nodup := by
  rw [List.map_append] at h
  exact (List.nodup_append.mp h).1

/-- Erasing repetitions leaves none. -/
theorem nodup_eraseDups [BEq α] [LawfulBEq α] (list : List α) : list.eraseDups.Nodup := by
  induction hlength : list.length using Nat.strongRecOn generalizing list with
  | ind n ih =>
    cases list with
    | nil => simp
    | cons a rest =>
      have hrest : (rest.filter fun b => !b == a).length < n := by
        have := List.length_filter_le (fun b => !b == a) rest
        rw [← hlength, List.length_cons]
        omega
      rw [List.eraseDups_cons, List.nodup_cons, List.mem_eraseDups]
      exact ⟨by simp, ih _ hrest _ rfl⟩

/-- One element more repeats no key when its own key is new. -/
theorem nodup_map_concat {key : α → β} {list : List α} {a : α} :
    ((list ++ [a]).map key).Nodup ↔ (list.map key).Nodup ∧ key a ∉ list.map key := by
  rw [List.map_append, List.map_singleton, ← List.concat_eq_append, List.nodup_concat, and_comm]

/-- Where no key repeats, each element is the first one of its key. -/
theorem find?_of_nodup_map [BEq β] [LawfulBEq β] {key : α → β} {list : List α}
    (h : (list.map key).Nodup) {a : α} (hmem : a ∈ list) :
    (list.find? fun b => key b == key a) = some a := by
  induction list with
  | nil => cases hmem
  | cons first rest ih =>
    obtain ⟨hfirst, hrest⟩ := List.nodup_cons.mp h
    rcases List.mem_cons.mp hmem with rfl | hmem
    · rw [List.find?_cons, beq_self_eq_true]
    · -- the elements in front of `a` have other keys, so they are passed over
      have hne : (key first == key a) = false := by
        rw [beq_eq_false_iff_ne]
        intro heq
        exact hfirst (heq ▸ List.mem_map_of_mem hmem)
      rw [List.find?_cons, hne]
      exact ih hrest hmem

/-- Where no key repeats, the order of the elements does not matter for finding one by key. -/
theorem find?_perm [BEq β] [LawfulBEq β] {key : α → β} {list other : List α}
    (h : list.Perm other) (hnodup : (list.map key).Nodup) (k : β) :
    (list.find? fun a => key a == k) = other.find? fun a => key a == k := by
  have hother : (other.map key).Nodup := (h.map key).nodup_iff.mp hnodup
  cases hfind : list.find? fun a => key a == k with
  | some a =>
    obtain rfl : key a = k := by simpa using List.find?_some hfind
    exact (find?_of_nodup_map hother (h.mem_iff.mp (List.mem_of_find?_eq_some hfind))).symm
  | none =>
    rw [List.find?_eq_none] at hfind
    exact (List.find?_eq_none.mpr fun a hmem => hfind a (h.mem_iff.mpr hmem)).symm

/-! ## Computations that go the same way -/

/-- Both computations fail, or both succeed with related results. -/
inductive Alike (R : α → β → Prop) : Except ε α → Except ε β → Prop where
  | ok {a : α} {b : β} (h : R a b) : Alike R (.ok a) (.ok b)
  | error (fault fault' : ε) : Alike R (.error fault) (.error fault')

namespace Alike

variable {δ : Type} {R : α → β → Prop} {S : γ → δ → Prop}
variable {x : Except ε α} {y : Except ε β}

theorem bind {f : α → Except ε γ} {g : β → Except ε δ} (hx : Alike R x y)
    (hf : ∀ a b, R a b → Alike S (f a) (g b)) : Alike S (x >>= f) (y >>= g) := by
  cases hx with
  | ok h => exact hf _ _ h
  | error fault fault' => exact .error fault fault'

theorem map {f : α → γ} {g : β → δ} (hx : Alike R x y) (hf : ∀ a b, R a b → S (f a) (g b)) :
    Alike S (x.map f) (y.map g) := by
  cases hx with
  | ok h => exact .ok (hf _ _ h)
  | error fault fault' => exact .error fault fault'

/-- Two checks go the same way when one passes just where the other does. -/
theorem of_ok_iff {x y : Except ε Unit} (h : x = .ok () ↔ y = .ok ()) :
    Alike Eq x y := by
  cases x with
  | ok a =>
    rw [h.mp rfl]
    exact .ok rfl
  | error fault =>
    cases y with
    | ok b => exact absurd (h.mpr rfl) nofun
    | error fault' => exact .error fault fault'

theorem eq_ok {x y : Except ε α} (h : Alike Eq x y) {a : α} : x = .ok a ↔ y = .ok a := by
  cases h with
  | ok h => rw [h]
  | error fault fault' => simp

end Alike

end FitProfile.Outcome

namespace FitProfile.Reported

variable {α β : Type}

theorem outcome_bind_eq_ok {x : Reported α} {f : α → Reported β} {b : β} :
    (x >>= f).outcome = .ok b ↔ ∃ a, x.outcome = .ok a ∧ (f a).outcome = .ok b := by
  obtain ⟨notes, outcome⟩ := x
  cases outcome <;> simp

/-- The warnings of a chain are those of its steps, as far as it gets. -/
theorem warnings_bind {x : Reported α} {f : α → Reported β} {a : α} (h : x.outcome = .ok a) :
    (x >>= f).warnings = x.warnings ++ (f a).warnings := by
  obtain ⟨notes, outcome⟩ := x
  obtain rfl : outcome = .ok a := h
  simp only [bind_ok, warnings, List.filterMap_append]

end FitProfile.Reported
