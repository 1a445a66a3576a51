import FitProfile.Order.Insertion
/-!
# FitProfile.Proofs.Sorting -- what sorting by insertion brings about

Sorting puts a list in order and keeps its elements. It is stable: where all elements of
a class are equal in the order, the first of the class stays the first.
-/

namespace FitProfile.Order

variable {α : Type} {le : α → α → Bool}

theorem mem_sortBy {list : List α} {a : α} : a ∈ sortBy le list ↔ a ∈ list :=
  (sortBy_perm le list).mem_iff

theorem sortBy_cons (a : α) (rest : List α) :
    sortBy le (a :: rest) = insertBy le a (sortBy le rest) := rfl

/-- Insertion keeps a list in order. -/
theorem pairwise_insertBy (total : ∀ a b, le a b = true ∨ le b a = true)
    (trans : ∀ a b c, le a b = true → le b c = true → le a c = true) (a : α) {list : List α}
    (h : list.Pairwise fun a b => le a b = true) :
    (insertBy le a list).Pairwise fun a b => le a b = true := by
  induction list with
  | nil => simp [insertBy]
  | cons b rest ih =>
    obtain ⟨hb, hrest⟩ := List.pairwise_cons.mp h
    unfold insertBy
    split
    next hab =>
      refine List.pairwise_cons.mpr ⟨?_, h⟩
      intro c hc
      rcases List.mem_cons.mp hc with rfl | hc
      · exact hab
      · exact trans a b c hab (hb c hc)
    next hab =>
      refine List.pairwise_cons.mpr ⟨?_, ih hrest⟩
      intro c hc
      -- behind `b` stand the element that was inserted and those that stood there before
      rcases List.mem_cons.mp ((insertBy_perm le a rest).mem_iff.mp hc) with rfl | hc
      · exact (total c b).resolve_left hab
      · exact hb c hc

/-- Sorting puts a list in order. -/
theorem pairwise_sortBy (total : ∀ a b, le a b = true ∨ le b a = true)
    (trans : ∀ a b c, le a b = true → le b c = true → le a c = true) (list : List α) :
    (sortBy le list).Pairwise fun a b => le a b = true := by
  induction list with
  | nil => exact List.Pairwise.nil
  | cons a rest ih => exact pairwise_insertBy total trans a ih

/-- Insertion puts an element in front of the elements of its own class. -/
theorem find?_insertBy {p : α → Bool} (class_le : ∀ a b, p a = true → p b = true → le a b = true)
    (a : α) (list : List α) :
    (insertBy le a list).find? p = (a :: list).find? p := by
  induction list with
  | nil => rfl
  | cons b rest ih =>
    unfold insertBy
    split
    · rfl
    next hab =>
      rw [List.find?_cons, ih, List.find?_cons, List.find?_cons, List.find?_cons]
      -- `b` stays in front of `a`, so the two are not of the same class
      cases ha : p a <;> cases hb : p b
      · rfl
      · rfl
      · rfl
      · exact absurd (class_le a b ha hb) hab

/-- Sorting keeps the first element of a class. -/
theorem find?_sortBy {p : α → Bool} (class_le : ∀ a b, p a = true → p b = true → le a b = true)
    (list : List α) : (sortBy le list).find? p = list.find? p := by
  induction list with
  | nil => rfl
  | cons a rest ih =>
    rw [sortBy_cons, find?_insertBy class_le, List.find?_cons, List.find?_cons, ih]

/-- A list in order is left as it is. -/
theorem sortBy_of_pairwise {list : List α} (h : list.Pairwise fun a b => le a b = true) :
    sortBy le list = list := by
  induction list with
  | nil => rfl
  | cons a rest ih =>
    obtain ⟨ha, hrest⟩ := List.pairwise_cons.mp h
    rw [sortBy_cons, ih hrest]
    cases rest with
    | nil => rfl
    | cons b rest =>
      unfold insertBy
      rw [if_pos (ha b (List.mem_cons_self ..))]

/-- Sorting by a number that no two elements share puts the elements in strictly ascending
order. -/
theorem pairwise_lt_sortBy_key (key : α → Int) {list : List α} (h : (list.map key).Nodup) :
    (sortBy (fun a b => decide (key a ≤ key b)) list).Pairwise fun a b => key a < key b := by
  have hle : (sortBy (fun a b => decide (key a ≤ key b)) list).Pairwise
      fun a b => decide (key a ≤ key b) = true := by
    refine pairwise_sortBy ?_ ?_ list
    · intro a b
      simp only [decide_eq_true_eq]
      omega
    · intro a b c
      simp only [decide_eq_true_eq]
      omega
  have hne : (sortBy (fun a b => decide (key a ≤ key b)) list).Pairwise
      fun a b => key a ≠ key b :=
    List.pairwise_map.mp (((sortBy_perm _ list).map key).nodup_iff.mpr h)
  refine (hle.and hne).imp ?_
  intro a b hab
  have := of_decide_eq_true hab.1
  omega

/-- Sorting by a number that no two elements share does not depend on the order before. -/
theorem sortBy_key_perm (key : α → Int) {list other : List α} (h : list.Perm other)
    (hnodup : (list.map key).Nodup) :
    sortBy (fun a b => decide (key a ≤ key b)) list =
      sortBy (fun a b => decide (key a ≤ key b)) other := by
  have hother : (other.map key).Nodup := (h.map key).nodup_iff.mp hnodup
  have hperm : (sortBy (fun a b => decide (key a ≤ key b)) list).Perm
      (sortBy (fun a b => decide (key a ≤ key b)) other) :=
    (sortBy_perm _ list).trans (h.trans (sortBy_perm _ other).symm)
  refine hperm.eq_of_pairwise (fun a b _ _ hab hba => ?_) (pairwise_lt_sortBy_key key hnodup)
    (pairwise_lt_sortBy_key key hother)
  exact absurd hab (Int.lt_asymm hba)

/-- Sorting puts the elements of a list that is in order back into that order, where no two of
them are equal in the order. -/
theorem sortBy_eq_of_perm (total : ∀ a b, le a b = true ∨ le b a = true)
    (trans : ∀ a b c, le a b = true → le b c = true → le a c = true) {list sorted : List α}
    (antisymm : ∀ a ∈ sorted, ∀ b ∈ sorted, le a b = true → le b a = true → a = b)
    (h : list.Perm sorted) (hsorted : sorted.Pairwise fun a b => le a b = true) :
    sortBy le list = sorted := by
  have hperm : (sortBy le list).Perm sorted := (sortBy_perm le list).trans h
  refine hperm.eq_of_pairwise ?_ (pairwise_sortBy total trans list) hsorted
  intro a b ha hb
  exact antisymm a (hperm.mem_iff.mp ha) b hb

/-- Taking an element out of a list takes it out of the sorted list. -/
theorem exists_sortBy_of_perm_cons (total : ∀ a b, le a b = true ∨ le b a = true)
    (trans : ∀ a b c, le a b = true → le b c = true → le a c = true) {list rest : List α} {a : α}
    (antisymm : ∀ b ∈ list, ∀ c ∈ list, le b c = true → le c b = true → b = c)
    (h : list.Perm (a :: rest)) :
    ∃ before after, sortBy le list = before ++ a :: after ∧ sortBy le rest = before ++ after := by
  obtain ⟨before, after, hsplit⟩ :=
    List.append_of_mem (mem_sortBy.mpr (h.mem_iff.mpr List.mem_cons_self))
  have hperm : list.Perm (before ++ a :: after) := hsplit ▸ (sortBy_perm le list).symm
  have hrest : rest.Perm (before ++ after) :=
    (h.symm.trans (hperm.trans List.perm_middle)).cons_inv
  have hsub : (before ++ after).Sublist (before ++ a :: after) :=
    (List.Sublist.refl before).append (List.sublist_cons_self a after)
  have hsorted : (before ++ a :: after).Pairwise fun a b => le a b = true :=
    hsplit ▸ pairwise_sortBy total trans list
  refine ⟨before, after, hsplit, sortBy_eq_of_perm total trans ?_ hrest (hsorted.sublist hsub)⟩
  intro b hb c hc
  exact antisymm b (hperm.mem_iff.mpr (hsub.mem hb)) c (hperm.mem_iff.mpr (hsub.mem hc))

/-- Elements that ascend by a number are what they are sorted to in whatever order they stand. -/
theorem sortBy_key_eq_of_perm (key : α → Int) {list other : List α} (h : other.Perm list)
    (hlist : list.Pairwise fun a b => key a < key b) :
    sortBy (fun a b => decide (key a ≤ key b)) other = list := by
  have hnodup : (list.map key).Nodup :=
    List.pairwise_map.mpr (hlist.imp fun hab => Int.ne_of_lt hab)
  rw [← sortBy_key_perm key h.symm hnodup]
  refine sortBy_of_pairwise (hlist.imp ?_)
  intro a b hab
  exact decide_eq_true (Int.le_of_lt hab)

/-- Where no number repeats, an element that is taken out of a list or replaced by one of its
number is taken out of the sorted list or replaced in it. -/
theorem exists_sortBy_key_append (key : α → Int) {left right : List α} {a : α}
    (h : ((left ++ a :: right).map key).Nodup) :
    ∃ before after, (before ++ after).Perm (left ++ right) ∧
      sortBy (fun a b => decide (key a ≤ key b)) (left ++ right) = before ++ after ∧
      ∀ b, key b = key a →
        sortBy (fun a b => decide (key a ≤ key b)) (left ++ b :: right) = before ++ b :: after := by
  have hperm := sortBy_perm (fun a b => decide (key a ≤ key b)) (left ++ a :: right)
  obtain ⟨before, after, hsplit⟩ :=
    List.append_of_mem (hperm.mem_iff.mpr (List.mem_append_right left List.mem_cons_self))
  have hlt := pairwise_lt_sortBy_key key h
  rw [hsplit] at hperm hlt
  have hrest : (before ++ after).Perm (left ++ right) :=
    (List.perm_middle.symm.trans (hperm.trans List.perm_middle)).cons_inv
  refine ⟨before, after, hrest, sortBy_key_eq_of_perm key hrest.symm (hlt.sublist ?_), ?_⟩
  · exact (List.Sublist.refl before).append (List.sublist_cons_self a after)
  · intro b hb
    have hmoved : (left ++ b :: right).Perm (before ++ b :: after) :=
      List.perm_middle.trans ((hrest.symm.cons b).trans List.perm_middle.symm)
    refine sortBy_key_eq_of_perm key hmoved ?_
    -- only the numbers count, and that of `b` is the one of `a`
    rw [← List.pairwise_map (f := key) (R := (· < ·))] at hlt ⊢
    rw [List.map_append, List.map_cons, hb, ← List.map_cons, ← List.map_append]
    exact hlt

/-! ## Texts in order -/

theorem text_total (a b : String) : decide (a ≤ b) = true ∨ decide (b ≤ a) = true := by
  simpa using String.le_total a b

theorem text_trans (a b c : String) :
    decide (a ≤ b) = true → decide (b ≤ c) = true → decide (a ≤ c) = true := by
  simpa using String.le_trans

theorem text_antisymm {a b : String} (hab : decide (a ≤ b) = true) (hba : decide (b ≤ a) = true) :
    a = b := String.le_antisymm (of_decide_eq_true hab) (of_decide_eq_true hba)

/-- Sorting texts none of which repeats puts them in strictly ascending order. -/
theorem pairwise_lt_sortBy_text {list : List String} (h : list.Nodup) :
    (sortBy (fun a b => decide (a ≤ b)) list).Pairwise (· < ·) := by
  have hle := pairwise_sortBy text_total text_trans list
  have hne : (sortBy (fun a b => decide (a ≤ b)) list).Pairwise (· ≠ ·) :=
    (sortBy_perm _ list).nodup_iff.mpr h
  refine (hle.and hne).imp ?_
  rintro a b ⟨hab, hdiffer⟩
  refine String.not_le.mp fun hba => hdiffer ?_
  exact text_antisymm hab (decide_eq_true hba)

/-! ## Sorting and changes of the elements -/

theorem insertBy_map {β : Type} {f : β → α} {le' : β → β → Bool}
    (hle : ∀ a b, le (f a) (f b) = le' a b) (a : β) (list : List β) :
    insertBy le (f a) (list.map f) = (insertBy le' a list).map f := by
  induction list with
  | nil => rfl
  | cons b rest ih =>
    simp only [List.map_cons, insertBy, hle]
    split
    · rfl
    · rw [ih, List.map_cons]

/-- Elements are sorted alike before and after a change that does not touch their order. -/
theorem sortBy_map {β : Type} {f : β → α} {le' : β → β → Bool}
    (hle : ∀ a b, le (f a) (f b) = le' a b) (list : List β) :
    sortBy le (list.map f) = (sortBy le' list).map f := by
  induction list with
  | nil => rfl
  | cons a rest ih => rw [List.map_cons, sortBy_cons, sortBy_cons, ih, insertBy_map hle]

/-- Sorting by a number that no two elements share puts the same elements in one order, also when
they are the same only up to a change that leaves their numbers. -/
theorem sortBy_key_map_perm (f : α → α) (key : α → Int) (hkey : ∀ a, key (f a) = key a)
    {list other : List α} (h : (list.map f).Perm (other.map f)) (hnodup : (list.map key).Nodup) :
    (sortBy (fun a b => decide (key a ≤ key b)) list).map f =
      (sortBy (fun a b => decide (key a ≤ key b)) other).map f := by
  have hsorted : ∀ elements : List α,
      sortBy (fun a b => decide (key a ≤ key b)) (elements.map f) =
        (sortBy (fun a b => decide (key a ≤ key b)) elements).map f := by
    intro elements
    refine sortBy_map (fun a b => ?_) elements
    rw [hkey, hkey]
  have hkeys : key ∘ f = key := funext hkey
  rw [← hsorted, ← hsorted]
  refine sortBy_key_perm key h ?_
  rw [List.map_map, hkeys]
  exact hnodup

end FitProfile.Order
