import FitProfile.Proofs.Linking.Messages
/-!
# FitProfile.Proofs.Linking.Grouping -- references grouped by the fields they name

The references of a subfield are read pair by pair, and each value joins the condition on its
reference field, or opens one at the end. `Condition.Groups` says what comes of it without
regard to the order of work: one condition for each name, in the order in which the names first
occur, with the values of that name in their order. A single value keeps conditions grouped
(`Groups.concat`), and so do all values of a row.

A value selects by the number of its reference field and by the number it stands for. No two
values of a main field select alike, be it in one subfield or in two, so no value of a reference
field selects two of the variants.
-/

namespace FitProfile

open FitProfile.Draft FitProfile.Outcome

/-- One element more is kept at the end, if it is new. -/
theorem eraseDups_concat {α : Type} [DecidableEq α] (list : List α) (a : α) :
    (list ++ [a]).eraseDups = list.eraseDups ++ if a ∈ list then [] else [a] := by
  rw [List.eraseDups_append, List.removeAll]
  by_cases hmem : a ∈ list
  · rw [if_pos hmem, List.filter_cons_of_neg (by simpa using hmem)]
    rfl
  · rw [if_neg hmem, List.filter_cons_of_pos (by simpa using hmem)]
    rfl

/-! ## Conditions that group selections -/

namespace Condition

/-- Conditions that group selections by name: one for each name, in the order in which the names
first occur, with the selections of that name in their order. -/
structure Groups (selections : List Selection) (conditions : List Condition) : Prop where
  names : conditions.map Condition.name = (selections.map Selection.name).eraseDups
  members : ∀ condition ∈ conditions,
    condition.selections = selections.filter fun s => s.name == condition.name

namespace Groups

variable {selections : List Selection} {conditions : List Condition} {condition : Condition}

theorem nil : Groups [] [] := ⟨rfl, by simp⟩

theorem nodup_names (h : Groups selections conditions) :
    (conditions.map Condition.name).Nodup := by
  rw [h.names]
  exact nodup_eraseDups _

/-- A condition has the name and the number of one of the selections. -/
theorem exists_selection (h : Groups selections conditions) (hmem : condition ∈ conditions) :
    ∃ s ∈ selections, s.name = condition.name ∧ s.number = condition.number := by
  have hname : condition.name ∈ conditions.map Condition.name := List.mem_map_of_mem hmem
  rw [h.names, List.mem_eraseDups] at hname
  obtain ⟨s, hs, hsame⟩ := List.mem_map.mp hname
  have hin : s ∈ condition.selections := by
    rw [h.members condition hmem]
    exact List.mem_filter.mpr ⟨hs, by simpa using hsame⟩
  obtain ⟨v, -, rfl⟩ := List.mem_map.mp hin
  exact ⟨_, hs, rfl, rfl⟩

/-- A condition of another name does not notice one selection more. -/
theorem members_concat (h : Groups selections conditions) (hmem : condition ∈ conditions)
    {s : Selection} (hname : condition.name ≠ s.name) :
    condition.selections = (selections ++ [s]).filter fun t => t.name == condition.name := by
  have hother : (s.name == condition.name) = false := beq_eq_false_iff_ne.mpr hname.symm
  rw [h.members condition hmem, List.filter_append, List.filter_cons_of_neg (by simp [hother]),
    List.filter_nil, List.append_nil]

end Groups

end Condition

namespace LinkContext

open Condition

/-- All that adding a value can do: it joins the condition of its name, or opens a new one. -/
theorem addValue?_cases {name text : String} {number value : Int}
    {conditions out : List Condition}
    (h : addValue? name number text value conditions = some out) :
    (∃ before condition after, conditions = before ++ condition :: after ∧
        condition.name = name ∧
        out = before ++ { condition with values := condition.values ++ [(text, value)] } :: after) ∨
      (name ∉ conditions.map Condition.name ∧
        out = conditions ++ [⟨name, number, [(text, value)]⟩]) := by
  induction conditions generalizing out with
  | nil =>
    cases h
    exact .inr ⟨by simp, rfl⟩
  | cons first rest ih =>
    unfold addValue? at h
    split at h
    next hname =>
      split at h
      next => cases h
      next =>
        cases h
        exact .inl ⟨[], first, rest, rfl, hname, rfl⟩
    next hname =>
      obtain ⟨tail, htail, rfl⟩ := Option.map_eq_some_iff.mp h
      rcases ih htail with ⟨before, condition, after, rfl, hfound, rfl⟩ | ⟨hnew, rfl⟩
      · exact .inl ⟨first :: before, condition, after, rfl, hfound, rfl⟩
      · refine .inr ⟨?_, rfl⟩
        rw [List.map_cons, List.mem_cons, not_or]
        exact ⟨fun heq => hname heq.symm, hnew⟩

end LinkContext

namespace Condition.Groups

variable {selections : List Selection} {conditions out : List Condition} {s : Selection}

/-- The names of one selection more: a new name comes last. -/
theorem names_concat (h : Groups selections conditions) (s : Selection) :
    ((selections ++ [s]).map Selection.name).eraseDups = conditions.map Condition.name ++
      if s.name ∈ conditions.map Condition.name then [] else [s.name] := by
  rw [List.map_append, List.map_singleton, eraseDups_concat, h.names]
  simp only [List.mem_eraseDups]

/-- A selection of a known name joins the condition of that name. -/
theorem join {before after : List Condition} {condition : Condition}
    (h : Groups selections (before ++ condition :: after)) (hname : condition.name = s.name)
    (hnumber : ∀ t ∈ selections, t.name = s.name → t.number = s.number) :
    Groups (selections ++ [s]) (before ++
      { condition with values := condition.values ++ [(s.text, s.value)] } :: after) := by
  have hcondition : condition ∈ before ++ condition :: after := by simp
  have hapart := h.nodup_names
  rw [List.map_append, List.map_cons, List.nodup_middle, List.nodup_cons, ← List.map_append]
    at hapart
  refine ⟨?_, ?_⟩
  · rw [h.names_concat, if_pos (hname ▸ List.mem_map_of_mem hcondition)]
    simp
  · intro other hother
    rw [List.mem_append, List.mem_cons, or_left_comm, ← List.mem_append] at hother
    rcases hother with rfl | hother
    · obtain ⟨t, ht, htname, htnumber⟩ := h.exists_selection hcondition
      have hsame := hnumber t ht (htname.trans hname)
      have hgrown : selections.filter (fun t => t.name == condition.name) ++ [s] =
          (selections ++ [s]).filter fun t => t.name == condition.name := by
        rw [List.filter_append, List.filter_cons_of_pos (by simp [hname]), List.filter_nil]
      rw [← hgrown, ← h.members condition hcondition]
      simp only [Condition.selections, List.map_append, List.map_cons, List.map_nil]
      rw [hname, ← htnumber, hsame]
    · refine h.members_concat ?_ ?_
      · simp only [List.mem_append, List.mem_cons] at hother ⊢
        tauto
      · rw [← hname]
        intro heq
        exact hapart.1 (heq ▸ List.mem_map_of_mem hother)

/-- A selection of a new name opens a condition at the end, with its value alone. -/
theorem opened (h : Groups selections conditions)
    (hnew : s.name ∉ conditions.map Condition.name) :
    Groups (selections ++ [s]) (conditions ++ [⟨s.name, s.number, [(s.text, s.value)]⟩]) := by
  refine ⟨?_, ?_⟩
  · rw [h.names_concat, if_neg hnew]
    simp
  · intro other hother
    rcases List.mem_append.mp hother with hother | hother
    · refine h.members_concat hother ?_
      intro heq
      exact hnew (heq ▸ List.mem_map_of_mem hother)
    · have hfresh : s.name ∉ selections.map Selection.name := by
        rwa [h.names, List.mem_eraseDups] at hnew
      rw [List.mem_singleton.mp hother, List.filter_append, List.filter_eq_nil_iff.mpr]
      · simp [Condition.selections]
      · intro t ht
        simpa using fun heq => hfresh (List.mem_map.mpr ⟨t, ht, heq⟩)

/-- One selection more, whose name has one number throughout, keeps conditions grouped. -/
theorem concat (h : Groups selections conditions)
    (hnumber : ∀ t ∈ selections, t.name = s.name → t.number = s.number)
    (hadd : LinkContext.addValue? s.name s.number s.text s.value conditions = some out) :
    Groups (selections ++ [s]) out := by
  rcases LinkContext.addValue?_cases hadd with
    ⟨before, condition, after, rfl, hname, rfl⟩ | ⟨hnew, rfl⟩
  · exact h.join hname hnumber
  · exact h.opened hnew

end Condition.Groups

namespace LinkContext

open Condition

variable {c : LinkContext} {sub : FieldRow} {conditions : List Condition}

/-- Selections that name one main field have one number. -/
theorem NumbersSelections.number_eq {selections : List Selection}
    (h : c.NumbersSelections selections) {s t : Selection} (hs : s ∈ selections)
    (ht : t ∈ selections) (hname : t.name = s.name) : t.number = s.number := by
  obtain ⟨target, hfound, hnumber⟩ := h s hs
  obtain ⟨other, hother, hnumber'⟩ := h t ht
  rw [hname, hfound] at hother
  cases hother
  rw [hnumber, hnumber']

/-- All values of a row, one after the other, keep conditions grouped. -/
theorem groups_of_addAll? {selections more : List Selection} {out : List Condition}
    (hadd : addAll? conditions more = some out) (h : Groups selections conditions)
    (hnumbers : c.NumbersSelections (selections ++ more)) : Groups (selections ++ more) out := by
  induction more generalizing selections conditions with
  | nil =>
    cases hadd
    rwa [List.append_nil]
  | cons s rest ih =>
    obtain ⟨next, hnext, hrest⟩ := Option.bind_eq_some_iff.mp hadd
    have hsame : ∀ t ∈ selections, t.name = s.name → t.number = s.number := by
      intro t ht hname
      exact hnumbers.number_eq (by simp) (by simp [ht]) hname
    have hsplit : selections ++ s :: rest = selections ++ [s] ++ rest := by simp
    rw [hsplit] at hnumbers ⊢
    exact ih hrest (h.concat hsame hnext) hnumbers

/-! ## The conditions of a subfield -/

/-- Conditions that group the references of a row: one for each name, in the order in which the
names first occur, with the texts that stand beside the name in their order, each with what it is
read as for the main field of that name. Laid out flat again, they are the references of the row. -/
structure GroupsReferences (c : LinkContext) (sub : FieldRow) (conditions : List Condition) :
    Prop where
  names : conditions.map Condition.name = (sub.references.map Prod.fst).eraseDups
  values : ∀ condition ∈ conditions, ∃ target, c.main? condition.name = some target ∧
    condition.number = target.number ∧
    List.Forall₂ (fun reference value => value.1 = reference.2 ∧
        c.referenceValue sub target reference.2 = .ok value.2)
      (sub.references.filter fun reference => reference.1 == condition.name) condition.values
  pairs : ((flatten conditions).map fun s => (s.name, s.text)).Perm sub.references

/-- A reference and its selection have one name and one text, and the value is what the text is read
as for the main field of that name. -/
def ReadsReference (c : LinkContext) (sub : FieldRow) (reference : String × String)
    (s : Selection) : Prop :=
  s.name = reference.1 ∧ s.text = reference.2 ∧
    ∀ target, c.main? reference.1 = some target →
      c.referenceValue sub target reference.2 = .ok s.value

theorem readsReference_of_selection? {reference : String × String} {s : Selection}
    (h : c.selection? reference = some s) : c.ReadsReference sub reference s := by
  obtain ⟨target, m, hfound, hmeaning, hvalue, hname, -, htext⟩ := selection?_eq_some.mp h
  refine ⟨hname, htext, ?_⟩
  intro other hother
  rw [hfound] at hother
  cases hother
  exact referenceValue_eq_ok.mpr ⟨m, hmeaning, hvalue⟩

/-- The references of one name are those of the selections of that name. -/
theorem forall₂_values {references : List (String × String)} {selections : List Selection}
    (hread : List.Forall₂ (c.ReadsReference sub) references selections)
    (hgroups : Groups selections conditions) {condition : Condition} (hmem : condition ∈ conditions)
    {target : FieldRow} (hfound : c.main? condition.name = some target) :
    List.Forall₂ (fun reference value => value.1 = reference.2 ∧
        c.referenceValue sub target reference.2 = .ok value.2)
      (references.filter fun reference => reference.1 == condition.name) condition.values := by
  have hfilter := List.rel_filter (p := fun reference => reference.1 == condition.name)
    (q := fun s : Selection => s.name == condition.name)
    (by rintro reference s ⟨hname, -⟩; simp [hname]) hread
  rw [← hgroups.members condition hmem, Condition.selections, List.forall₂_map_right_iff]
    at hfilter
  have hnamed : ∀ reference ∈ references.filter fun reference =>
      reference.1 == condition.name, reference.1 = condition.name := by
    intro reference hreference
    simpa using (List.mem_filter.mp hreference).2
  refine ((List.forall₂_and_left _ _).mpr ⟨hnamed, hfilter⟩).imp ?_
  rintro reference value ⟨hnamed, -, htext, hvalue⟩
  exact ⟨htext, hvalue target (hnamed ▸ hfound)⟩

/-- The conditions of a linked subfield group the references of its row. -/
theorem groupsReferences_of_linkConditions
    (h : c.linkConditions sub [] sub.references = .ok conditions) :
    c.GroupsReferences sub conditions := by
  obtain ⟨selections, hall, hadd⟩ := linkConditions_eq_ok.mp h
  have hnumbers := numbersSelections_of_forall₂ hall
  have hgroups : Groups selections conditions := groups_of_addAll? hadd .nil hnumbers
  have hread : List.Forall₂ (c.ReadsReference sub) sub.references selections :=
    hall.imp fun _ _ hs => readsReference_of_selection? hs.1
  have hpairs : List.Forall₂ (· = ·) (selections.map fun s => (s.name, s.text))
      sub.references := by
    rw [List.forall₂_map_left_iff]
    exact hread.flip.imp fun _ _ hs => Prod.ext hs.1 hs.2.1
  rw [List.forall₂_eq_eq_eq] at hpairs
  refine ⟨?_, ?_, ?_⟩
  · rw [hgroups.names, ← hpairs, List.map_map]
    rfl
  · intro condition hmem
    obtain ⟨s, hs, hname, hnumber⟩ := hgroups.exists_selection hmem
    obtain ⟨target, hfound, htarget⟩ := hnumbers s hs
    rw [hname] at hfound
    exact ⟨target, hfound, hnumber.symm.trans htarget, forall₂_values hread hgroups hmem hfound⟩
  · obtain ⟨-, -, hperm⟩ := addAll?_eq_some hadd (by simp [Grouped]) (by simp [NumbersConditions])
      hnumbers
    rw [← hpairs]
    exact hperm.map _

/-! ## The variants of a field -/

/-- What conditions select by, value by value: the number of the reference field, and the number
that the value stands for. -/
def selectors (conditions : List Condition) : List (Int × Int) :=
  (flatten conditions).map fun s => (s.number, s.value)

/-- Variants that group the references of the subfields of a block. No two values select alike, so
a value of a reference field selects at most one of the variants. -/
structure GroupsSubfields (c : LinkContext) (block : FieldBlock)
    (variants : List (Field × List Condition)) : Prop where
  conditions : List.Forall₂ (fun sub variant =>
    variant.1.name = sub.name ∧ c.GroupsReferences sub variant.2) block.subfields variants
  distinct : (variants.flatMap fun variant => selectors variant.2).Nodup
  exclusive : variants.Pairwise fun v w => ∀ selector ∈ selectors v.2, selector ∉ selectors w.2

/-- A block with subfields links to a field whose variants group their references. -/
theorem groupsSubfields_of_linkBlock {block : FieldBlock} {field : Field}
    (h : c.linkBlock block = .ok field) (hseveral : block.subfields ≠ []) :
    ∃ standard variants, field = .dynamic (.single standard) variants ∧
      standard.name = block.main.name ∧ c.GroupsSubfields block variants := by
  obtain ⟨-, standard, hstandard, ⟨halone, -⟩ | ⟨-, linked, hlinked, hclaims, rfl⟩⟩ :=
    linkBlock_eq_ok.mp h
  · exact absurd halone hseveral
  · obtain ⟨hnodup, -⟩ := checkClaims_eq_ok.mp hclaims
    have hdistinct : ((linked.map fun v => (Field.single v.field, v.conditions)).flatMap
        fun variant => selectors variant.2).Nodup := by
      rw [List.map_flatMap] at hnodup
      simp only [Variant.claims_selectors] at hnodup
      rwa [List.flatMap_map]
    refine ⟨standard, _, rfl, (linkSingle_links hstandard).name, ?_, hdistinct, ?_⟩
    · rw [List.forall₂_map_right_iff]
      refine (linkSubfields_eq_ok.mp hlinked).imp ?_
      intro sub variant hvariant
      have hlinks := linkSubfield_eq_ok hvariant
      exact ⟨hlinks.field.name, groupsReferences_of_linkConditions hlinks.conditions⟩
    · refine (List.nodup_flatMap.mp hdistinct).2.imp ?_
      intro v w hapart selector hv hw
      exact hapart hv hw

end LinkContext

end FitProfile
