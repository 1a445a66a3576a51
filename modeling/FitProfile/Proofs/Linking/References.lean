import FitProfile.Proofs.Linking.Slices
/-!
# FitProfile.Proofs.Linking.References -- references grouped into conditions

The references of a subfield are read pair by pair and gathered into one condition for
each reference field. `Selection` is a reference that has been read; a list of conditions
flattens to selections again. Gathering succeeds when no selection repeats a value of its
reference field, and flattening what was gathered gives back the selections, if in
another order.
-/

namespace FitProfile

open FitProfile.Draft FitProfile.Outcome

/-- A value of a reference field that selects a subfield: the name and the number of the
field, and the value as text and as a number. -/
structure Selection where
  name : String
  number : Int
  text : String
  value : Int
  deriving DecidableEq, Repr

/-! ## Conditions and their selections -/

namespace Condition

/-- The selections of a condition, value by value. -/
def selections (condition : Condition) : List Selection :=
  condition.values.map fun v => ⟨condition.name, condition.number, v.1, v.2⟩

/-- The selections of several conditions. -/
def flatten (conditions : List Condition) : List Selection :=
  conditions.flatMap selections

/-- Conditions as gathering leaves them: one for each name, none of them empty. -/
def Grouped (conditions : List Condition) : Prop :=
  (conditions.map Condition.name).Nodup ∧ ∀ condition ∈ conditions, condition.values ≠ []

theorem Grouped.tail {condition : Condition} {rest : List Condition}
    (h : Grouped (condition :: rest)) : Grouped rest :=
  ⟨(List.nodup_cons.mp h.1).2, fun other hother => h.2 other (by simp [hother])⟩

theorem flatten_cons (condition : Condition) (rest : List Condition) :
    flatten (condition :: rest) = condition.selections ++ flatten rest := rfl

theorem mem_flatten {conditions : List Condition} {s : Selection} :
    s ∈ flatten conditions ↔ ∃ condition ∈ conditions, condition.name = s.name ∧
      condition.number = s.number ∧ (s.text, s.value) ∈ condition.values := by
  simp only [flatten, selections, List.mem_flatMap, List.mem_map]
  constructor
  · rintro ⟨condition, hmem, v, hv, rfl⟩
    exact ⟨condition, hmem, rfl, rfl, hv⟩
  · rintro ⟨condition, hmem, hname, hnumber, hv⟩
    exact ⟨condition, hmem, (s.text, s.value), hv, by rw [hname, hnumber]⟩

theorem name_mem_of_mem_flatten {conditions : List Condition} {s : Selection}
    (h : s ∈ flatten conditions) : s.name ∈ conditions.map Condition.name := by
  obtain ⟨condition, hmem, hname, -⟩ := mem_flatten.mp h
  exact hname ▸ List.mem_map_of_mem hmem

theorem selections_inj {a b : Condition} (hne : a.values ≠ [])
    (h : a.selections = b.selections) : a = b := by
  obtain ⟨name, number, values⟩ := a
  obtain ⟨name', number', values'⟩ := b
  have hvalues : values = values' := by
    have := congrArg (List.map fun s => (s.text, s.value)) h
    simpa [selections, Function.comp_def] using this
  subst hvalues
  -- the name and the number show in the selections as soon as there is a value
  obtain ⟨v, hv⟩ := List.exists_mem_of_ne_nil _ hne
  have hmem : (⟨name, number, v.1, v.2⟩ : Selection) ∈
      selections ⟨name', number', values⟩ := h ▸ List.mem_map_of_mem hv
  obtain ⟨w, -, heq⟩ := List.mem_map.mp hmem
  obtain ⟨rfl, rfl, -⟩ := Selection.mk.inj heq
  rfl

/-- The selections of the first of grouped conditions are those of its name. -/
theorem filter_flatten {condition : Condition} {rest : List Condition}
    (h : Grouped (condition :: rest)) :
    (flatten (condition :: rest)).filter (fun s => s.name == condition.name) =
        condition.selections ∧
      (flatten (condition :: rest)).filter (fun s => s.name != condition.name) = flatten rest := by
  have hfirst : ∀ s ∈ condition.selections, s.name = condition.name := by
    intro s hs
    obtain ⟨v, -, rfl⟩ := List.mem_map.mp hs
    rfl
  have hlater : ∀ s ∈ flatten rest, s.name ≠ condition.name := by
    intro s hs heq
    exact (List.nodup_cons.mp h.1).1 (heq ▸ name_mem_of_mem_flatten hs)
  rw [flatten_cons, List.filter_append, List.filter_append]
  refine ⟨?_, ?_⟩
  · rw [List.filter_eq_self.mpr, List.filter_eq_nil_iff.mpr, List.append_nil]
    · intro s hs
      simpa using hlater s hs
    · intro s hs
      simpa using hfirst s hs
  · rw [List.filter_eq_nil_iff.mpr, List.filter_eq_self.mpr, List.nil_append]
    · intro s hs
      simpa using hlater s hs
    · intro s hs
      simpa using hfirst s hs

theorem exists_flatten_cons {condition : Condition} {rest : List Condition}
    (h : Grouped (condition :: rest)) :
    ∃ s tail, flatten (condition :: rest) = s :: tail ∧ s.name = condition.name := by
  obtain ⟨v, values, hvalues⟩ := List.exists_cons_of_ne_nil (h.2 condition (by simp))
  have hflat : flatten (condition :: rest) =
      ⟨condition.name, condition.number, v.1, v.2⟩ ::
        (values.map (fun v => ⟨condition.name, condition.number, v.1, v.2⟩) ++ flatten rest) := by
    rw [flatten_cons, selections, hvalues, List.map_cons, List.cons_append]
  exact ⟨_, _, hflat, rfl⟩

/-- Grouped conditions are recovered from their selections in a row. -/
theorem flatten_inj {conditions others : List Condition} (hc : Grouped conditions)
    (ho : Grouped others) (h : flatten conditions = flatten others) : conditions = others := by
  induction conditions generalizing others with
  | nil =>
    cases others with
    | nil => rfl
    | cons other others =>
      obtain ⟨s, tail, hflat, -⟩ := exists_flatten_cons ho
      rw [hflat] at h
      cases h
  | cons condition rest ih =>
    obtain ⟨s, tail, hflat, hname⟩ := exists_flatten_cons hc
    cases others with
    | nil =>
      rw [hflat] at h
      cases h
    | cons other others =>
      obtain ⟨s', tail', hflat', hname'⟩ := exists_flatten_cons ho
      -- the first selections are equal, so both first conditions have the name that the
      -- two lists are split by
      have hsame : condition.name = other.name := by
        rw [hflat, hflat'] at h
        rw [← hname, ← hname', (List.cons.inj h).1]
      obtain ⟨hfirst, hlater⟩ := filter_flatten hc
      obtain ⟨hfirst', hlater'⟩ := filter_flatten ho
      rw [h, hsame] at hfirst hlater
      rw [hfirst'] at hfirst
      rw [hlater'] at hlater
      rw [selections_inj (ho.2 other (by simp)) hfirst, ih hc.tail ho.tail hlater.symm]

theorem any_value {condition : Condition} {value : Int} :
    (condition.values.any fun v => v.2 == value) = true ↔
      ∃ s ∈ condition.selections, s.value = value := by
  simp only [selections, List.any_eq_true, beq_iff_eq, List.mem_map]
  constructor
  · rintro ⟨v, hv, heq⟩
    exact ⟨_, ⟨v, hv, rfl⟩, heq⟩
  · rintro ⟨_, ⟨v, hv, rfl⟩, heq⟩
    exact ⟨v, hv, heq⟩

theorem name_of_mem_selections {condition : Condition} {s : Selection}
    (h : s ∈ condition.selections) : s.name = condition.name := by
  obtain ⟨v, -, rfl⟩ := List.mem_map.mp h
  rfl

end Condition

namespace LinkContext

open Condition

/-! ## Gathering one selection -/

/-- Adding a value keeps names distinct and conditions nonempty, and adds one selection. -/
theorem addValue?_eq_some {name text : String} {number value : Int}
    {conditions out : List Condition} (h : addValue? name number text value conditions = some out)
    (hgrouped : Grouped conditions)
    (hnumber : ∀ condition ∈ conditions, condition.name = name → condition.number = number) :
    Grouped out ∧ (flatten out).Perm (flatten conditions ++ [⟨name, number, text, value⟩]) ∧
      (∀ n ∈ out.map Condition.name, n = name ∨ n ∈ conditions.map Condition.name) := by
  induction conditions generalizing out with
  | nil =>
    cases h
    simp [Grouped, flatten, selections]
  | cons condition rest ih =>
    unfold addValue? at h
    split at h
    next hname =>
      split at h
      next => cases h
      next =>
        cases h
        refine ⟨⟨hgrouped.1, ?_⟩, ?_, fun n hn => .inr hn⟩
        · intro other hother
          rcases List.mem_cons.mp hother with rfl | hother
          · simp
          · exact hgrouped.2 other (by simp [hother])
        · rw [flatten_cons, flatten_cons, List.append_assoc, ← hname,
            ← hnumber condition (by simp) hname]
          simp only [selections, List.map_append, List.map_cons, List.map_nil, List.append_assoc]
          exact List.Perm.append_left _ List.perm_append_comm
    next hname =>
      obtain ⟨tail, htail, rfl⟩ := Option.map_eq_some_iff.mp h
      obtain ⟨hgroup, hperm, hnames⟩ :=
        ih htail hgrouped.tail fun other hother => hnumber other (by simp [hother])
      refine ⟨⟨?_, ?_⟩, ?_, ?_⟩
      · rw [List.map_cons, List.nodup_cons]
        refine ⟨?_, hgroup.1⟩
        intro hmem
        rcases hnames _ hmem with heq | hmem
        · exact hname heq
        · exact (List.nodup_cons.mp hgrouped.1).1 hmem
      · intro other hother
        rcases List.mem_cons.mp hother with rfl | hother
        · exact hgrouped.2 other (by simp)
        · exact hgroup.2 other hother
      · rw [flatten_cons, flatten_cons, List.append_assoc]
        exact hperm.append_left _
      · intro n hn
        rcases List.mem_cons.mp hn with rfl | hn
        · exact .inr (by simp)
        · rcases hnames n hn with heq | hmem
          · exact .inl heq
          · exact .inr (by simp [hmem])

/-- A value is refused when the condition of its name already has its number. -/
theorem addValue?_isSome {name text : String} {number value : Int} {conditions : List Condition}
    (hgrouped : Grouped conditions) :
    (addValue? name number text value conditions).isSome ↔
      ∀ s ∈ flatten conditions, s.name = name → s.value ≠ value := by
  induction conditions with
  | nil => simp [addValue?, flatten]
  | cons condition rest ih =>
    unfold addValue?
    rw [flatten_cons]
    simp only [List.mem_append]
    by_cases hname : condition.name = name
    · -- the later conditions have other names, so they have no say
      have hlater : ∀ s ∈ flatten rest, s.name ≠ name := by
        intro s hs heq
        exact (List.nodup_cons.mp hgrouped.1).1
          (hname ▸ heq ▸ name_mem_of_mem_flatten hs)
      rw [if_pos hname]
      split
      next hany =>
        obtain ⟨s, hs, hvalue⟩ := any_value.mp hany
        simp only [Option.isSome_none, Bool.false_eq_true, false_iff]
        intro hall
        exact hall s (.inl hs) ((name_of_mem_selections hs).trans hname) hvalue
      next hany =>
        simp only [Option.isSome_some, true_iff]
        rintro s (hs | hs) hsname hvalue
        · exact hany (any_value.mpr ⟨s, hs, hvalue⟩)
        · exact hlater s hs hsname
    · rw [if_neg hname, Option.isSome_map, ih hgrouped.tail]
      constructor
      · rintro hall s (hs | hs) hsname
        · exact absurd ((name_of_mem_selections hs).symm.trans hsname) hname
        · exact hall s hs hsname
      · intro hall s hs
        exact hall s (.inr hs)

/-! ## Gathering all selections -/

/-- Adds selections one after the other. -/
def addAll? (conditions : List Condition) : List Selection → Option (List Condition)
  | [] => some conditions
  | s :: rest => (addValue? s.name s.number s.text s.value conditions).bind fun conditions =>
      addAll? conditions rest

/-- The number of each condition is that of the main field it names. -/
def NumbersConditions (c : LinkContext) (conditions : List Condition) : Prop :=
  ∀ condition ∈ conditions,
    ∃ target, c.main? condition.name = some target ∧ condition.number = target.number

/-- The number of each selection is that of the main field it names. -/
def NumbersSelections (c : LinkContext) (selections : List Selection) : Prop :=
  ∀ s ∈ selections, ∃ target, c.main? s.name = some target ∧ s.number = target.number

variable {c : LinkContext}

theorem NumbersSelections.tail {s : Selection} {rest : List Selection}
    (h : c.NumbersSelections (s :: rest)) : c.NumbersSelections rest :=
  fun other hother => h other (by simp [hother])

/-- One selection more keeps conditions grouped, and their numbers those of main fields. -/
theorem addValue?_step {s : Selection} {conditions out : List Condition}
    (h : addValue? s.name s.number s.text s.value conditions = some out)
    (hgrouped : Grouped conditions) (hconditions : c.NumbersConditions conditions)
    (hs : ∃ target, c.main? s.name = some target ∧ s.number = target.number) :
    Grouped out ∧ c.NumbersConditions out ∧ (flatten out).Perm (flatten conditions ++ [s]) := by
  obtain ⟨target, hfound, hnumber⟩ := hs
  have hsame : ∀ condition ∈ conditions, condition.name = s.name →
      condition.number = s.number := by
    intro condition hmem hname
    obtain ⟨other, hother, heq⟩ := hconditions condition hmem
    rw [hname, hfound] at hother
    cases hother
    rw [heq, hnumber]
  obtain ⟨hgroup, hperm, -⟩ := addValue?_eq_some h hgrouped hsame
  refine ⟨hgroup, ?_, hperm⟩
  -- a condition is not empty, so its name and number are those of a selection
  intro condition hmem
  obtain ⟨v, hv⟩ := List.exists_mem_of_ne_nil _ (hgroup.2 condition hmem)
  have hflat : (⟨condition.name, condition.number, v.1, v.2⟩ : Selection) ∈ flatten out :=
    mem_flatten.mpr ⟨condition, hmem, rfl, rfl, hv⟩
  rcases List.mem_append.mp (hperm.mem_iff.mp hflat) with hold | hnew
  · obtain ⟨earlier, hearlier, hname, hnum, -⟩ := mem_flatten.mp hold
    obtain ⟨other, hother, heq⟩ := hconditions earlier hearlier
    refine ⟨other, ?_, ?_⟩
    · rw [← hother, hname]
    · rw [← heq, hnum]
  · obtain ⟨hname, hnum, -, -⟩ := Selection.mk.inj (List.mem_singleton.mp hnew)
    refine ⟨target, ?_, ?_⟩
    · rw [hname, hfound]
    · rw [hnum, hnumber]

/-- What all selections together bring about. -/
theorem addAll?_eq_some {selections : List Selection} {conditions out : List Condition}
    (h : addAll? conditions selections = some out) (hgrouped : Grouped conditions)
    (hconditions : c.NumbersConditions conditions) (hselections : c.NumbersSelections selections) :
    Grouped out ∧ c.NumbersConditions out ∧
      (flatten out).Perm (flatten conditions ++ selections) := by
  induction selections generalizing conditions with
  | nil =>
    cases h
    exact ⟨hgrouped, hconditions, by simp⟩
  | cons s rest ih =>
    obtain ⟨next, hnext, hrest⟩ := Option.bind_eq_some_iff.mp h
    obtain ⟨hgroup, hnumbers, hperm⟩ :=
      addValue?_step hnext hgrouped hconditions (hselections s (by simp))
    obtain ⟨hgroup', hnumbers', hperm'⟩ := ih hrest hgroup hnumbers hselections.tail
    refine ⟨hgroup', hnumbers', hperm'.trans ?_⟩
    have := hperm.append_right rest
    rwa [List.append_assoc, List.singleton_append] at this

/-- Selections can be added when none repeats the name and the value of another one. -/
theorem addAll?_isSome {selections : List Selection} {conditions : List Condition}
    (hgrouped : Grouped conditions) (hconditions : c.NumbersConditions conditions)
    (hselections : c.NumbersSelections selections)
    (hdistinct : (flatten conditions ++ selections).Pairwise fun a b =>
      a.name = b.name → a.value ≠ b.value) :
    (addAll? conditions selections).isSome := by
  induction selections generalizing conditions with
  | nil => rfl
  | cons s rest ih =>
    have hfree : ∀ t ∈ flatten conditions, t.name = s.name → t.value ≠ s.value := by
      intro t ht
      exact (List.pairwise_append.mp hdistinct).2.2 t ht s (by simp)
    have hadded : (addValue? s.name s.number s.text s.value conditions).isSome :=
      (addValue?_isSome hgrouped).mpr hfree
    obtain ⟨next, hnext⟩ := Option.isSome_iff_exists.mp hadded
    obtain ⟨hgroup, hnumbers, hperm⟩ :=
      addValue?_step hnext hgrouped hconditions (hselections s (by simp))
    have hsplit : flatten conditions ++ s :: rest = flatten conditions ++ [s] ++ rest := by simp
    rw [addAll?, hnext, Option.bind_some]
    -- gathering changes the order of the selections, on which distinctness does not depend
    refine ih hgroup hnumbers hselections.tail ?_
    rw [hsplit] at hdistinct
    refine (List.Perm.pairwise_iff ?_ (hperm.append_right rest)).mpr hdistinct
    intro a b hab hname heq
    exact hab hname.symm heq.symm

/-! ## Reading references -/

/-- A reference as a selection: it names a main field and a value that field can hold. -/
def selection? (c : LinkContext) (reference : String × String) : Option Selection := do
  let target ← c.main? reference.1
  let type ← TypeTable.meaning? c.types target.typeName
  let value ← type.read? reference.2
  return ⟨reference.1, target.number, reference.2, value⟩

theorem selection?_eq_some {reference : String × String} {s : Selection} :
    c.selection? reference = some s ↔
      ∃ target type, c.main? reference.1 = some target ∧
        TypeTable.meaning? c.types target.typeName = some type ∧
        type.read? reference.2 = some s.value ∧
        s.name = reference.1 ∧ s.number = target.number ∧ s.text = reference.2 := by
  simp only [selection?, Option.bind_eq_bind, Option.bind_eq_some_iff, Option.pure_def,
    Option.some.injEq]
  constructor
  · rintro ⟨target, htarget, type, htype, value, hvalue, rfl⟩
    exact ⟨target, type, htarget, htype, hvalue, rfl, rfl, rfl⟩
  · rintro ⟨target, type, htarget, htype, hvalue, hname, hnumber, htext⟩
    exact ⟨target, htarget, type, htype, s.value, hvalue, by rw [← hname, ← hnumber, ← htext]⟩

theorem lookup_values (values : List TypeValue) (text : String) :
    (values.map fun v => (v.name, v.value)).lookup text =
      (values.find? fun v => v.name == text).map TypeValue.value := by
  induction values with
  | nil => rfl
  | cons v rest ih =>
    rw [List.map_cons, List.lookup_cons, List.find?_cons, Bool.beq_comm]
    cases v.name == text with
    | true => rfl
    | false => exact ih

theorem namedValue?_eq_lookup {type : FieldType} {m : Meaning} (h : type.meaning? = some m)
    (text : String) : namedValue? type text = m.values.lookup text := by
  cases type with
  | base b =>
    cases h
    rfl
  | declared t =>
    cases h
    exact (lookup_values t.values text).symm
  | foreign name => cases h
  | invalid value => cases h

theorem referenceValue_eq_ok {sub reference : FieldRow} {text : String} {value : Int} :
    c.referenceValue sub reference text = .ok value ↔
      ∃ m, TypeTable.meaning? c.types reference.typeName = some m ∧ m.read? text = some value := by
  unfold referenceValue
  cases hlookup : TypeTable.lookup? c.types reference.typeName with
  | none => simp [TypeTable.meaning?, hlookup]
  | some type =>
    obtain ⟨m, hm, hmeaning, hbase⟩ := TypeTable.meaning?_of_lookup? hlookup
    simp only [hm, Option.some.injEq, exists_eq_left', Meaning.read?,
      namedValue?_eq_lookup hmeaning, hbase, Option.bind_some]
    cases m.values.lookup text with
    | some named => simp
    | none =>
      cases m.base.range? with
      | none => simp
      | some range =>
        obtain ⟨low, high⟩ := range
        cases Number.literal? text with
        | none => simp
        | some n =>
          by_cases hin : low ≤ n ∧ n ≤ high
          · simp [hin, Option.filter]
          · simp only [Option.map_some, Option.none_or, Option.bind_some, Option.filter, hin,
              decide_false, if_false]
            simp

theorem referenceValue_refused {sub reference : FieldRow} {text : String} {fault : Fault}
    (h : c.referenceValue sub reference text = .error fault) : c.BlamesField sub fault := by
  unfold referenceValue at h
  split at h
  next => exact .of_error h
  next =>
    split at h
    next => cases h
    next =>
      split at h
      next => exact .of_error h
      next =>
        split at h
        next => exact .of_error h
        next =>
          split at h
          next => cases h
          next => exact .of_error h

/-- References link when each is read, none is to the field itself, and they can be
gathered. -/
theorem linkConditions_eq_ok {sub : FieldRow} {conditions out : List Condition}
    {references : List (String × String)} :
    c.linkConditions sub conditions references = .ok out ↔
      ∃ selections, List.Forall₂ (fun reference s =>
          c.selection? reference = some s ∧ s.number ≠ sub.number) references selections ∧
        addAll? conditions selections = some out := by
  induction references generalizing conditions with
  | nil =>
    simp [linkConditions, addAll?]
  | cons reference rest ih =>
    obtain ⟨name, text⟩ := reference
    constructor
    · intro h
      unfold linkConditions at h
      split at h
      next => cases h
      next target htarget =>
        split at h
        next => cases h
        next hother =>
          obtain ⟨value, hvalue, hnext⟩ := bind_eq_ok.mp h
          split at hnext
          next => cases hnext
          next added hadded =>
            obtain ⟨selections, hall, hout⟩ := ih.mp hnext
            obtain ⟨type, htype, hread⟩ := referenceValue_eq_ok.mp hvalue
            refine ⟨⟨name, target.number, text, value⟩ :: selections, .cons ⟨?_, hother⟩ hall, ?_⟩
            · exact selection?_eq_some.mpr ⟨target, type, htarget, htype, hread, rfl, rfl, rfl⟩
            · rw [addAll?, hadded, Option.bind_some, hout]
    · rintro ⟨_, _ | ⟨⟨hread, hother⟩, hall⟩, hout⟩
      obtain ⟨target, type, htarget, htype, hvalue, hname, hnumber, htext⟩ :=
        selection?_eq_some.mp hread
      obtain ⟨added, hadded, hout⟩ := Option.bind_eq_some_iff.mp hout
      rw [hname, hnumber, htext] at hadded
      rw [hnumber] at hother
      unfold linkConditions
      simp only [htarget]
      rw [if_neg hother]
      refine bind_eq_ok.mpr ⟨_, referenceValue_eq_ok.mpr ⟨type, htype, hvalue⟩, ?_⟩
      simp only [hadded]
      exact ih.mpr ⟨_, hall, hout⟩

theorem linkConditions_refused {sub : FieldRow} {conditions : List Condition}
    {references : List (String × String)} {fault : Fault}
    (h : c.linkConditions sub conditions references = .error fault) :
    c.BlamesField sub fault := by
  induction references generalizing conditions with
  | nil => cases h
  | cons reference rest ih =>
    obtain ⟨name, text⟩ := reference
    unfold linkConditions at h
    split at h
    next => exact .of_error h
    next =>
      split at h
      next => exact .of_error h
      next =>
        rcases bind_eq_error.mp h with hvalue | ⟨value, -, hnext⟩
        · exact referenceValue_refused hvalue
        · split at hnext
          next => exact .of_error hnext
          next => exact ih hnext

/-- Selections that were read have the numbers of the main fields they name. -/
theorem numbersSelections_of_forall₂ {sub : FieldRow} {references : List (String × String)}
    {selections : List Selection}
    (h : List.Forall₂ (fun reference s =>
      c.selection? reference = some s ∧ s.number ≠ sub.number) references selections) :
    c.NumbersSelections selections := by
  induction h with
  | nil => simp [NumbersSelections]
  | cons hs _ ih =>
    intro t ht
    rcases List.mem_cons.mp ht with rfl | ht
    · obtain ⟨target, -, htarget, -, -, hname, hnumber, -⟩ := selection?_eq_some.mp hs.1
      exact ⟨target, hname ▸ htarget, hnumber⟩
    · exact ih t ht

/-- What linked conditions are like: grouped, numbered as the main fields they name, and
made of the selections of the references. -/
theorem linkConditions_spec {sub : FieldRow} {references : List (String × String)}
    {out : List Condition} (h : c.linkConditions sub [] references = .ok out) :
    Grouped out ∧ c.NumbersConditions out ∧ ∃ selections,
      List.Forall₂ (fun reference s =>
        c.selection? reference = some s ∧ s.number ≠ sub.number) references selections ∧
      (flatten out).Perm selections := by
  obtain ⟨selections, hall, hout⟩ := linkConditions_eq_ok.mp h
  obtain ⟨hgroup, hnumbers, hperm⟩ := addAll?_eq_some hout (by simp [Grouped])
    (by simp [NumbersConditions]) (numbersSelections_of_forall₂ hall)
  exact ⟨hgroup, hnumbers, selections, hall, by simpa [flatten] using hperm⟩

end LinkContext

end FitProfile
