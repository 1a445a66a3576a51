import FitProfile.Proofs.Linking.Consistent
import FitProfile.Proofs.Outcome
import FitProfile.Proofs.Sorting
/-!
# FitProfile.Proofs.Linking.Types -- the types of a linked model

The table of types is built name by name. It is built exactly when no name is declared
twice, its names are distinct, and a name leads in it to what the draft says the name
stands for.
-/

namespace FitProfile

open FitProfile.Draft FitProfile.Outcome

/-- A fault that names a contradiction. Where its wording needs an integer that is too
long to write, the limit on digits stands in its place (`Fault.ofIntegrity`). -/
def Fault.IsContradiction (fault : Fault) : Prop :=
  ∃ cause location, fault = .ofIntegrity cause location

/-- What a type of a model stands for. -/
def TypeDef.meaning (type : TypeDef) : Meaning :=
  ⟨type.base, type.values.map fun v => (v.name, v.value)⟩

/-- What a reference to a type stands for. -/
def FieldType.meaning? : FieldType → Option Meaning
  | .base b => some ⟨b, []⟩
  | .declared t => some t.meaning
  | _ => none

namespace TypeTable

/-- What a name stands for in a table of types. -/
def meaning? (types : List TypeDef) (name : String) : Option Meaning :=
  (lookup? types name).bind FieldType.meaning?

theorem find?_eq_some_name {types : List TypeDef} {name : String} {type : TypeDef}
    (h : find? types name = some type) : type.name = name ∧ type ∈ types := by
  unfold find? at h
  exact ⟨by simpa using List.find?_some h, List.mem_of_find?_eq_some h⟩

theorem isSome_find? {types : List TypeDef} {name : String} :
    (find? types name).isSome ↔ name ∈ types.map TypeDef.name := by
  simp [find?, List.find?_isSome]

theorem find?_append {a b : List TypeDef} {name : String} :
    find? (a ++ b) name = (find? a name).or (find? b name) := by
  simp [find?, List.find?_append]

/-- A reference that a table gives out is to a base type, or to a type of the table. -/
theorem lookup?_eq_some {types : List TypeDef} {name : String} {type : FieldType}
    (h : lookup? types name = some type) :
    (∃ b, type = .base b ∧ b.name = name) ∨
      ∃ t, type = .declared t ∧ find? types name = some t := by
  unfold lookup? at h
  split at h
  next t ht => exact .inr ⟨t, (Option.some.inj h).symm, ht⟩
  next =>
    obtain ⟨b, hb, rfl⟩ := Option.map_eq_some_iff.mp h
    exact .inl ⟨b, rfl, by simpa using List.find?_some hb⟩

theorem isSome_meaning? {types : List TypeDef} {name : String} :
    (meaning? types name).isSome = (lookup? types name).isSome := by
  unfold meaning?
  cases h : lookup? types name with
  | none => rfl
  | some type =>
    obtain ⟨b, rfl, _⟩ | ⟨t, rfl, _⟩ := lookup?_eq_some h <;> rfl

theorem meaning?_of_lookup? {types : List TypeDef} {name : String} {type : FieldType}
    (h : lookup? types name = some type) :
    ∃ m, meaning? types name = some m ∧ type.meaning? = some m ∧ type.base? = some m.base := by
  obtain ⟨b, rfl, _⟩ | ⟨t, rfl, _⟩ := lookup?_eq_some h <;>
    exact ⟨_, by rw [meaning?, h]; rfl, rfl, rfl⟩

/-! ## Declared types -/

theorem baseNamed_eq_ok {name : String} {base : BaseType} :
    baseNamed name = .ok base ↔ BaseType.ofName? name = some base := by
  unfold baseNamed
  split <;> simp_all

theorem ofBlock_eq_ok {block : TypeBlock} {type : TypeDef} (h : ofBlock block = .ok type) :
    type.name = block.name ∧ BaseType.ofName? block.baseType = some type.base ∧
      type.values.map (fun v => (v.name, v.value)) =
        block.values.map (fun v => (v.name, v.value)) := by
  obtain ⟨base, hbase, hpure⟩ := bind_eq_ok.mp h
  rw [← pure_eq_ok.mp hpure]
  refine ⟨rfl, baseNamed_eq_ok.mp hbase, ?_⟩
  simp

theorem ofBlock_of_known {block : TypeBlock} (h : (BaseType.ofName? block.baseType).isSome) :
    ∃ type, ofBlock block = .ok type := by
  obtain ⟨base, hbase⟩ := Option.isSome_iff_exists.mp h
  exact ⟨_, bind_eq_ok.mpr ⟨base, baseNamed_eq_ok.mpr hbase, rfl⟩⟩

/-- The declared types of a table, one for each block in order. -/
theorem addDeclared_eq_ok {sheet : Option String} {known types : List TypeDef}
    {blocks : List TypeBlock} (h : addDeclared sheet known blocks = .ok types) :
    ∃ added, types = known ++ added ∧
      List.Forall₂ (fun block type => ofBlock block = .ok type) blocks added ∧
      (∀ block ∈ blocks, block.name ∉ known.map TypeDef.name) ∧
      (blocks.map TypeBlock.name).Nodup := by
  induction blocks generalizing known with
  | nil =>
    refine ⟨[], ?_, .nil, by simp, by simp⟩
    simpa [addDeclared] using h.symm
  | cons block rest ih =>
    unfold addDeclared at h
    split at h
    next => simp at h
    next hnew =>
      obtain ⟨type, htype, hrest⟩ := bind_eq_ok.mp h
      obtain ⟨added, rfl, hall, hfresh, hnodup⟩ := ih hrest
      have hname := (ofBlock_eq_ok htype).1
      have hnotin : block.name ∉ known.map TypeDef.name := by rwa [isSome_find?] at hnew
      -- the later names are apart from the known ones with this name at their end
      simp only [List.map_append, List.map_cons, List.map_nil, List.mem_append,
        List.mem_singleton, not_or, hname] at hfresh
      refine ⟨type :: added, by simp, .cons htype hall, ?_, ?_⟩
      · intro other hother
        rcases List.mem_cons.mp hother with rfl | hother
        · exact hnotin
        · exact (hfresh other hother).1
      · rw [List.map_cons, List.nodup_cons]
        refine ⟨?_, hnodup⟩
        intro hmem
        obtain ⟨other, hother, heq⟩ := List.mem_map.mp hmem
        exact (hfresh other hother).2 heq

/-- Distinct names of known base types are all added. -/
theorem addDeclared_of_nodup {sheet : Option String} {known : List TypeDef}
    {blocks : List TypeBlock} (hbase : ∀ block ∈ blocks, (BaseType.ofName? block.baseType).isSome)
    (hfresh : ∀ block ∈ blocks, block.name ∉ known.map TypeDef.name)
    (hnodup : (blocks.map TypeBlock.name).Nodup) :
    ∃ types, addDeclared sheet known blocks = .ok types := by
  induction blocks generalizing known with
  | nil => exact ⟨known, rfl⟩
  | cons block rest ih =>
    obtain ⟨type, htype⟩ := ofBlock_of_known (hbase block (by simp))
    rw [List.map_cons, List.nodup_cons] at hnodup
    have hrest : ∀ other ∈ rest, other.name ∉ (known ++ [type]).map TypeDef.name := by
      intro other hother
      simp only [List.map_append, List.map_cons, List.map_nil, List.mem_append,
        List.mem_singleton, not_or, (ofBlock_eq_ok htype).1]
      refine ⟨hfresh other (by simp [hother]), ?_⟩
      intro heq
      exact hnodup.1 (heq ▸ List.mem_map_of_mem hother)
    obtain ⟨types, htypes⟩ := ih (fun b hb => hbase b (by simp [hb])) hrest hnodup.2
    refine ⟨types, ?_⟩
    unfold addDeclared
    rw [if_neg (by rw [isSome_find?]; exact hfresh block (by simp))]
    exact bind_eq_ok.mpr ⟨type, htype, htypes⟩

/-- A fault over a type that bears the name of an earlier one, or one of the names `known`. -/
def Repeats (sheet : Option String) (known : List String) (blocks : List TypeBlock)
    (fault : Fault) : Prop :=
  ∃ before block after, blocks = before ++ block :: after ∧
    block.name ∈ known ++ before.map TypeBlock.name ∧
    fault = .ofIntegrity (.duplicateType block.name) { sheet := sheet, row := some block.row }

theorem Repeats.isContradiction {sheet : Option String} {known : List String}
    {blocks : List TypeBlock} {fault : Fault} (h : Repeats sheet known blocks fault) :
    fault.IsContradiction := by
  obtain ⟨_, block, _, -, -, rfl⟩ := h
  exact ⟨_, _, rfl⟩

/-- Known base types leave a repeated name as the only reason to refuse declared types. -/
theorem addDeclared_refused {sheet : Option String} {known : List TypeDef}
    {blocks : List TypeBlock} {fault : Fault}
    (hbase : ∀ block ∈ blocks, (BaseType.ofName? block.baseType).isSome)
    (h : addDeclared sheet known blocks = .error fault) :
    Repeats sheet (known.map TypeDef.name) blocks fault := by
  induction blocks generalizing known with
  | nil => simp [addDeclared] at h
  | cons block rest ih =>
    unfold addDeclared at h
    split at h
    next hknown =>
      refine ⟨[], block, rest, rfl, ?_, (Except.error.inj h).symm⟩
      rw [List.map_nil, List.append_nil]
      exact isSome_find?.mp hknown
    next =>
      obtain ⟨type, htype⟩ := ofBlock_of_known (hbase block (by simp))
      rcases bind_eq_error.mp h with herr | ⟨type', htype', hrest⟩
      · rw [htype] at herr
        cases herr
      · obtain ⟨before, later, after, rfl, hname, hfault⟩ :=
          ih (fun b hb => hbase b (by simp [hb])) hrest
        refine ⟨block :: before, later, after, rfl, ?_, hfault⟩
        simpa [(ofBlock_eq_ok htype').1] using hname

/-! ## Implicit types -/

/-- An implicit type over a base type. -/
def implicitType (name : String) (base : BaseType) : TypeDef := ⟨name, base, [], none, none⟩

/-- The implicit types of a table: those whose names are not known, by their first entry. -/
theorem addImplicit_eq_ok {known types : List TypeDef} {entries : List (String × String)}
    (h : addImplicit known entries = .ok types) :
    (∃ added, types = known ++ added) ∧
      ((known.map TypeDef.name).Nodup → (types.map TypeDef.name).Nodup) ∧
      ∀ name, find? types name = (find? known name).or
        ((entries.lookup name).bind fun base =>
          (BaseType.ofName? base).map (implicitType name)) := by
  induction entries generalizing known with
  | nil =>
    cases h
    exact ⟨⟨[], by simp⟩, id, by simp⟩
  | cons entry rest ih =>
    obtain ⟨entryName, baseName⟩ := entry
    unfold addImplicit at h
    split at h
    next hknown =>
      obtain ⟨hadded, hnodup, hfind⟩ := ih h
      refine ⟨hadded, hnodup, ?_⟩
      intro name
      rw [hfind name]
      -- the entry is passed over, and its name is found among the known types already
      by_cases heq : name = entryName
      · obtain ⟨t, ht⟩ := Option.isSome_iff_exists.mp hknown
        rw [heq, ht, Option.some_or, Option.some_or]
      · rw [List.lookup_cons, beq_false_of_ne heq]
    next hknown =>
      obtain ⟨base, hbase, hrest⟩ := bind_eq_ok.mp h
      obtain ⟨⟨added, rfl⟩, hnodup, hfind⟩ := ih hrest
      have hnew : entryName ∉ known.map TypeDef.name := by rwa [isSome_find?] at hknown
      refine ⟨⟨implicitType entryName base :: added, by simp [implicitType]⟩, ?_, ?_⟩
      · intro hdistinct
        apply hnodup
        rw [List.map_append, List.nodup_append]
        refine ⟨hdistinct, by simp, ?_⟩
        rintro a ha b hb rfl
        simp only [List.map_cons, List.map_nil, List.mem_singleton] at hb
        exact hnew (hb ▸ ha)
      · intro name
        rw [hfind name, find?_append, List.lookup_cons]
        by_cases heq : name = entryName
        · subst heq
          simp [baseNamed_eq_ok.mp hbase, find?, implicitType]
        · have hne : ¬ entryName = name := fun e => heq e.symm
          simp [find?, hne, beq_false_of_ne heq]

/-- Implicit types of known base types are never refused. -/
theorem addImplicit_of_known {known : List TypeDef} {entries : List (String × String)}
    (hbase : ∀ entry ∈ entries, (BaseType.ofName? entry.2).isSome) :
    ∃ types, addImplicit known entries = .ok types := by
  induction entries generalizing known with
  | nil => exact ⟨known, rfl⟩
  | cons entry rest ih =>
    obtain ⟨name, baseName⟩ := entry
    obtain ⟨base, hb⟩ := Option.isSome_iff_exists.mp (hbase (name, baseName) (by simp))
    have hrest : ∀ entry ∈ rest, (BaseType.ofName? entry.2).isSome :=
      fun entry hmem => hbase entry (by simp [hmem])
    unfold addImplicit
    split
    · exact ih hrest
    · obtain ⟨types, htypes⟩ := ih hrest
      exact ⟨types, bind_eq_ok.mpr ⟨base, baseNamed_eq_ok.mpr hb, htypes⟩⟩

/-! ## The whole table -/

/-- A declared name is found in the types of its blocks where it is found in the blocks. -/
theorem find?_forall₂ {blocks : List TypeBlock} {types : List TypeDef}
    (h : List.Forall₂ (fun block type => ofBlock block = .ok type) blocks types) (name : String) :
    (blocks.find? (fun b => b.name == name) = none ∧ find? types name = none) ∨
      ∃ block type, blocks.find? (fun b => b.name == name) = some block ∧
        find? types name = some type ∧ ofBlock block = .ok type := by
  induction h with
  | nil => exact .inl ⟨rfl, rfl⟩
  | @cons block type blocks types hblock _ ih =>
    have hname := (ofBlock_eq_ok hblock).1
    by_cases heq : block.name = name
    · refine .inr ⟨block, type, ?_, ?_, hblock⟩
      · simp [heq]
      · simp [find?, hname, heq]
    · have hne : (block.name == name) = false := beq_false_of_ne heq
      simp only [find?, List.find?_cons, hname, hne]
      exact ih

theorem names_forall₂ {blocks : List TypeBlock} {types : List TypeDef}
    (h : List.Forall₂ (fun block type => ofBlock block = .ok type) blocks types) :
    blocks.map TypeBlock.name = types.map TypeDef.name := by
  induction h with
  | nil => rfl
  | cons hblock _ ih => rw [List.map_cons, List.map_cons, ih, (ofBlock_eq_ok hblock).1]

theorem lookup_eq_find? (entries : List (String × String)) (name : String) :
    entries.lookup name = (entries.find? fun e => name == e.1).map Prod.snd := by
  induction entries with
  | nil => rfl
  | cons entry rest ih =>
    rw [List.lookup_cons, List.find?_cons]
    cases h : name == entry.1 with
    | true => rfl
    | false => exact ih

/-- Sorting by name does not change which entry of a name is the first. -/
theorem lookup_sortBy_name (entries : List (String × String)) (name : String) :
    (Order.sortBy (fun a b => decide (a.1 ≤ b.1)) entries).lookup name = entries.lookup name := by
  rw [lookup_eq_find?, lookup_eq_find?, Order.find?_sortBy]
  intro a b ha hb
  rw [← beq_iff_eq.mp ha, ← beq_iff_eq.mp hb]
  simp

/-- The names of a table are distinct, no name was declared twice, and each name leads to
what the draft says it stands for. -/
theorem ofDraft_eq_ok {rules : RuleSet} {draft : Draft} {types : List TypeDef}
    (h : ofDraft rules draft.types = .ok types) :
    (draft.types.map TypeBlock.name).Nodup ∧ (types.map TypeDef.name).Nodup ∧
      ∀ name, (find? types name).map TypeDef.meaning = draft.declared? rules name := by
  obtain ⟨declared, hdeclared, himplicit⟩ := bind_eq_ok.mp h
  obtain ⟨_, rfl, hall, -, hnodup⟩ := addDeclared_eq_ok hdeclared
  obtain ⟨-, hdistinct, hfind⟩ := addImplicit_eq_ok himplicit
  refine ⟨hnodup, hdistinct (names_forall₂ hall ▸ hnodup), ?_⟩
  intro name
  rw [hfind name, lookup_sortBy_name, Draft.declared?]
  -- an implicit type is asked for only where no type of the name is declared
  rcases find?_forall₂ hall name with ⟨hnone, hmiss⟩ | ⟨block, type, hsome, hhit, hblock⟩
  · rw [hnone, hmiss, Option.none_or, Option.map_bind]
    simp only [Function.comp_def, Option.map_map]
    rfl
  · obtain ⟨-, hbase, hvalues⟩ := ofBlock_eq_ok hblock
    rw [hsome, hhit, Option.some_or, Option.map_some, TypeDef.meaning, hvalues]
    simp only [hbase, Option.map_some]

theorem meaning?_ofDraft {rules : RuleSet} {draft : Draft} {types : List TypeDef}
    (h : ofDraft rules draft.types = .ok types) : meaning? types = draft.meaning? rules := by
  funext name
  obtain ⟨-, -, hfind⟩ := ofDraft_eq_ok h
  rw [meaning?, lookup?, Draft.meaning?, ← hfind name]
  cases find? types name with
  | some type => rfl
  | none => cases BaseType.ofName? name <;> rfl

theorem addImplicit_sorted_of_known (known : List TypeDef) {entries : List (String × String)}
    (hbase : ∀ entry ∈ entries, (BaseType.ofName? entry.2).isSome) :
    ∃ types, addImplicit known (Order.sortBy (fun a b => decide (a.1 ≤ b.1)) entries) =
      .ok types :=
  addImplicit_of_known fun entry hmem => hbase entry (Order.mem_sortBy.mp hmem)

/-- A table is built from distinct names over known base types. -/
theorem ofDraft_of_nodup {rules : RuleSet} {draft : Draft}
    (hdeclared : ∀ block ∈ draft.types, (BaseType.ofName? block.baseType).isSome)
    (himplicit : ∀ entry ∈ rules.implicitTypes, (BaseType.ofName? entry.2).isSome)
    (hnodup : (draft.types.map TypeBlock.name).Nodup) :
    ∃ types, ofDraft rules draft.types = .ok types := by
  obtain ⟨known, hknown⟩ : ∃ known, addDeclared rules.typesSheet [] draft.types = .ok known :=
    addDeclared_of_nodup hdeclared (by simp) hnodup
  obtain ⟨types, htypes⟩ := addImplicit_sorted_of_known known himplicit
  exact ⟨types, bind_eq_ok.mpr ⟨known, hknown, htypes⟩⟩

theorem ofDraft_refused {rules : RuleSet} {draft : Draft} {fault : Fault}
    (hdeclared : ∀ block ∈ draft.types, (BaseType.ofName? block.baseType).isSome)
    (himplicit : ∀ entry ∈ rules.implicitTypes, (BaseType.ofName? entry.2).isSome)
    (h : ofDraft rules draft.types = .error fault) :
    Repeats rules.typesSheet [] draft.types fault := by
  rcases bind_eq_error.mp h with hrefused | ⟨known, hknown, hrefused⟩
  · exact addDeclared_refused hdeclared hrefused
  · obtain ⟨types, htypes⟩ := addImplicit_sorted_of_known known himplicit
    rw [htypes] at hrefused
    cases hrefused

end TypeTable

end FitProfile
