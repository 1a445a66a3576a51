import FitProfile.Proofs.Linking.Integrity
/-!
# FitProfile.Proofs.Linking.Values -- no type has an integer twice

A row with an integer that its type already has is refused when the Types sheet is read,
and linking takes the values of a type as they were read. So the integers of every type of
a linked model are distinct.
-/

namespace FitProfile

open FitProfile.Outcome

namespace Draft.TypesSheet

variable {r : SheetReader}

/-- A value that is compared with others without a fault has an integer of its own. -/
theorem value_ne_of_compareWith {type : String} {value : ValueRow} {known : List ValueRow}
    (h : (compareWith r type value known).outcome = .ok ()) :
    ∀ earlier ∈ known, earlier.value ≠ value.value := by
  induction known with
  | nil => simp
  | cons first rest ih =>
    unfold compareWith at h
    split at h
    next => cases h
    next hne =>
      have hrest : (compareWith r type value rest).outcome = .ok () := by
        split at h
        next =>
          dsimp only at h
          split at h
          next =>
            obtain ⟨_, -, hrest⟩ := Reported.outcome_bind_eq_ok.mp h
            exact hrest
          next => cases h
        next => exact h
      exact List.forall_mem_cons.mpr ⟨hne, ih hrest⟩

/-- Reading on keeps the integers of a type distinct. -/
theorem nodup_of_readValues {type : String} {known values : List ValueRow} {rows : List Row}
    (hknown : (known.map ValueRow.value).Nodup)
    (h : (readValues r type known rows).outcome = .ok values) :
    (values.map ValueRow.value).Nodup := by
  induction rows generalizing known with
  | nil =>
    cases h
    exact hknown
  | cons row rest ih =>
    unfold readValues at h
    split at h
    next =>
      obtain ⟨value, -, h⟩ := Reported.outcome_bind_eq_ok.mp h
      obtain ⟨_, hcompare, h⟩ := Reported.outcome_bind_eq_ok.mp h
      refine ih (nodup_map_concat.mpr ⟨hknown, ?_⟩) h
      intro hvalue
      obtain ⟨earlier, hmem, hsame⟩ := List.mem_map.mp hvalue
      exact value_ne_of_compareWith hcompare earlier hmem hsame
    next => exact ih hknown h

theorem nodup_of_read {rules : RuleSet} {sheet : Sheet} {types : List TypeBlock}
    (h : (read rules sheet).outcome = .ok types) :
    ∀ type ∈ types, (type.values.map ValueRow.value).Nodup := by
  obtain ⟨r, -, h⟩ := read_eq_ok.mp h
  intro type hmem
  obtain ⟨⟨head, rows⟩, -, htype⟩ := forall₂_exists_of_mem_right (readRows_eq_ok.mp h).2 hmem
  obtain ⟨-, values, hvalues, rfl⟩ := readType_eq_ok.mp htype
  have hnone : (([] : List ValueRow).map ValueRow.value).Nodup := List.nodup_nil
  exact nodup_of_readValues hnone hvalues

end Draft.TypesSheet

namespace TypeTable

/-- Implicit types have no values. -/
theorem values_of_addImplicit {known types : List TypeDef} {entries : List (String × String)}
    (h : addImplicit known entries = .ok types) :
    ∀ type ∈ types, type ∈ known ∨ type.values = [] := by
  induction entries generalizing known with
  | nil =>
    cases h
    exact fun type hmem => .inl hmem
  | cons entry rest ih =>
    obtain ⟨name, baseName⟩ := entry
    unfold addImplicit at h
    split at h
    next => exact ih h
    next =>
      obtain ⟨base, -, hrest⟩ := bind_eq_ok.mp h
      intro type hmem
      rcases ih hrest type hmem with hmem | hnil
      · rcases List.mem_append.mp hmem with hmem | hmem
        · exact .inl hmem
        · rw [List.mem_singleton.mp hmem]
          exact .inr rfl
      · exact .inr hnil

/-- A type of a table is that of a block, or it has no values and a name that no block has. -/
theorem mem_of_ofDraft {rules : RuleSet} {blocks : List Draft.TypeBlock} {types : List TypeDef}
    (h : ofDraft rules blocks = .ok types) {type : TypeDef} (hmem : type ∈ types) :
    (∃ block ∈ blocks, ofBlock block = .ok type) ∨
      (type.values = [] ∧ type.name ∉ blocks.map Draft.TypeBlock.name) := by
  obtain ⟨declared, hdeclared, himplicit⟩ := bind_eq_ok.mp h
  obtain ⟨_, rfl, hall, -, hnodup⟩ := addDeclared_eq_ok hdeclared
  obtain ⟨⟨added, rfl⟩, hdistinct, -⟩ := addImplicit_eq_ok himplicit
  by_cases hknown : type ∈ declared
  · obtain ⟨block, hblock, htype⟩ := forall₂_exists_of_mem_right hall hknown
    exact .inl ⟨block, hblock, htype⟩
  · right
    have hnames := names_forall₂ hall
    refine ⟨(values_of_addImplicit himplicit type hmem).resolve_left hknown, ?_⟩
    rw [hnames]
    intro hname
    have hapart := hdistinct (hnames ▸ hnodup)
    rw [List.map_append, List.nodup_append] at hapart
    have hadded : type ∈ added := (List.mem_append.mp hmem).resolve_left hknown
    exact hapart.2.2 _ hname _ (List.mem_map_of_mem hadded) rfl

/-- The types of a table have the values of their blocks, or none. -/
theorem nodup_of_ofDraft {rules : RuleSet} {blocks : List Draft.TypeBlock} {types : List TypeDef}
    (hblocks : ∀ block ∈ blocks, (block.values.map Draft.ValueRow.value).Nodup)
    (h : ofDraft rules blocks = .ok types) :
    ∀ type ∈ types, (type.values.map TypeValue.value).Nodup := by
  intro type hmem
  rcases mem_of_ofDraft h hmem with ⟨block, hblock, htype⟩ | ⟨hnone, -⟩
  · obtain ⟨-, -, hvalues⟩ := ofBlock_eq_ok htype
    have hnumbers := congrArg (List.map Prod.snd) hvalues
    simp only [List.map_map] at hnumbers
    exact hnumbers ▸ hblocks block hblock
  · rw [hnone]
    exact List.nodup_nil

end TypeTable

namespace Model

variable {model : Model} {rules : RuleSet} {version : Version} {book : Workbook}

/-- No type of a linked model has an integer twice. -/
theorem LinkedFrom.nodup_values (h : model.LinkedFrom rules version book) :
    ∀ type ∈ model.types, (type.values.map TypeValue.value).Nodup := by
  obtain ⟨draft, hdraft, hmodel⟩ := h
  obtain ⟨-, -, ⟨sheet, -, htypes⟩, -⟩ := Draft.ofWorkbook_eq_ok.mp hdraft
  exact TypeTable.nodup_of_ofDraft (Draft.TypesSheet.nodup_of_read htypes) (ofDraft_eq_ok hmodel).1

/-- No two types of a linked model have one name. -/
theorem LinkedFrom.nodup_typeNames (h : model.LinkedFrom rules version book) :
    (model.types.map TypeDef.name).Nodup := by
  obtain ⟨draft, -, hmodel⟩ := h
  exact (TypeTable.ofDraft_eq_ok (ofDraft_eq_ok hmodel).1).2.1

end Model

end FitProfile
