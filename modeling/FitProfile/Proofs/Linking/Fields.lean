import FitProfile.Proofs.Linking.References
/-!
# FitProfile.Proofs.Linking.Fields -- linked fields and the rows they come from

Linking a row either succeeds or names a contradiction. For each step two things are
said: when it succeeds, in the terms of `MessageBlock.Consistent`, and what a linked
field is like. The relation `Links` ties a field to its row, and `BlockLinks` a field
with its variants to a block of rows.
-/

namespace FitProfile

open FitProfile.Draft FitProfile.Outcome

/-- The width of an array column is a number of bits, or has no bound. -/
theorem Extent.width_of_isArraySize {extent : Option Extent} (base : BaseType)
    (h : IsArraySize extent) :
    Extent.width base extent = .unbounded ∨ ∃ n, Extent.width base extent = .bits n := by
  match extent, h with
  | none, _ => exact .inr ⟨_, rfl⟩
  | some (.count n), _ => exact .inr ⟨_, rfl⟩
  | some (.symbol s), h =>
    left
    have hs : Extent.symbol s = remaining := h
    simp only [Extent.width, hs, if_true]

namespace LinkContext

variable {c : LinkContext}

/-- A fault raised over one of some rows of the message under link: a contradiction in it, or an
extent made by hand that is no number of elements. -/
def Blames (c : LinkContext) (rows : List FieldRow) (fault : Fault) : Prop :=
  ∃ row ∈ rows, c.BlamesField row fault ∨
    (¬ Extent.IsArraySize row.extent ∧ fault = .carrierNotMeasurable row.name)

theorem BlamesField.blames {row : FieldRow} {fault : Fault} (h : c.BlamesField row fault) :
    c.Blames [row] fault := ⟨row, by simp, .inl h⟩

theorem Blames.mono {rows more : List FieldRow} {fault : Fault} (h : c.Blames rows fault)
    (hsub : ∀ row ∈ rows, row ∈ more) : c.Blames more fault := by
  obtain ⟨row, hmem, hrow⟩ := h
  exact ⟨row, hsub row hmem, hrow⟩

/-- What the type names of a message under link stand for. -/
def meaning? (c : LinkContext) : String → Option Meaning := TypeTable.meaning? c.types

theorem main?_eq (name : String) : c.main? name = c.message.main? name := rfl

theorem selector?_eq (reference : String × String) :
    c.message.selector? c.meaning? reference =
      (c.selection? reference).map fun s => (s.number, s.value) := by
  unfold MessageBlock.selector? selection?
  rw [main?_eq]
  cases c.message.main? reference.1 with
  | none => rfl
  | some target =>
    simp only [Option.bind_eq_bind, Option.bind_some, meaning?]
    cases TypeTable.meaning? c.types target.typeName with
    | none => rfl
    | some type =>
      simp only [Option.bind_some]
      cases type.read? reference.2 <;> rfl

/-! ## The shape of a field -/

/-- The shapes that a row can have: with components it is packed, else an array or plain. -/
inductive Shapes (c : LinkContext) (row : FieldRow) : Shape → Prop where
  | plain (single : row.components = []) (scalar : row.extent = none) : Shapes c row .plain
  | array {extent : Extent} (single : row.components = []) (sized : row.extent = some extent) :
      Shapes c row (.array (some extent))
  | packed {slices : List Slice} (several : row.components ≠ [])
      (tiles : c.Tiles row 0 row.components slices) : Shapes c row (.packed row.extent slices)

/-- A field holds what its row says, with the type and the other fields it refers to. -/
structure Links (c : LinkContext) (row : FieldRow) (field : SingleField) : Prop where
  number : field.number = row.number
  name : field.name = row.name
  type : TypeTable.lookup? c.types row.typeName = some field.type
  scaling : field.scaling = ⟨row.scale, row.offset, row.units, row.accumulate⟩
  comment : field.comment = row.comment
  shape : c.Shapes row field.shape

theorem linkSlices_eq_ok {row : FieldRow} {type : FieldType} {base : BaseType}
    {slices : List Slice} (hbase : type.base? = some base) (hne : row.components ≠ []) :
    c.linkSlices row type = .ok slices ↔
      base.isInteger = true ∧ c.Tiles row 0 row.components slices ∧
        (Extent.width base row.extent).Admits row.componentBits := by
  unfold linkSlices
  rw [hbase]
  by_cases hint : base.isInteger = true
  · simp only [Option.filter_some, hint, if_true, true_and]
    rw [bind_eq_ok]
    constructor
    · rintro ⟨made, hmade, hcheck⟩
      have htiles := linkComponents_eq_ok.mp hmade
      split at hcheck
      next hok =>
        cases hcheck
        exact ⟨htiles, (htiles.check_eq_ok hne).mp hok⟩
      next => cases hcheck
    · rintro ⟨htiles, hroom⟩
      refine ⟨slices, linkComponents_eq_ok.mpr htiles, ?_⟩
      rw [(htiles.check_eq_ok hne).mpr hroom]
      rfl
  · simp [Option.filter_some, hint]

theorem linkSlices_refused {row : FieldRow} {type : FieldType} {fault : Fault}
    (h : c.linkSlices row type = .error fault) : c.Blames [row] fault := by
  unfold linkSlices at h
  split at h
  next => exact (BlamesField.of_error h).blames
  next base _ =>
    rcases bind_eq_error.mp h with hcomponents | ⟨slices, -, hcheck⟩
    · exact (linkComponents_refused hcomponents).blames
    · split at hcheck
      next => cases hcheck
      next sliceFault heq =>
        have hfault := (throw_eq_error.mp hcheck).symm
        cases sliceFault with
        | beyondCarrier slice width => exact BlamesField.blames ⟨_, hfault⟩
        | overlap earlier later => exact BlamesField.blames ⟨_, hfault⟩
        | notMeasurable slice =>
          refine ⟨row, by simp, .inr ⟨?_, hfault⟩⟩
          intro hsize
          exact Slice.check_ne_notMeasurable (Extent.width_of_isArraySize base hsize) heq

theorem linkShape_shapes {row : FieldRow} {type : FieldType} {base : BaseType} {shape : Shape}
    (hbase : type.base? = some base) (h : c.linkShape row type = .ok shape) :
    c.Shapes row shape := by
  unfold linkShape at h
  by_cases hne : row.components = []
  · rw [hne] at h
    cases hextent : row.extent with
    | none =>
      rw [hextent] at h
      cases h
      exact .plain hne hextent
    | some extent =>
      rw [hextent] at h
      cases h
      exact .array hne hextent
  · rw [if_pos (by simpa using hne)] at h
    obtain ⟨slices, hslices, rfl⟩ := map_eq_ok.mp h
    exact .packed hne ((linkSlices_eq_ok hbase hne).mp hslices).2.1

theorem linkSingle_links {row : FieldRow} {field : SingleField}
    (h : c.linkSingle row = .ok field) : c.Links row field := by
  unfold linkSingle at h
  split at h
  next => cases h
  next type htype =>
    obtain ⟨shape, hshape, hpure⟩ := bind_eq_ok.mp h
    cases hpure
    obtain ⟨m, -, -, hbase⟩ := TypeTable.meaning?_of_lookup? htype
    exact ⟨rfl, rfl, htype, rfl, rfl, linkShape_shapes hbase hshape⟩

/-- A row links when its type is known and its components, if any, fit. -/
theorem exists_linkSingle {row : FieldRow} :
    (∃ field, c.linkSingle row = .ok field) ↔
      (c.meaning? row.typeName).isSome ∧
        (row.components ≠ [] → c.message.Packs c.meaning? row) := by
  unfold linkSingle
  cases htype : TypeTable.lookup? c.types row.typeName with
  | none => simp [meaning?, TypeTable.isSome_meaning?, htype]
  | some type =>
    obtain ⟨m, hm, -, hbase⟩ := TypeTable.meaning?_of_lookup? htype
    have hmeaning : c.meaning? row.typeName = some m := hm
    simp only [hmeaning, Option.isSome_some, true_and]
    constructor
    · rintro ⟨field, hfield⟩ hne
      obtain ⟨shape, hshape, -⟩ := bind_eq_ok.mp hfield
      rw [linkShape, if_pos (by simpa using hne)] at hshape
      obtain ⟨slices, hslices, -⟩ := map_eq_ok.mp hshape
      obtain ⟨hint, htiles, hroom⟩ := (linkSlices_eq_ok hbase hne).mp hslices
      exact ⟨⟨m, hmeaning, hint, hroom⟩, htiles.targets, htiles.positive⟩
    · intro hpacks
      have hshape : ∃ shape, c.linkShape row type = .ok shape := by
        unfold linkShape
        by_cases hne : row.components = []
        · rw [hne]
          cases row.extent <;> exact ⟨_, rfl⟩
        · obtain ⟨⟨m', hm', hint, hroom⟩, htargets, hpositive⟩ := hpacks hne
          rw [hmeaning] at hm'
          cases hm'
          obtain ⟨slices, htiles⟩ :=
            Tiles.exists_of_forall 0 htargets hpositive
          rw [if_pos (by simpa using hne)]
          exact ⟨_, map_eq_ok.mpr
            ⟨slices, (linkSlices_eq_ok hbase hne).mpr ⟨hint, htiles, hroom⟩, rfl⟩⟩
      obtain ⟨shape, hshape⟩ := hshape
      exact ⟨_, bind_eq_ok.mpr ⟨shape, hshape, rfl⟩⟩

theorem linkSingle_refused {row : FieldRow} {fault : Fault}
    (h : c.linkSingle row = .error fault) : c.Blames [row] fault := by
  unfold linkSingle at h
  split at h
  next => exact (BlamesField.of_error h).blames
  next type _ =>
    rcases bind_eq_error.mp h with hshape | ⟨_, -, hpure⟩
    · unfold linkShape at hshape
      split at hshape
      next => exact linkSlices_refused (map_eq_error.mp hshape)
      next => split at hshape <;> cases hshape
    · cases hpure

/-! ## Subfields -/

/-- A variant holds what its row says, with the references of the row as conditions. -/
structure VariantLinks (c : LinkContext) (sub : FieldRow) (variant : Variant) : Prop where
  row : variant.row = sub
  field : c.Links sub variant.field
  conditions : c.linkConditions sub [] sub.references = .ok variant.conditions

theorem linkSubfield_eq_ok {sub : FieldRow} {variant : Variant}
    (h : c.linkSubfield sub = .ok variant) : c.VariantLinks sub variant := by
  obtain ⟨field, hfield, hrest⟩ := bind_eq_ok.mp h
  obtain ⟨conditions, hconditions, hpure⟩ := bind_eq_ok.mp hrest
  cases hpure
  exact ⟨rfl, linkSingle_links hfield, hconditions⟩

theorem linkSubfield_refused {sub : FieldRow} {fault : Fault}
    (h : c.linkSubfield sub = .error fault) : c.Blames [sub] fault := by
  rcases bind_eq_error.mp h with hfield | ⟨field, -, hrest⟩
  · exact linkSingle_refused hfield
  · rcases bind_eq_error.mp hrest with hconditions | ⟨_, -, hpure⟩
    · exact (linkConditions_refused hconditions).blames
    · cases hpure

theorem linkSingle_of_linkSubfield {sub : FieldRow} {variant : Variant}
    (h : c.linkSubfield sub = .ok variant) : ∃ field, c.linkSingle sub = .ok field := by
  obtain ⟨field, hfield, -⟩ := bind_eq_ok.mp h
  exact ⟨field, hfield⟩

theorem linkSubfields_eq_mapM (subs : List FieldRow) :
    c.linkSubfields subs = subs.mapM c.linkSubfield := by
  induction subs with
  | nil => rfl
  | cons sub rest ih => rw [linkSubfields, List.mapM_cons, ih]

theorem linkSubfields_eq_ok {subs : List FieldRow} {variants : List Variant} :
    c.linkSubfields subs = .ok variants ↔
      List.Forall₂ (fun sub variant => c.linkSubfield sub = .ok variant) subs variants := by
  rw [linkSubfields_eq_mapM, mapM_eq_ok]

theorem linkSubfields_refused {subs : List FieldRow} {fault : Fault}
    (h : c.linkSubfields subs = .error fault) : c.Blames subs fault := by
  rw [linkSubfields_eq_mapM] at h
  obtain ⟨sub, hmem, hsub⟩ := exists_of_mapM_eq_error h
  refine (linkSubfield_refused hsub).mono ?_
  intro row hrow
  rwa [List.mem_singleton.mp hrow]

/-- References that each select something can all be read. -/
theorem exists_selections {sub : FieldRow} {references : List (String × String)}
    (h : ∀ reference ∈ references, ∃ selector,
      c.message.selector? c.meaning? reference = some selector ∧ selector.1 ≠ sub.number) :
    ∃ selections, List.Forall₂ (fun reference s =>
      c.selection? reference = some s ∧ s.number ≠ sub.number) references selections := by
  induction references with
  | nil => exact ⟨[], .nil⟩
  | cons reference rest ih =>
    obtain ⟨selections, hall⟩ := ih fun other hother => h other (by simp [hother])
    obtain ⟨selector, hselector, hother⟩ := h reference (by simp)
    rw [selector?_eq] at hselector
    obtain ⟨s, hs, rfl⟩ := Option.map_eq_some_iff.mp hselector
    exact ⟨s :: selections, .cons ⟨hs, hother⟩ hall⟩

/-- Selections that were read are what the references select by. -/
theorem selectors_of_forall₂ {sub : FieldRow} {references : List (String × String)}
    {selections : List Selection}
    (h : List.Forall₂ (fun reference s =>
      c.selection? reference = some s ∧ s.number ≠ sub.number) references selections) :
    references.map (c.message.selector? c.meaning?) =
      selections.map fun s => some (s.number, s.value) := by
  induction h with
  | nil => rfl
  | cons hs _ ih => rw [List.map_cons, List.map_cons, ih, selector?_eq, hs.1, Option.map_some]

theorem exists_linkSubfield {sub : FieldRow}
    (hfield : ∃ field, c.linkSingle sub = .ok field)
    (hselects : c.message.Selects c.meaning? sub)
    (hexclusive : (sub.references.map (c.message.selector? c.meaning?)).Nodup) :
    ∃ variant, c.linkSubfield sub = .ok variant := by
  obtain ⟨field, hfield⟩ := hfield
  obtain ⟨selections, hall⟩ := exists_selections hselects
  have hnumbers := numbersSelections_of_forall₂ hall
  have hdistinct : selections.Pairwise fun a b => a.name = b.name → a.value ≠ b.value := by
    rw [selectors_of_forall₂ hall] at hexclusive
    refine List.Pairwise.imp_of_mem ?_ (List.pairwise_map.mp hexclusive)
    intro a b ha hb hne hname hvalue
    -- one name has one number, so equal names and values make equal selectors
    obtain ⟨target, htarget, hnumber⟩ := hnumbers a ha
    obtain ⟨other, hother, hnumber'⟩ := hnumbers b hb
    rw [hname, hother] at htarget
    cases htarget
    exact hne (by rw [hnumber, hnumber', hvalue])
  have hgathered : (addAll? [] selections).isSome :=
    addAll?_isSome (by simp [Condition.Grouped]) (by simp [NumbersConditions]) hnumbers
      (by simpa [Condition.flatten] using hdistinct)
  obtain ⟨conditions, hconditions⟩ := Option.isSome_iff_exists.mp hgathered
  exact ⟨_, bind_eq_ok.mpr ⟨field, hfield,
    bind_eq_ok.mpr ⟨conditions, linkConditions_eq_ok.mpr ⟨selections, hall, hconditions⟩, rfl⟩⟩⟩

/-- A linked subfield: its references all select, and its conditions hold just the
selections they make. -/
theorem VariantLinks.selects {sub : FieldRow} {variant : Variant}
    (h : c.VariantLinks sub variant) :
    c.message.Selects c.meaning? sub ∧
      ((Condition.flatten variant.conditions).map fun s => some (s.number, s.value)).Perm
        (sub.references.map (c.message.selector? c.meaning?)) := by
  obtain ⟨-, -, selections, hall, hperm⟩ := linkConditions_spec h.conditions
  refine ⟨?_, ?_⟩
  · intro reference hmem
    obtain ⟨s, -, hs, hother⟩ := forall₂_exists_of_mem hall hmem
    exact ⟨_, by rw [selector?_eq, hs]; rfl, hother⟩
  · rw [selectors_of_forall₂ hall]
    exact hperm.map _

/-! ## Claims of several variants -/

/-- What a claim selects by. -/
def Claim.selector (claim : Claim) : Int × Int := (claim.number, claim.value)

theorem Variant.claims_selectors (variant : Variant) :
    variant.claims.map Claim.selector =
      (Condition.flatten variant.conditions).map fun s => (s.number, s.value) := by
  simp only [Variant.claims, Condition.flatten, Condition.selections, List.map_flatMap,
    List.map_map]
  rfl

theorem checkClaims_eq_ok {taken claims : List Claim} :
    c.checkClaims taken claims = .ok () ↔ (claims.map Claim.selector).Nodup ∧
      ∀ claim ∈ claims, ∀ t ∈ taken, t.selector ≠ claim.selector := by
  induction claims generalizing taken with
  | nil => simp [checkClaims]
  | cons claim rest ih =>
    unfold checkClaims
    cases hfind : taken.find? fun t => t.number == claim.number && t.value == claim.value with
    | some earlier =>
      have hsame : earlier.selector = claim.selector := by
        have := List.find?_some hfind
        simp only [Bool.and_eq_true, beq_iff_eq] at this
        exact Prod.ext this.1 this.2
      simp only [reduceCtorEq, false_iff]
      rintro ⟨-, hfree⟩
      exact hfree claim (by simp) earlier (List.mem_of_find?_eq_some hfind) hsame
    | none =>
      have hfree : ∀ t ∈ taken, t.selector ≠ claim.selector := by
        intro t ht heq
        have := List.find?_eq_none.mp hfind t ht
        obtain ⟨hnumber, hvalue⟩ := Prod.mk.inj heq
        simp [hnumber, hvalue] at this
      -- the claim joins those taken, so repeating it counts first against the taken
      -- claims and then as a repetition in the list
      simp only [ih, List.map_cons, List.nodup_cons, List.mem_append, List.mem_cons,
        List.not_mem_nil, or_false, List.mem_map, not_exists, not_and]
      constructor
      · rintro ⟨hnodup, hall⟩
        refine ⟨⟨fun other hother heq => hall other hother claim (.inr rfl) heq.symm, hnodup⟩, ?_⟩
        rintro other (rfl | hother) t ht
        · exact hfree t ht
        · exact hall other hother t (.inl ht)
      · rintro ⟨⟨hclaim, hnodup⟩, hall⟩
        refine ⟨hnodup, ?_⟩
        rintro other hother t (ht | rfl)
        · exact hall other (.inr hother) t ht
        · exact fun heq => hclaim other hother heq.symm

theorem checkClaims_refused {taken claims : List Claim} {fault : Fault}
    (h : c.checkClaims taken claims = .error fault) :
    ∃ claim ∈ claims, c.BlamesField claim.row fault := by
  induction claims generalizing taken with
  | nil => cases h
  | cons claim rest ih =>
    unfold checkClaims at h
    split at h
    next => exact ⟨claim, by simp, .of_error h⟩
    next =>
      obtain ⟨other, hmem, hother⟩ := ih h
      exact ⟨other, List.mem_cons_of_mem claim hmem, hother⟩

/-- The claims of linked subfields come from their rows. -/
theorem row_mem_of_claims {subs : List FieldRow} {variants : List Variant}
    (h : List.Forall₂ c.VariantLinks subs variants) :
    ∀ claim ∈ variants.flatMap Variant.claims, claim.row ∈ subs := by
  intro claim hmem
  obtain ⟨variant, hvariant, hclaim⟩ := List.mem_flatMap.mp hmem
  obtain ⟨sub, hsub, hlinks⟩ := forall₂_exists_of_mem_right h hvariant
  obtain ⟨condition, -, hvalue⟩ := List.mem_flatMap.mp hclaim
  obtain ⟨v, -, rfl⟩ := List.mem_map.mp hvalue
  exact hlinks.row ▸ hsub

/-- Across all variants the claims select by what the references of the rows select by. -/
theorem claims_perm {subs : List FieldRow} {variants : List Variant}
    (h : List.Forall₂ c.VariantLinks subs variants) :
    ((variants.flatMap Variant.claims).map fun claim => some claim.selector).Perm
      (subs.flatMap fun sub => sub.references.map (c.message.selector? c.meaning?)) := by
  induction h with
  | nil => exact .refl _
  | @cons sub variant subs variants hvariant _ ih =>
    rw [List.flatMap_cons, List.flatMap_cons, List.map_append]
    refine List.Perm.append ?_ ih
    have hclaims : (variant.claims.map fun claim => some claim.selector) =
        (Condition.flatten variant.conditions).map fun s => some (s.number, s.value) := by
      have := congrArg (List.map some) (Variant.claims_selectors variant)
      rwa [List.map_map, List.map_map] at this
    rw [hclaims]
    exact hvariant.selects.2

end LinkContext

end FitProfile
