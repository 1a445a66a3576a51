import FitProfile.Proofs.Linking.Removal
/-!
# FitProfile.Proofs.Linking.TypePlaces -- linking over types in other places

Linking asks for a type by its name, whatever the order in which the types stand, and does not look
at the row of a type: it only hands it on to the fields of that type. So over types that say the
same in other rows a draft links to the same messages, but for these rows. `placed` puts types into
other rows, by their names; each function of linking commutes with it, and `ofDraft_moved`
follows for whole drafts.

The order of the types shows in the table of types alone. `TypeTable.ofDraft_perm` proves that types
in another order make up a table in that order, in front of the same implicit types.
-/

namespace FitProfile

open FitProfile.Draft FitProfile.Outcome

/-! ## Types in other places -/

/-- What a type says, without its place. -/
def TypeDef.content (type : TypeDef) : TypeDef := { type with row := none }

/-- A type in the row that belongs to its name. -/
def TypeDef.placed (places : String → Option Int) (type : TypeDef) : TypeDef :=
  { type with row := places type.name }

/-- A reference to a type in the row that belongs to its name. -/
def FieldType.placed (places : String → Option Int) : FieldType → FieldType
  | .declared type => .declared (type.placed places)
  | type => type

/-- A field over types in other rows. -/
def SingleField.placed (places : String → Option Int) (field : SingleField) : SingleField :=
  { field with type := field.type.placed places }

/-- A linked field over types in other rows: its default and its variants are single fields. -/
def Field.placed (places : String → Option Int) : Field → Field
  | .single field => .single (field.placed places)
  | .dynamic standard variants =>
    .dynamic (.single (standard.lead.placed places))
      (variants.map fun variant => (.single (variant.1.lead.placed places), variant.2))

/-- A message over types in other rows. -/
def Message.placed (places : String → Option Int) (message : Message) : Message :=
  { message with fields := message.fields.map (Field.placed places) }

section Placed

variable (places : String → Option Int)

@[simp] theorem FieldType.placed_base? (type : FieldType) :
    (type.placed places).base? = type.base? := by
  cases type <;> rfl

@[simp] theorem FieldType.placed_name (type : FieldType) :
    (type.placed places).name = type.name := by
  cases type <;> rfl

@[simp] theorem LinkContext.namedValue?_placed (type : FieldType) (text : String) :
    namedValue? (type.placed places) text = namedValue? type text := by
  cases type <;> rfl

@[simp] theorem Field.placed_number (field : Field) :
    (field.placed places).number = field.number := by
  cases field <;> rfl

end Placed

namespace TypeTable

variable {places : String → Option Int} {types types' : List TypeDef}

/-- Tables of types that say the same, but for the rows and the order. -/
def Moves (places : String → Option Int) (types types' : List TypeDef) : Prop :=
  ∀ name, find? types' name = (find? types name).map (TypeDef.placed places)

theorem Moves.lookup? (h : Moves places types types') (name : String) :
    TypeTable.lookup? types' name =
      (TypeTable.lookup? types name).map (FieldType.placed places) := by
  unfold TypeTable.lookup?
  rw [h name]
  cases find? types name with
  | some type => rfl
  | none => cases BaseType.ofName? name <;> rfl

/-- A name that is found in one order of the types is found in every order. -/
theorem exists_moves (hperm : (types.map TypeDef.content).Perm (types'.map TypeDef.content))
    (hnodup : (types.map TypeDef.name).Nodup) : ∃ places, Moves places types types' := by
  refine ⟨fun name => (find? types' name).bind TypeDef.row, fun name => ?_⟩
  have hnodup' : ((types.map TypeDef.content).map TypeDef.name).Nodup := by
    rw [List.map_map]
    exact hnodup
  have hfind := find?_perm hperm hnodup' name
  rw [List.find?_map, List.find?_map] at hfind
  change (find? types name).map _ = (find? types' name).map _ at hfind
  cases hfound : find? types name with
  | none =>
    rw [hfound, Option.map_none, eq_comm, Option.map_eq_none_iff] at hfind
    exact hfind
  | some type =>
    rw [hfound, Option.map_some, eq_comm, Option.map_eq_some_iff] at hfind
    obtain ⟨type', hfound', hcontent⟩ := hfind
    obtain rfl := (find?_eq_some_name hfound).1
    rw [hfound', Option.map_some, TypeDef.placed, hfound']
    obtain ⟨name, base, values, comment, row⟩ := type
    obtain ⟨_, _, _, _, row'⟩ := type'
    cases hcontent
    rfl

/-! ## The table of types -/

/-- The type that a block states, without its place. -/
def stated? (block : TypeBlock) : Option TypeDef := (ofBlock block).toOption.map TypeDef.content

theorem stated?_moved (σ : Int → Int) (block : TypeBlock) :
    stated? (block.moved σ) = stated? block := by
  have hvalues : (block.moved σ).values.map (fun v =>
      (⟨v.name, v.value, if v.comment.toList.isEmpty then none else some v.comment⟩ : TypeValue)) =
      block.values.map fun v =>
        ⟨v.name, v.value, if v.comment.toList.isEmpty then none else some v.comment⟩ := by
    rw [TypeBlock.moved, List.map_map]
    rfl
  have hbase : (block.moved σ).baseType = block.baseType := rfl
  unfold stated? ofBlock
  rw [hvalues, hbase]
  cases baseNamed block.baseType <;> rfl

/-- Blocks that become types one by one state these types. -/
theorem filterMap_stated? {blocks : List TypeBlock} {types : List TypeDef}
    (h : List.Forall₂ (fun block type => ofBlock block = .ok type) blocks types) :
    blocks.filterMap stated? = types.map TypeDef.content := by
  induction h with
  | nil => rfl
  | @cons block type _ _ hblock _ ih =>
    have hstated : stated? block = some type.content := by
      rw [stated?, hblock]
      rfl
    rw [List.filterMap_cons, hstated, ih, List.map_cons]

/-- The implicit types depend on the names of the declared ones alone. -/
theorem addImplicit_congr {known known' types : List TypeDef} {entries : List (String × String)}
    (hnames : (known.map TypeDef.name).Perm (known'.map TypeDef.name))
    (h : addImplicit known entries = .ok types) : ∃ added, types = known ++ added ∧
      addImplicit known' entries = .ok (known' ++ added) ∧
      ∀ type ∈ added, type.name ∈ entries.map Prod.fst := by
  induction entries generalizing known known' with
  | nil =>
    cases h
    exact ⟨[], (List.append_nil _).symm, by rw [addImplicit, List.append_nil], by simp⟩
  | cons entry rest ih =>
    obtain ⟨name, baseName⟩ := entry
    have hknown : (find? known' name).isSome = (find? known name).isSome := by
      rw [Bool.eq_iff_iff, isSome_find?, isSome_find?, hnames.mem_iff]
    unfold addImplicit at h ⊢
    rw [hknown]
    split at h
    next hfound =>
      rw [if_pos hfound]
      obtain ⟨added, htypes, hadded, hentries⟩ := ih hnames h
      exact ⟨added, htypes, hadded, fun type hmem => List.mem_cons_of_mem _ (hentries type hmem)⟩
    next hnew =>
      rw [if_neg hnew]
      obtain ⟨base, hbase, h⟩ := bind_eq_ok.mp h
      have hnames' : ((known ++ [implicitType name base]).map TypeDef.name).Perm
          ((known' ++ [implicitType name base]).map TypeDef.name) := by
        rw [List.map_append, List.map_append]
        exact hnames.append_right _
      obtain ⟨added, rfl, hadded, hentries⟩ := ih hnames' h
      refine ⟨implicitType name base :: added, List.append_assoc .., ?_, ?_⟩
      · refine bind_eq_ok.mpr ⟨base, hbase, ?_⟩
        refine hadded.trans ?_
        rw [List.append_assoc, List.singleton_append]
      · intro type hmem
        rcases List.mem_cons.mp hmem with rfl | hmem
        · exact List.mem_cons_self
        · exact List.mem_cons_of_mem _ (hentries type hmem)

/-- Blocks in another order make up a table of the same types in that order; the implicit types
still stand behind them. -/
theorem ofDraft_perm {rules : RuleSet} {blocks blocks' : List TypeBlock} {types : List TypeDef}
    (hperm : (blocks.filterMap stated?).Perm (blocks'.filterMap stated?))
    (hknown : ∀ block ∈ blocks', (BaseType.ofName? block.baseType).isSome)
    (h : ofDraft rules blocks = .ok types) :
    ∃ declared declared' implicit, types = declared ++ implicit ∧
      ofDraft rules blocks' = .ok (declared' ++ implicit) ∧
      declared.map TypeDef.content = blocks.filterMap stated? ∧
      declared'.map TypeDef.content = blocks'.filterMap stated? ∧
      ∀ type ∈ implicit, type.name ∈ rules.implicitTypes.map Prod.fst := by
  have hnames : ∀ {blocks : List TypeBlock} {declared : List TypeDef},
      List.Forall₂ (fun block type => ofBlock block = .ok type) blocks declared →
        (blocks.filterMap stated?).map TypeDef.name = blocks.map TypeBlock.name := by
    intro blocks declared hall
    rw [filterMap_stated? hall, names_forall₂ hall, List.map_map]
    rfl
  obtain ⟨declared, hdeclared, himplicit⟩ := bind_eq_ok.mp h
  obtain ⟨_, rfl, hall, -, hnodup⟩ := addDeclared_eq_ok hdeclared
  obtain ⟨_, hblocks'⟩ := exists_forall₂.mpr fun block hmem => ofBlock_of_known (hknown block hmem)
  have hsame : (blocks.map TypeBlock.name).Perm (blocks'.map TypeBlock.name) := by
    rw [← hnames hall, ← hnames hblocks']
    exact hperm.map _
  have hexists : ∃ known, addDeclared rules.typesSheet [] blocks' = .ok known :=
    addDeclared_of_nodup hknown (by simp) (hsame.nodup_iff.mp hnodup)
  obtain ⟨declared', hdeclared'⟩ := hexists
  obtain ⟨_, rfl, hall', -, -⟩ := addDeclared_eq_ok hdeclared'
  rw [names_forall₂ hall, names_forall₂ hall'] at hsame
  obtain ⟨implicit, rfl, himplicit', hentries⟩ := addImplicit_congr hsame himplicit
  refine ⟨declared, declared', implicit, rfl, ?_, (filterMap_stated? hall).symm,
    (filterMap_stated? hall').symm, ?_⟩
  · exact bind_eq_ok.mpr ⟨declared', hdeclared', himplicit'⟩
  · intro type hmem
    exact ((Order.sortBy_perm _ _).map Prod.fst).mem_iff.mp (hentries type hmem)

end TypeTable

/-! ## Linking the fields of a message -/

namespace LinkContext

open TypeTable

variable {c : LinkContext} {types : List TypeDef} {places : String → Option Int}

/-- A variant over types in other rows. -/
def Variant.placed (places : String → Option Int) (variant : Variant) : Variant :=
  { variant with field := variant.field.placed places }

theorem linkComponents_types (carrier : FieldRow) (offset : Int) (entries : List ComponentEntry) :
    linkComponents { c with types := types } carrier offset entries =
      c.linkComponents carrier offset entries := by
  induction entries generalizing offset with
  | nil => rfl
  | cons entry rest ih =>
    simp only [linkComponents, ih]
    rfl

theorem linkShape_placed (row : FieldRow) (type : FieldType) :
    linkShape { c with types := types } row (type.placed places) = c.linkShape row type := by
  have hslices : linkSlices { c with types := types } row (type.placed places) =
      c.linkSlices row type := by
    simp only [linkSlices, FieldType.placed_base?, FieldType.placed_name, linkComponents_types]
    rfl
  rw [linkShape, linkShape, hslices]

variable (htypes : Moves places c.types types)
include htypes

theorem linkSingle_placed (row : FieldRow) :
    linkSingle { c with types := types } row =
      (c.linkSingle row).map (SingleField.placed places) := by
  unfold linkSingle
  rw [htypes.lookup?]
  cases TypeTable.lookup? c.types row.typeName with
  | none => rfl
  | some type =>
    simp only [Option.map_some, linkShape_placed]
    cases c.linkShape row type <;> rfl

theorem referenceValue_types (sub reference : FieldRow) (text : String) :
    referenceValue { c with types := types } sub reference text =
      c.referenceValue sub reference text := by
  unfold referenceValue
  rw [htypes.lookup?]
  cases TypeTable.lookup? c.types reference.typeName with
  | none => rfl
  | some type =>
    simp only [Option.map_some, namedValue?_placed, FieldType.placed_base?, FieldType.placed_name]
    rfl

theorem linkConditions_types (sub : FieldRow) (conditions : List Condition)
    (references : List (String × String)) :
    linkConditions { c with types := types } sub conditions references =
      c.linkConditions sub conditions references := by
  induction references generalizing conditions with
  | nil => rfl
  | cons reference rest ih =>
    simp only [linkConditions, referenceValue_types htypes, ih]
    rfl

theorem linkSubfield_placed (sub : FieldRow) :
    linkSubfield { c with types := types } sub =
      (c.linkSubfield sub).map (Variant.placed places) := by
  unfold linkSubfield
  rw [linkSingle_placed htypes, linkConditions_types htypes]
  cases c.linkSingle sub with
  | error fault => rfl
  | ok field => cases c.linkConditions sub [] (sub.refNames.zip sub.refValues) <;> rfl

theorem linkSubfields_placed (subs : List FieldRow) :
    linkSubfields { c with types := types } subs =
      (c.linkSubfields subs).map (List.map (Variant.placed places)) := by
  induction subs with
  | nil => rfl
  | cons sub rest ih =>
    unfold linkSubfields
    rw [linkSubfield_placed htypes, ih]
    cases c.linkSubfield sub with
    | error fault => rfl
    | ok variant => cases c.linkSubfields rest <;> rfl

omit htypes in
theorem checkClaims_types (taken claims : List Claim) :
    checkClaims { c with types := types } taken claims = c.checkClaims taken claims := by
  induction claims generalizing taken with
  | nil => rfl
  | cons claim rest ih =>
    simp only [checkClaims, ih]
    rfl

omit htypes in
/-- The values that select a variant do not depend on its types. -/
theorem claims_placed (variants : List Variant) :
    (variants.map (Variant.placed places)).flatMap Variant.claims =
      variants.flatMap Variant.claims := by
  rw [List.flatMap_map]
  rfl

theorem linkBlock_placed (block : FieldBlock) :
    linkBlock { c with types := types } block = (c.linkBlock block).map (Field.placed places) := by
  unfold linkBlock
  rw [linkSingle_placed htypes, linkSubfields_placed htypes]
  by_cases hreference : block.main.hasReference = true
  · rw [if_pos hreference, if_pos hreference]
    rfl
  rw [if_neg hreference, if_neg hreference]
  cases c.linkSingle block.main with
  | error fault => rfl
  | ok field =>
    by_cases hempty : block.subfields.isEmpty = true
    · simp only [hempty, if_true]
      rfl
    simp only [hempty, Bool.false_eq_true, if_false]
    cases c.linkSubfields block.subfields with
    | error fault => rfl
    | ok variants =>
      simp only [Except.map, bind, Except.bind, claims_placed, checkClaims_types]
      cases c.checkClaims [] (variants.flatMap Variant.claims) with
      | error fault => rfl
      | ok _ => simp only [pure, Except.pure, Field.placed, List.map_map]; rfl

theorem linkFields_placed :
    linkFields { c with types := types } = c.linkFields.map (List.map (Field.placed places)) := by
  have hblocks : ∀ blocks : List FieldBlock, linkBlocks { c with types := types } blocks =
      (c.linkBlocks blocks).map (List.map (Field.placed places)) := by
    intro blocks
    induction blocks with
    | nil => rfl
    | cons block rest ih =>
      unfold linkBlocks
      rw [linkBlock_placed htypes, ih]
      cases c.linkBlock block with
      | error fault => rfl
      | ok field => cases c.linkBlocks rest <;> rfl
  exact hblocks c.orderedBlocks

omit htypes in
theorem checkBlocks_types (known : List FieldRow) (blocks : List FieldBlock) :
    checkBlocks { c with types := types } known blocks = c.checkBlocks known blocks := by
  induction blocks generalizing known with
  | nil => rfl
  | cons block rest ih =>
    simp only [checkBlocks, ih]
    rfl

end LinkContext

/-! ## Linking messages -/

namespace Model

open LinkContext TypeTable

variable {rules : RuleSet} {version : Version} {draft : Draft} {model : Model}
variable {types types' : List TypeDef} {places : String → Option Int} {numbers : TypeDef}

/-- A message links over types in other rows to the same message, but for these rows. -/
theorem MessageLinks.placed {sheet : Option String} {block : MessageBlock} {message : Message}
    (htypes : Moves places types types')
    (h : MessageLinks ⟨sheet, types, block⟩ numbers message) :
    MessageLinks ⟨sheet, types', block⟩ (numbers.placed places) (message.placed places) where
  name := h.name
  row := h.row
  number := h.number
  declared := h.declared
  checked := (checkBlocks_types [] block.fields).trans h.checked
  fields := by
    have hfields := linkFields_placed (c := ⟨sheet, types, block⟩) htypes
    rw [h.fields] at hfields
    exact hfields

theorem messageNumberType_placed (htypes : Moves places types types')
    (h : messageNumberType rules types = .ok numbers) :
    messageNumberType rules types' = .ok (numbers.placed places) := by
  unfold messageNumberType at h ⊢
  split at h
  next type htype =>
    cases h
    obtain ⟨name, hname, hfound⟩ := Option.bind_eq_some_iff.mp htype
    rw [hname, Option.bind_some, htypes name, hfound]
    rfl
  next => cases h

/-- Over types in another order and in other rows a draft links to the same messages, but for the
rows of their types. -/
theorem ofDraft_moved {blocks : List TypeBlock} (htypes : Moves places model.types types')
    (hblocks : TypeTable.ofDraft rules blocks = .ok types')
    (h : ofDraft rules version draft = .ok model) :
    ofDraft rules version { draft with types := blocks } =
      .ok ⟨version, types', model.messages.map (Message.placed places), model.unmatched⟩ := by
  obtain ⟨-, -, numbers, linked, hnumbers, hlinked, hnames, hnodup, hmessages, hunmatched⟩ :=
    ofDraft_eq_ok h
  have hlinked' : List.Forall₂ (fun block message =>
      MessageLinks ⟨rules.messagesSheet, types', block⟩ (numbers.placed places) message)
      draft.messages (linked.map (Message.placed places)) :=
    List.forall₂_map_right_iff.mpr (hlinked.imp fun _ _ => MessageLinks.placed htypes)
  have hkeys : ∀ {α : Type} (key : Message → α), (∀ m : Message, key (m.placed places) = key m) →
      ∀ messages : List Message,
        (messages.map (Message.placed places)).map key = messages.map key := by
    intro α key hkey messages
    rw [List.map_map]
    exact List.map_congr_left fun m _ => hkey m
  have hsorted : Order.sortBy (fun a b => decide (a.number ≤ b.number))
      (linked.map (Message.placed places)) = model.messages.map (Message.placed places) := by
    rw [hmessages]
    exact Order.sortBy_map (fun _ _ => rfl) linked
  have hlink : ofDraft rules version { draft with types := blocks } = _ :=
    ofDraft_of_links { draft with types := blocks } hblocks
      (messageNumberType_placed htypes hnumbers) hlinked' (by rwa [hkeys _ fun _ => rfl])
      (by rwa [hkeys _ fun _ => rfl]) hsorted
  rw [hlink, hunmatched, unmatchedNames, unmatchedNames, hkeys _ fun _ => rfl]
  rfl

end Model

end FitProfile
