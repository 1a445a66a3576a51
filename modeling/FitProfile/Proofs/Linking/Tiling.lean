import FitProfile.Proofs.Linking.BitPositions
import FitProfile.Proofs.Linking.Integrity
import FitProfile.Proofs.Wording
/-!
# FitProfile.Proofs.Linking.Tiling -- components fill their carrier from bit zero

The components of a carrier become slices in their order, each of which starts where the one
before it ends. `LaidOut` says so of a row and its slices: no bit is taken twice, none is left
out in between, and the last slice ends inside the carrier. `slices_of_ofDraft` finds a field
with such slices in a linked model for each row with components. It also says that linking
never reports components that overlap: slices that are laid side by side do not meet, so the
check on slices can only find them too long (`Slice.check_ne_overlap`).
-/

namespace FitProfile

open FitProfile.Draft FitProfile.Outcome

/-! ## Slices side by side -/

namespace Slice

/-- A slice is what a component states. -/
structure MadeOf (slice : Slice) (entry : ComponentEntry) : Prop where
  name : slice.name = entry.name
  bits : slice.bits = entry.bits
  scaling : slice.scaling = ⟨entry.scale, entry.offset, entry.units, entry.accumulate⟩

/-- Slices that do not meet are never found to overlap. -/
theorem check_ne_overlap {width : Width} {taken slices : List Slice}
    (htaken : ∀ slice ∈ slices, ∀ other ∈ taken, slice.meets other = false)
    (hslices : slices.Pairwise fun a b => a.meets b = false) (earlier later : Slice) :
    check width taken slices ≠ .error (.overlap earlier later) := by
  induction slices generalizing taken with
  | nil => nofun
  | cons slice rest ih =>
    obtain ⟨hslice, hrest⟩ := List.pairwise_cons.mp hslices
    obtain ⟨hfree, htaken⟩ := List.forall_mem_cons.mp htaken
    have hfind : taken.find? (fun other => slice.meets other) = none := by
      simpa [List.find?_eq_none] using hfree
    unfold check
    split
    next fault hfault =>
      -- a fault over the width is no overlap
      rintro ⟨⟩
      unfold widthFault? at hfault
      split at hfault
      next => cases hfault
      next => split at hfault <;> cases hfault
      next x =>
        split at hfault
        next => cases hx : x.towardZero? <;> simp [hx] at hfault
        next => cases hfault
      next => cases hfault
    next =>
      rw [hfind]
      refine ih ?_ hrest
      intro other hother before hbefore
      rcases List.mem_append.mp hbefore with hbefore | hbefore
      · exact htaken other hother before hbefore
      · rw [List.mem_singleton.mp hbefore, meets_comm]
        exact hslice other hother

end Slice

/-- The components of a row in the bits of a carrier of a base type. -/
structure LaidOut (row : FieldRow) (base : BaseType) (slices : List Slice) : Prop where
  made : List.Forall₂ (fun entry slice => slice.MadeOf entry) row.components slices
  positive : ∀ slice ∈ slices, 0 < slice.bits
  stacked : ∀ before slice after, slices = before ++ slice :: after →
    slice.bitOffset = (before.map Slice.bits).sum
  apart : slices.Pairwise Slice.Apart
  gapless : ∀ position, (∃ slice ∈ slices, slice.Covers position) ↔
    0 ≤ position ∧ position < (slices.map Slice.bits).sum
  inside : ∀ before last, slices = before ++ [last] →
    (Extent.width base row.extent).Admits last.bitEnd

namespace LinkContext

variable {c : LinkContext} {carrier : FieldRow}

namespace Tiles

variable {offset : Int} {entries : List ComponentEntry} {slices : List Slice}

theorem made (h : c.Tiles carrier offset entries slices) :
    List.Forall₂ (fun entry slice => slice.MadeOf entry) entries slices := by
  induction h with
  | nil => exact .nil
  | cons _ _ _ _ ih => exact .cons ⟨rfl, rfl, rfl⟩ ih

theorem slice_positive (h : c.Tiles carrier offset entries slices) :
    ∀ slice ∈ slices, 0 < slice.bits := by
  induction h with
  | nil => simp
  | cons _ _ positive _ ih => exact List.forall_mem_cons.mpr ⟨positive, ih⟩

/-- Each slice starts behind the bits of all slices in front of it. -/
theorem stacked (h : c.Tiles carrier offset entries slices) {before after : List Slice}
    {slice : Slice} (hslices : slices = before ++ slice :: after) :
    slice.bitOffset = offset + (before.map Slice.bits).sum := by
  induction h generalizing before with
  | nil => simp at hslices
  | cons _ _ _ _ ih =>
    cases before with
    | nil =>
      cases hslices
      simp
    | cons first before =>
      rw [List.cons_append, List.cons.injEq] at hslices
      obtain ⟨rfl, hrest⟩ := hslices
      rw [ih hrest, List.map_cons, List.sum_cons, Int.add_assoc]

theorem sum_bits (h : c.Tiles carrier offset entries slices) :
    (slices.map Slice.bits).sum = (entries.map ComponentEntry.bits).sum := by
  induction h with
  | nil => rfl
  | cons _ _ _ _ ih => rw [List.map_cons, List.map_cons, List.sum_cons, List.sum_cons, ih]

/-- The slices take the bits from the first free one on, up to as many as they have together. -/
theorem gapless (h : c.Tiles carrier offset entries slices) (position : Int) :
    (∃ slice ∈ slices, slice.Covers position) ↔
      offset ≤ position ∧ position < offset + (slices.map Slice.bits).sum := by
  induction h with
  | nil =>
    simp only [List.not_mem_nil, false_and, exists_false, List.map_nil, List.sum_nil, false_iff]
    omega
  | @cons offset entry target rest slices _ _ positive tail ih =>
    have hroom : 0 ≤ (slices.map Slice.bits).sum := tail.sum_bits ▸ tail.room
    rw [List.exists_mem_cons_iff, ih, List.map_cons, List.sum_cons]
    simp only [Slice.Covers, Slice.bitEnd]
    omega

/-- Slices that tile a carrier with room for all its components are laid out in it. -/
theorem laidOut {row : FieldRow} {base : BaseType}
    (h : c.Tiles row 0 row.components slices)
    (hroom : (Extent.width base row.extent).Admits row.componentBits) :
    LaidOut row base slices where
  made := h.made
  positive := h.slice_positive
  stacked before slice after hslices := by
    rw [h.stacked hslices, Int.zero_add]
  apart := h.pairwise.imp_of_mem fun ha hb hmeets =>
    (Slice.meets_eq_false_iff (h.slice_positive _ ha) (h.slice_positive _ hb)).mp hmeets
  gapless position := by
    rw [h.gapless position, Int.zero_add]
  inside before last hslices := by
    have hend : last.bitEnd = row.componentBits := by
      show last.bitOffset + last.bits = _
      rw [h.stacked hslices, FieldRow.componentBits, ← h.sum_bits, hslices]
      simp
    rw [hend]
    exact hroom

end Tiles

end LinkContext

/-! ## Carriers of a linked model -/

/-- A field carries the components of its row, if there are any. -/
structure CarriesRow (row : FieldRow) (field : SingleField) : Prop where
  number : field.number = row.number
  name : field.name = row.name
  slices : row.components ≠ [] → ∃ base slices, field.type.base? = some base ∧
    field.shape = .packed row.extent slices ∧ LaidOut row base slices

/-- A field carries the components of a main field and of its subfields: those of the main field
by itself or by its default, those of each subfield by the variant in the same place. -/
inductive CarriesBlock (block : FieldBlock) : Field → Prop where
  | single {field : SingleField} (alone : block.subfields = [])
    (main : CarriesRow block.main field) : CarriesBlock block (.single field)
  | dynamic {standard : SingleField} {variants : List (Field × List Condition)}
    (main : CarriesRow block.main standard)
    (subfields : List.Forall₂ (fun sub variant => ∃ field, variant.1 = .single field ∧
      CarriesRow sub field) block.subfields variants) :
    CarriesBlock block (.dynamic (.single standard) variants)

namespace LinkContext

variable {c : LinkContext}

/-- A linked row whose components fit carries them. -/
theorem Links.carriesRow {row : FieldRow} {field : SingleField} (h : c.Links row field)
    (hpacks : row.components ≠ [] → c.message.Packs c.meaning? row) : CarriesRow row field where
  number := h.number
  name := h.name
  slices hne := by
    obtain ⟨m, hm, -, hroom⟩ := (hpacks hne).carrier
    obtain ⟨m', hm', -, hbase⟩ := TypeTable.meaning?_of_lookup? h.type
    obtain rfl : m = m' := Option.some.inj (hm.symm.trans hm')
    have hshape := h.shape
    generalize hfield : field.shape = shape at hshape
    cases hshape with
    | plain single => exact absurd single hne
    | array single => exact absurd single hne
    | packed _ tiles => exact ⟨m.base, _, hbase, rfl, tiles.laidOut hroom⟩

theorem BlockLinks.carriesBlock {block : FieldBlock} {field : Field} (h : c.BlockLinks block field)
    (hpacks : ∀ row ∈ block.main :: block.subfields,
      row.components ≠ [] → c.message.Packs c.meaning? row) : CarriesBlock block field := by
  obtain ⟨hmain, hsubs⟩ := List.forall_mem_cons.mp hpacks
  cases h with
  | single alone links => exact .single alone (links.carriesRow hmain)
  | dynamic _ links variantLinks =>
    refine .dynamic (links.carriesRow hmain) (List.forall₂_map_right_iff.mpr ?_)
    refine List.Forall₂.imp ?_ ((List.forall₂_and_left _ _).mpr ⟨hsubs, variantLinks⟩)
    rintro sub variant ⟨hsub, hlinks⟩
    exact ⟨variant.field, rfl, hlinks.field.carriesRow hsub⟩

/-- Each block of a linked message has a field that carries its components. -/
theorem exists_carriesBlock {fields : List Field}
    (hchecked : c.checkBlocks [] c.message.fields = .ok ()) (h : c.linkFields = .ok fields)
    {block : FieldBlock} (hblock : block ∈ c.message.fields) :
    ∃ field ∈ fields, CarriesBlock block field := by
  have hconsistent := c.consistent_iff.mpr ⟨hchecked, fields, h⟩
  obtain ⟨field, hfield, hlinks⟩ := exists_blockLinks h hblock
  refine ⟨field, hfield, hlinks.carriesBlock fun row hrow => hconsistent.packed row ?_⟩
  exact List.mem_flatMap.mpr ⟨block, hblock, hrow⟩

end LinkContext

/-! ## Components that overlap are never reported -/

/-- A computation that never ends with components that overlap. -/
def SparesOverlap {α : Type} (x : Except Fault α) : Prop :=
  ∀ earlier later location, x ≠ .error (.integrity (.componentsOverlap earlier later) location)

namespace SparesOverlap

variable {α β : Type} {x : Except Fault α}

theorem ok (a : α) : SparesOverlap (.ok a) := nofun

theorem integrity {cause : IntegrityCause} (location : Location)
    (h : ∀ earlier later, cause ≠ .componentsOverlap earlier later) :
    SparesOverlap (.error (.ofIntegrity cause location) : Except Fault α) := by
  intro earlier later other heq
  rcases Fault.ofIntegrity_cases cause location with hlong | hworded
  · rw [hlong] at heq
    cases heq
  · rw [hworded] at heq
    cases heq
    exact h earlier later rfl

theorem bind {f : α → Except Fault β} (hx : SparesOverlap x) (hf : ∀ a, SparesOverlap (f a)) :
    SparesOverlap (x >>= f) := by
  cases x with
  | ok a => exact hf a
  | error fault =>
    rintro earlier later location ⟨⟩
    exact hx earlier later location rfl

theorem map {f : α → β} (hx : SparesOverlap x) : SparesOverlap (x.map f) := by
  intro earlier later location heq
  exact hx earlier later location (map_eq_error.mp heq)

theorem mapM {f : β → Except Fault α} {list : List β} (hf : ∀ b, SparesOverlap (f b)) :
    SparesOverlap (list.mapM f) := by
  intro earlier later location heq
  obtain ⟨b, -, hb⟩ := exists_of_mapM_eq_error heq
  exact hf b earlier later location hb

end SparesOverlap

namespace LinkContext

open SparesOverlap

variable (c : LinkContext)

theorem sparesOverlap_linkComponents (carrier : FieldRow) (offset : Int)
    (entries : List ComponentEntry) :
    SparesOverlap (c.linkComponents carrier offset entries) := by
  induction entries generalizing offset with
  | nil => exact .ok _
  | cons entry rest ih =>
    unfold linkComponents
    split
    next => exact .integrity _ nofun
    next =>
      split
      next => exact .integrity _ nofun
      next =>
        split
        next => exact .integrity _ nofun
        next => exact (ih _).bind fun _ => .ok _

/-- The slices made of components do not meet, so the check finds no overlap. -/
theorem sparesOverlap_linkSlices (field : FieldRow) (type : FieldType) :
    SparesOverlap (c.linkSlices field type) := by
  unfold linkSlices
  split
  next => exact .integrity _ nofun
  next base _ =>
    intro earlier later location heq
    rcases bind_eq_error.mp heq with hcomponents | ⟨slices, hslices, hcheck⟩
    · exact c.sparesOverlap_linkComponents _ _ _ _ _ _ hcomponents
    · have htiles := linkComponents_eq_ok.mp hslices
      split at hcheck
      next => cases hcheck
      next fault hfault =>
        cases fault with
        | beyondCarrier slice width =>
          have hspares : SparesOverlap (.error (.ofIntegrity (.componentBeyondCarrier slice.name
              slice.bitOffset (slice.bitEnd - 1) field.name width) (c.fieldLocation field)) :
              Except Fault (List Slice)) := .integrity _ nofun
          exact hspares _ _ _ hcheck
        | notMeasurable slice => cases hcheck
        | overlap first second =>
          exact Slice.check_ne_overlap (by simp) htiles.pairwise first second hfault

theorem sparesOverlap_linkSingle (field : FieldRow) : SparesOverlap (c.linkSingle field) := by
  unfold linkSingle
  split
  next => exact .integrity _ nofun
  next type _ =>
    refine SparesOverlap.bind ?_ fun _ => .ok _
    unfold linkShape
    split
    next => exact (c.sparesOverlap_linkSlices field type).map
    next => split <;> exact .ok _

theorem sparesOverlap_referenceValue (sub reference : FieldRow) (text : String) :
    SparesOverlap (c.referenceValue sub reference text) := by
  unfold referenceValue
  split
  next => exact .integrity _ nofun
  next =>
    split
    next => exact .ok _
    next =>
      split
      next => exact .integrity _ nofun
      next =>
        split
        next => exact .integrity _ nofun
        next =>
          split
          next => exact .ok _
          next => exact .integrity _ nofun

theorem sparesOverlap_linkConditions (sub : FieldRow) (conditions : List Condition)
    (references : List (String × String)) :
    SparesOverlap (c.linkConditions sub conditions references) := by
  induction references generalizing conditions with
  | nil => exact .ok _
  | cons reference rest ih =>
    unfold linkConditions
    split
    next => exact .integrity _ fun _ _ h => IntegrityCause.noConfusion h
    next =>
      split
      next => exact .integrity _ fun _ _ h => IntegrityCause.noConfusion h
      next =>
        refine (c.sparesOverlap_referenceValue _ _ _).bind fun value => ?_
        split
        next =>
          show SparesOverlap (.error (.ofIntegrity (.duplicateReferenceValue _ _) _))
          exact .integrity _ fun _ _ h => IntegrityCause.noConfusion h
        next => exact ih _

theorem sparesOverlap_linkSubfields (subs : List FieldRow) :
    SparesOverlap (c.linkSubfields subs) := by
  rw [linkSubfields_eq_mapM]
  refine SparesOverlap.mapM fun sub => (c.sparesOverlap_linkSingle sub).bind fun _ => ?_
  exact (c.sparesOverlap_linkConditions _ _ _).bind fun _ => .ok _

theorem sparesOverlap_checkClaims (taken claims : List Claim) :
    SparesOverlap (c.checkClaims taken claims) := by
  induction claims generalizing taken with
  | nil => exact .ok _
  | cons claim rest ih =>
    unfold checkClaims
    split
    next => exact .integrity _ nofun
    next => exact ih _

theorem sparesOverlap_linkBlock (block : FieldBlock) : SparesOverlap (c.linkBlock block) := by
  unfold linkBlock
  by_cases hrefs : block.main.hasReference = true
  · rw [if_pos hrefs]
    show SparesOverlap (.error (.ofIntegrity .referenceOnMainField _))
    exact .integrity _ nofun
  · rw [if_neg hrefs]
    refine (c.sparesOverlap_linkSingle _).bind fun field => ?_
    split
    next => exact .ok _
    next =>
      refine (c.sparesOverlap_linkSubfields _).bind fun variants => ?_
      exact (c.sparesOverlap_checkClaims _ _).bind fun _ => .ok _

theorem sparesOverlap_linkFields : SparesOverlap c.linkFields := by
  unfold linkFields
  rw [linkBlocks_eq_mapM]
  exact .mapM c.sparesOverlap_linkBlock

theorem sparesOverlap_checkBlocks (known : List FieldRow) (blocks : List FieldBlock) :
    SparesOverlap (c.checkBlocks known blocks) := by
  induction blocks generalizing known with
  | nil => exact .ok _
  | cons block rest ih =>
    unfold checkBlocks
    split
    next => exact .integrity _ nofun
    next =>
      split
      next => exact .integrity _ nofun
      next => exact ih _

end LinkContext

namespace TypeTable

open SparesOverlap

theorem sparesOverlap_baseNamed (name : String) : SparesOverlap (baseNamed name) := by
  unfold baseNamed
  split <;> nofun

theorem sparesOverlap_addDeclared (sheet : Option String) (known : List TypeDef)
    (blocks : List TypeBlock) : SparesOverlap (addDeclared sheet known blocks) := by
  induction blocks generalizing known with
  | nil => exact .ok _
  | cons block rest ih =>
    unfold addDeclared
    split
    next => exact .integrity _ fun _ _ h => IntegrityCause.noConfusion h
    next =>
      refine SparesOverlap.bind ?_ fun _ => ih _
      exact (sparesOverlap_baseNamed _).bind fun _ => .ok _

theorem sparesOverlap_addImplicit (known : List TypeDef) (entries : List (String × String)) :
    SparesOverlap (addImplicit known entries) := by
  induction entries generalizing known with
  | nil => exact .ok _
  | cons entry rest ih =>
    unfold addImplicit
    split
    next => exact ih _
    next => exact (sparesOverlap_baseNamed _).bind fun _ => ih _

end TypeTable

namespace Model

theorem sparesOverlap_messageNumber (c : LinkContext) (numbers : TypeDef) (known : List Message) :
    SparesOverlap (messageNumber c numbers known) := by
  unfold messageNumber
  dsimp only
  split
  next => exact .integrity _ nofun
  next =>
    split
    next => exact .integrity _ nofun
    next =>
      split
      next => exact .integrity _ nofun
      next =>
        split
        next => exact .integrity _ nofun
        next => exact .ok _

theorem sparesOverlap_linkMessages (sheet : Option String) (types : List TypeDef)
    (numbers : TypeDef) (known : List Message) (blocks : List MessageBlock) :
    SparesOverlap (linkMessages sheet types numbers known blocks) := by
  induction blocks generalizing known with
  | nil => exact .ok _
  | cons block rest ih =>
    refine SparesOverlap.bind ?_ fun _ => ih _
    refine (LinkContext.sparesOverlap_checkBlocks _ _ _).bind fun _ => ?_
    refine (sparesOverlap_messageNumber _ _ _).bind fun _ => ?_
    exact (LinkContext.sparesOverlap_linkFields _).bind fun _ => .ok _

theorem sparesOverlap_ofDraft (rules : RuleSet) (version : Version) (draft : Draft) :
    SparesOverlap (ofDraft rules version draft) := by
  refine SparesOverlap.bind ?_ fun types => ?_
  · exact (TypeTable.sparesOverlap_addDeclared _ _ _).bind fun _ =>
      TypeTable.sparesOverlap_addImplicit _ _
  · refine SparesOverlap.bind ?_ fun numbers => ?_
    · unfold messageNumberType
      split
      next => exact .ok _
      next => exact .integrity _ nofun
    · exact (sparesOverlap_linkMessages _ _ _ _ _).bind fun _ => .ok _

/-! ## The whole draft -/

/-- In a linked model each row with components has a field that carries them. Linking never
reports that components overlap, since the check on the slices of a carrier never finds any that
do. -/
theorem slices_of_ofDraft (rules : RuleSet) (version : Version) (draft : Draft) :
    (∀ model, ofDraft rules version draft = .ok model → ∀ block ∈ draft.messages,
      ∃ message ∈ model.messages, message.name = block.name ∧
        ∀ rows ∈ block.fields, ∃ field ∈ message.fields, CarriesBlock rows field) ∧
    (∀ earlier later location, ofDraft rules version draft ≠
      .error (.integrity (.componentsOverlap earlier later) location)) ∧
    ∀ (c : LinkContext) carrier slices, c.linkComponents carrier 0 carrier.components = .ok slices →
      ∀ width earlier later, Slice.check width [] slices ≠ .error (.overlap earlier later) := by
  refine ⟨?_, sparesOverlap_ofDraft rules version draft, ?_⟩
  · intro model h block hblock
    obtain ⟨-, -, numbers, linked, -, hall, -, -, hmessages, -⟩ := ofDraft_eq_ok h
    obtain ⟨message, hmem, hlinks⟩ := forall₂_exists_of_mem hall hblock
    refine ⟨message, ?_, hlinks.name, fun rows hrows => ?_⟩
    · rw [hmessages]
      exact (Order.sortBy_perm _ linked).mem_iff.mpr hmem
    · exact LinkContext.exists_carriesBlock hlinks.checked hlinks.fields hrows
  · intro c carrier slices hslices width earlier later
    exact Slice.check_ne_overlap (by simp) (LinkContext.linkComponents_eq_ok.mp hslices).pairwise
      earlier later

/-- A workbook with a record message: three bytes carry speed and distance, or the distance
alone, according to the kind of the record. -/
def packedBook : Workbook where
  sheets :=
    [("Version", [["21.0"]]),
     ("Types",
      [["Type Name", "Base Type", "Value Name", "Value", "Comment"],
       ["mesg_num", "uint16"], ["", "", "record", "20"]]),
     ("Messages",
      [["Message Name", "Field Def #", "Field Name", "Field Type", "Array", "Components", "Scale",
        "Offset", "Units", "Bits", "Accumulate", "Ref Field Name", "Ref Field Value", "Comment"],
       ["record"],
       ["", "8", "packed", "byte", "[3]", "speed,distance", "100,16", "", "", "12,12"],
       ["", "", "packed_distance", "uint16", "", "distance", "16", "", "", "16", "", "kind", "1"],
       ["", "5", "distance", "uint32"],
       ["", "6", "speed", "uint16"],
       ["", "7", "kind", "uint8"]])]

/-- The components of the record workbook fill all three bytes, or the two of the subfield. -/
theorem packedBook_slices : ∃ draft model,
    (Draft.ofWorkbook .sdk20 ⟨21, 0⟩ packedBook).outcome = .ok draft ∧
      ofDraft .sdk20 ⟨21, 0⟩ draft = .ok model ∧
      (draft.messages.map fun message => message.rows.map FieldRow.componentBits) =
        [[24, 16, 0, 0, 0]] ∧
      ∀ block ∈ draft.messages, ∃ message ∈ model.messages, message.name = block.name ∧
        ∀ rows ∈ block.fields, ∃ field ∈ message.fields, CarriesBlock rows field :=
  ⟨_, _, rfl, rfl, rfl, (slices_of_ofDraft .sdk20 ⟨21, 0⟩ _).1 _ rfl⟩

end Model

end FitProfile
