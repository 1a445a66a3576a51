import FitProfile.Proofs.Drafting
import FitProfile.Proofs.Linking.Messages
import FitProfile.RuleSet.Registry
/-!
# FitProfile.Proofs.Linking.Integrity -- references of linked models

In a model that is linked from a workbook every reference leads somewhere: names lead to
messages and types, numbers to fields, types to the types of the model, and slices and
conditions to other fields of their own message. `Model.Intact` gathers this. It is proved
from the relations between rows and linked fields, together with what reading a workbook
leaves to linking.
-/

namespace FitProfile

open FitProfile.Draft FitProfile.Outcome

/-! ## What intact means -/

/-- A base type, or exactly the type that the model has under that name. -/
def FieldType.BelongsTo (model : Model) : FieldType → Prop
  | .base _ => True
  | .declared t => model.type? t.name = some t
  | .foreign _ => False
  | .invalid _ => False

/-- A name and a number that a field of number `carrier` states lead to one field of the
message, which is not the carrier. -/
structure Message.LeadsTo (message : Message) (carrier : Int) (name : String) (number : Int) :
    Prop where
  other : number ≠ carrier
  field : ∃ field, message.field? number = some field ∧ field.name = name

/-- A known shape, of an extent that sheets can state; a packed field has slices, and each
of them leads to another field. -/
def Shape.Intact (message : Message) (carrier : Int) : Shape → Prop
  | .plain => True
  | .array extent => extent.isSome ∧ Extent.IsArraySize extent
  | .packed extent slices => Extent.IsArraySize extent ∧ slices ≠ [] ∧
    ∀ slice ∈ slices, message.LeadsTo carrier slice.name slice.number
  | .unknown _ => False

/-- A field whose type and slices lead somewhere. -/
structure SingleField.Intact (model : Model) (message : Message) (field : SingleField) : Prop where
  type : field.type.BelongsTo model
  shape : field.shape.Intact message field.number

/-- Conditions of a field: at least one, each with at least one value, and each on another
field; no two of them on the same one. -/
structure Condition.Intact (message : Message) (carrier : Int) (conditions : List Condition) :
    Prop where
  nonempty : conditions ≠ []
  grouped : Condition.Grouped conditions
  leads : ∀ condition ∈ conditions, message.LeadsTo carrier condition.name condition.number

/-- A field of a message: single, or a single default with single variants of the same
number. -/
inductive Field.Intact (model : Model) (message : Message) : Field → Prop where
  | single {field : SingleField} (intact : field.Intact model message) :
      Field.Intact model message (.single field)
  | dynamic {standard : SingleField} {variants : List (Field × List Condition)}
      (intact : standard.Intact model message) (nonempty : variants ≠ [])
      (variantsIntact : ∀ variant ∈ variants, ∃ field, variant.1 = .single field ∧
        field.number = standard.number ∧ field.Intact model message ∧
        Condition.Intact message field.number variant.2) :
      Field.Intact model message (.dynamic (.single standard) variants)

/-- A message whose fields ascend strictly, are found by their numbers, and are intact. -/
structure Message.Intact (model : Model) (message : Message) : Prop where
  ascending : message.fields.Pairwise fun a b => a.number < b.number
  found : ∀ field ∈ message.fields, message.field? field.number = some field
  fields : ∀ field ∈ message.fields, field.Intact model message

/-- A model all of whose references lead somewhere. -/
structure Model.Intact (model : Model) : Prop where
  ascending : model.messages.Pairwise fun a b => a.number < b.number
  names : (model.messages.map Message.name).Nodup
  messagesFound : ∀ message ∈ model.messages, model.message? message.name = some message
  typesFound : ∀ type ∈ model.types, model.type? type.name = some type
  messages : ∀ message ∈ model.messages, message.Intact model

/-! ## Fields of a linked message -/

namespace LinkContext

variable {c : LinkContext} {message : Message}

theorem BlockLinks.number_eq {block : FieldBlock} {field : Field} (h : c.BlockLinks block field) :
    field.number = block.main.number := by
  cases h with
  | single _ links => exact links.number
  | dynamic _ links _ => exact links.number

theorem BlockLinks.name_eq {block : FieldBlock} {field : Field} (h : c.BlockLinks block field) :
    field.name = block.main.name := by
  cases h with
  | single _ links => exact links.name
  | dynamic _ links _ => exact links.name

/-- The fields of a linked message, each with its block. -/
theorem blockLinks_of_linkFields {fields : List Field} (h : c.linkFields = .ok fields) :
    List.Forall₂ c.BlockLinks c.orderedBlocks fields :=
  (linkBlocks_eq_ok.mp h).imp fun _ _ => linkBlock_links

/-- Each block of a linked message has a field. -/
theorem exists_blockLinks {fields : List Field} (h : c.linkFields = .ok fields) {block : FieldBlock}
    (hblock : block ∈ c.message.fields) : ∃ field ∈ fields, c.BlockLinks block field :=
  forall₂_exists_of_mem (blockLinks_of_linkFields h) (mem_orderedBlocks.mpr hblock)

/-- Each field of a linked message has a block. -/
theorem exists_blockLinks_of_mem {fields : List Field} (h : c.linkFields = .ok fields)
    {field : Field} (hfield : field ∈ fields) :
    ∃ block ∈ c.message.fields, c.BlockLinks block field := by
  obtain ⟨block, hblock, hlinks⟩ := forall₂_exists_of_mem_right (blockLinks_of_linkFields h) hfield
  exact ⟨block, mem_orderedBlocks.mp hblock, hlinks⟩

/-- A name of a main field leads to the block of that field, and so to the linked field. -/
theorem exists_blockLinks_of_main? {fields : List Field} (h : c.linkFields = .ok fields)
    {name : String} {target : FieldRow} (hfound : c.main? name = some target) :
    ∃ block : FieldBlock, block.main = target ∧ target.name = name ∧
      ∃ field ∈ fields, c.BlockLinks block field := by
  obtain ⟨block, hblock, rfl⟩ := Option.map_eq_some_iff.mp hfound
  have hname : block.main.name = name := by simpa using List.find?_some hblock
  exact ⟨block, rfl, hname, exists_blockLinks h (List.mem_of_find?_eq_some hblock)⟩

theorem map_number_of_blockLinks {blocks : List FieldBlock} {fields : List Field}
    (h : List.Forall₂ c.BlockLinks blocks fields) :
    fields.map Field.number = blocks.map fun block => block.main.number := by
  induction h with
  | nil => rfl
  | cons hblock _ ih => rw [List.map_cons, List.map_cons, ih, hblock.number_eq]

/-- Sorting leaves the blocks of a checked message in strictly ascending order. -/
theorem ascending_of_linkFields {fields : List Field}
    (hchecked : c.checkBlocks [] c.message.fields = .ok ()) (h : c.linkFields = .ok fields) :
    fields.Pairwise fun a b => a.number < b.number := by
  obtain ⟨hnumbers, -⟩ := (checkBlocks_eq_ok (by simp) (by simp)).mp hchecked
  rw [List.nil_append, List.map_map] at hnumbers
  have hblocks : c.orderedBlocks.Pairwise fun a b => a.main.number < b.main.number :=
    Order.pairwise_lt_sortBy_key (fun block : FieldBlock => block.main.number) hnumbers
  have hnumber := map_number_of_blockLinks (blockLinks_of_linkFields h)
  have hmapped : (fields.map Field.number).Pairwise (· < ·) := by
    rw [hnumber]
    exact List.pairwise_map.mpr hblocks
  exact List.pairwise_map.mp hmapped

/-- Strictly ascending fields are found by their numbers. -/
theorem field?_of_ascending (h : message.fields.Pairwise fun a b => a.number < b.number)
    {field : Field} (hmem : field ∈ message.fields) :
    message.field? field.number = some field := by
  refine find?_of_nodup_map (List.pairwise_map.mpr (h.imp ?_)) hmem
  intro a b hab
  exact Int.ne_of_lt hab

/-- A main field that a name leads to is a field of the linked message. -/
theorem leadsTo_of_main? (hfields : c.linkFields = .ok message.fields)
    (hascending : message.fields.Pairwise fun a b => a.number < b.number) {carrier : Int}
    {name : String} {target : FieldRow} (hfound : c.main? name = some target)
    (hother : target.number ≠ carrier) : message.LeadsTo carrier name target.number := by
  obtain ⟨block, rfl, hname, field, hmem, hlinks⟩ := exists_blockLinks_of_main? hfields hfound
  refine ⟨hother, field, ?_, ?_⟩
  · rw [← hlinks.number_eq]
    exact field?_of_ascending hascending hmem
  · rw [hlinks.name_eq, hname]

/-- A type that a table gives out belongs to every model over that table. -/
theorem belongsTo_of_lookup? {model : Model} {name : String} {type : FieldType}
    (h : TypeTable.lookup? model.types name = some type) : type.BelongsTo model := by
  obtain ⟨b, rfl, -⟩ | ⟨t, rfl, ht⟩ := TypeTable.lookup?_eq_some h
  · trivial
  · show TypeTable.find? model.types t.name = some t
    rw [(TypeTable.find?_eq_some_name ht).1, ht]

/-- A name that leads to another main field leads to another field of the message. -/
def Resolves (c : LinkContext) (message : Message) : Prop :=
  ∀ carrier name target, c.main? name = some target → target.number ≠ carrier →
    message.LeadsTo carrier name target.number

theorem Links.intact {model : Model} (htypes : c.types = model.types)
    (hresolves : c.Resolves message) {row : FieldRow} (hrow : row.toFieldSpec.WellFormed)
    {field : SingleField} (h : c.Links row field) : field.Intact model message := by
  refine ⟨belongsTo_of_lookup? (htypes ▸ h.type), ?_⟩
  have hshape := h.shape
  cases hfield : field.shape with
  | plain => trivial
  | array extent =>
    rw [hfield] at hshape
    cases hshape with
    | array single sized =>
      refine ⟨rfl, ?_⟩
      rw [← sized]
      exact hrow.sized
  | packed extent slices =>
    rw [hfield] at hshape
    cases hshape with
    | packed several tiles =>
      refine ⟨hrow.sized, tiles.slices_ne_nil several, ?_⟩
      intro slice hslice
      obtain ⟨target, hfound, hnumber, hother⟩ := tiles.slice_target hslice
      rw [hnumber, h.number]
      exact hresolves _ _ _ hfound hother
  | unknown kind =>
    rw [hfield] at hshape
    cases hshape

theorem VariantLinks.conditions_intact (hresolves : c.Resolves message) {sub : FieldRow}
    {variant : Variant} (h : c.VariantLinks sub variant) (hrefs : sub.references ≠ []) :
    Condition.Intact message variant.field.number variant.conditions := by
  obtain ⟨hgrouped, hnumbers, selections, hall, hperm⟩ := linkConditions_spec h.conditions
  refine ⟨?_, hgrouped, ?_⟩
  · -- without conditions nothing is selected, so nothing was referred to
    intro hnil
    rw [hnil] at hperm
    have hselections : selections = [] := List.nil_perm.mp hperm
    rw [hselections, List.forall₂_nil_right_iff] at hall
    exact hrefs hall
  · intro condition hmem
    obtain ⟨target, hfound, hnumber⟩ := hnumbers condition hmem
    rw [hnumber, h.field.number]
    refine hresolves _ _ _ hfound ?_
    -- the condition holds some selection, which is not of the subfield itself
    obtain ⟨v, hv⟩ := List.exists_mem_of_ne_nil _ (hgrouped.2 condition hmem)
    have hflat : (⟨condition.name, condition.number, v.1, v.2⟩ : Selection) ∈
        Condition.flatten variant.conditions :=
      Condition.mem_flatten.mpr ⟨condition, hmem, rfl, rfl, hv⟩
    obtain ⟨reference, -, -, hother⟩ :=
      forall₂_exists_of_mem_right hall (hperm.mem_iff.mp hflat)
    exact hnumber ▸ hother

theorem BlockLinks.intact {model : Model} (htypes : c.types = model.types)
    (hresolves : c.Resolves message) {block : FieldBlock} (hblock : block.WellFormed)
    {field : Field} (h : c.BlockLinks block field) : field.Intact model message := by
  cases h with
  | single _ links => exact .single (links.intact htypes hresolves hblock.main)
  | @dynamic standard variants several links variantLinks =>
    refine .dynamic (links.intact htypes hresolves hblock.main) ?_ ?_
    · intro hnil
      rw [List.map_eq_nil_iff.mp hnil, List.forall₂_nil_right_iff] at variantLinks
      exact several variantLinks
    · intro pair hpair
      obtain ⟨variant, hvariant, rfl⟩ := List.mem_map.mp hpair
      obtain ⟨sub, hsub, hlinks⟩ := forall₂_exists_of_mem_right variantLinks hvariant
      obtain ⟨hspec, -, hnumber⟩ := hblock.subfields sub hsub
      refine ⟨variant.field, rfl, ?_, hlinks.field.intact htypes hresolves hspec, ?_⟩
      · rw [hlinks.field.number, links.number, hnumber]
      · exact hlinks.conditions_intact hresolves (hblock.references_ne_nil hsub)

end LinkContext

/-! ## Linked models -/

namespace Model

variable {rules : RuleSet} {version : Version} {draft : Draft} {model : Model}

theorem MessageLinks.intact {c : LinkContext} {numbers : TypeDef} {message : Message}
    (htypes : c.types = model.types)
    (hblocks : ∀ block ∈ c.message.fields, block.WellFormed)
    (h : MessageLinks c numbers message) : message.Intact model := by
  have hascending := LinkContext.ascending_of_linkFields h.checked h.fields
  have hresolves : c.Resolves message := fun carrier name target hfound hother =>
    LinkContext.leadsTo_of_main? h.fields hascending hfound hother
  refine ⟨hascending, fun field hfield => LinkContext.field?_of_ascending hascending hfield, ?_⟩
  intro field hfield
  obtain ⟨block, hblock, hlinks⟩ := LinkContext.exists_blockLinks_of_mem h.fields hfield
  exact hlinks.intact htypes hresolves (hblocks block hblock)

/-- The parts of a linked model: its types, and messages that link over them. -/
theorem ofDraft_eq_ok (h : ofDraft rules version draft = .ok model) :
    TypeTable.ofDraft rules draft.types = .ok model.types ∧ model.version = version ∧
      ∃ numbers linked, messageNumberType rules model.types = .ok numbers ∧
        List.Forall₂ (fun block message =>
          MessageLinks ⟨rules.messagesSheet, model.types, block⟩ numbers message)
          draft.messages linked ∧
        (linked.map Message.name).Nodup ∧ (linked.map Message.number).Nodup ∧
        model.messages = Order.sortBy (fun a b => decide (a.number ≤ b.number)) linked ∧
        model.unmatched = unmatchedNames numbers model.messages := by
  obtain ⟨types, htypes, h⟩ := bind_eq_ok.mp h
  obtain ⟨numbers, hnumbers, h⟩ := bind_eq_ok.mp h
  obtain ⟨linked, hlinked, hpure⟩ := bind_eq_ok.mp h
  cases hpure
  obtain ⟨added, hadded, hall, hnames, hapart⟩ :=
    (linkMessages_eq_ok (by simp) (by simp)).mp hlinked
  rw [List.nil_append] at hadded hnames hapart
  subst hadded
  exact ⟨htypes, rfl, numbers, linked, hnumbers, hall, hnames, hapart, rfl, rfl⟩

/-- In a linked model the blocks of the draft and the messages correspond, under one type that
numbers the messages; the names of its values that no message bears are listed. -/
theorem messageLinks_of_ofDraft (h : ofDraft rules version draft = .ok model) :
    ∃ numbers, messageNumberType rules model.types = .ok numbers ∧
      model.unmatched = unmatchedNames numbers model.messages ∧
      (∀ block ∈ draft.messages, ∃ message ∈ model.messages,
        MessageLinks ⟨rules.messagesSheet, model.types, block⟩ numbers message) ∧
      ∀ message ∈ model.messages, ∃ block ∈ draft.messages,
        MessageLinks ⟨rules.messagesSheet, model.types, block⟩ numbers message := by
  obtain ⟨-, -, numbers, linked, hnumbers, hall, -, -, hmessages, hunmatched⟩ := ofDraft_eq_ok h
  -- sorting the messages keeps all of them
  have hmem : ∀ message, message ∈ model.messages ↔ message ∈ linked := by
    intro message
    rw [hmessages, Order.mem_sortBy]
  refine ⟨numbers, hnumbers, hunmatched, ?_, ?_⟩
  · intro block hblock
    obtain ⟨message, hmessage, hlinks⟩ := forall₂_exists_of_mem hall hblock
    exact ⟨message, (hmem message).mpr hmessage, hlinks⟩
  · intro message hmessage
    exact forall₂_exists_of_mem_right hall ((hmem message).mp hmessage)

/-- Linking a well formed draft gives an intact model. -/
theorem intact_of_wellFormed (hdraft : draft.WellFormed)
    (h : ofDraft rules version draft = .ok model) : model.Intact := by
  obtain ⟨htypes, -, numbers, linked, -, hall, hnames, hnumbers, hmessages, -⟩ := ofDraft_eq_ok h
  have hperm : model.messages.Perm linked := hmessages ▸ Order.sortBy_perm _ linked
  have hdistinct : (model.messages.map Message.name).Nodup :=
    (hperm.map Message.name).nodup_iff.mpr hnames
  obtain ⟨-, htypeNames, -⟩ := TypeTable.ofDraft_eq_ok htypes
  -- sorting moves the messages, but a name or a number that is apart stays apart
  refine ⟨?_, hdistinct, fun message hmem => find?_of_nodup_map hdistinct hmem,
    fun type hmem => find?_of_nodup_map htypeNames hmem, ?_⟩
  · rw [hmessages]
    exact Order.pairwise_lt_sortBy_key Message.number hnumbers
  · intro message hmem
    obtain ⟨block, hblock, hlinks⟩ := forall₂_exists_of_mem_right hall (hperm.mem_iff.mp hmem)
    exact hlinks.intact rfl (hdraft.blocks block hblock)

/-- Every model that is linked from a workbook is intact. -/
theorem intact_of_ofWorkbook (rules : RuleSet) (version : Version) (book : Workbook)
    (draft : Draft) (model : Model)
    (hdraft : (Draft.ofWorkbook rules version book).outcome = .ok draft)
    (hmodel : ofDraft rules version draft = .ok model) : model.Intact :=
  intact_of_wellFormed (wellFormed_of_ofWorkbook hdraft) hmodel

/-- A model that a workbook is read and linked to. -/
def LinkedFrom (model : Model) (rules : RuleSet) (version : Version) (book : Workbook) : Prop :=
  ∃ draft, (Draft.ofWorkbook rules version book).outcome = .ok draft ∧
    ofDraft rules version draft = .ok model

theorem LinkedFrom.intact {book : Workbook} (h : model.LinkedFrom rules version book) :
    model.Intact := by
  obtain ⟨draft, hdraft, hmodel⟩ := h
  exact intact_of_wellFormed (wellFormed_of_ofWorkbook hdraft) hmodel

/-- A workbook with an event message: the kind of the event, data that is a trigger for
timer events, and shorter data whose bits carry the data. -/
def eventBook : Workbook where
  sheets :=
    [("Version", [["21.0"]]),
     ("Types",
      [["Type Name", "Base Type", "Value Name", "Value", "Comment"],
       ["mesg_num", "uint16"], ["", "", "event", "21"],
       ["event", "enum"], ["", "", "timer", "0"], ["", "", "workout", "3"]]),
     ("Messages",
      [["Message Name", "Field Def #", "Field Name", "Field Type", "Array", "Components", "Scale",
        "Offset", "Units", "Bits", "Accumulate", "Ref Field Name", "Ref Field Value", "Comment"],
       ["event"],
       ["", "3", "data", "uint32"],
       ["", "", "timer_trigger", "uint16", "", "", "", "", "", "", "", "event,event", "timer,0x05"],
       ["", "0", "event", "event"],
       ["", "2", "data16", "uint16", "", "data", "", "", "", "16"]])]

/-- The event workbook links to one message of three fields, and what it links to is
intact. -/
theorem eventBook_intact : ∃ draft model,
    (Draft.ofWorkbook .sdk20 ⟨21, 0⟩ eventBook).outcome = .ok draft ∧
      ofDraft .sdk20 ⟨21, 0⟩ draft = .ok model ∧
      (model.messages.map fun message => message.fields.map Field.name) =
        [["event", "data16", "data"]] ∧ model.Intact :=
  ⟨_, _, rfl, rfl, rfl, intact_of_ofWorkbook .sdk20 ⟨21, 0⟩ eventBook _ _ rfl rfl⟩

end Model

end FitProfile
