import FitProfile.Proofs.Linking.Integrity
import FitProfile.Proofs.Reading.Correspondence
import Mathlib.Data.List.Perm.Basic
/-!
# FitProfile.Proofs.Linking.Reordering -- linking messages and fields in another order

Linking looks fields up by their names and puts messages and fields in the order of their
numbers. So the order in which a draft lists them does not matter, nor do the rows where they
stand: these only show in faults. `Draft.Reordered` relates drafts that differ in this way, and
`ofDraft_reordered` proves that they link to the same model, up to the rows of its messages.

Two contexts agree when they find the same main field under each name. The lemmas below carry
agreement from the components of a field up to the whole message, as each function of linking is
built from those before it.
-/

namespace FitProfile

open FitProfile.Draft FitProfile.Outcome

/-! ## What rows say, without their places -/

namespace Draft

/-- What a field row says, without its place. -/
def FieldRow.content (row : FieldRow) : FieldRow := row.moved fun _ => 0

/-- What a main field and its subfields say, without their places. -/
def FieldBlock.content (block : FieldBlock) : FieldBlock := block.moved fun _ => 0

/-- What the rows of a message say, without their places. -/
def MessageBlock.content (message : MessageBlock) : MessageBlock := message.moved fun _ => 0

/-- Without places there is none to leave out. -/
theorem MessageBlock.map_content_content (messages : List MessageBlock) :
    (messages.map content).map content = messages.map content := by
  rw [List.map_map]
  refine List.map_congr_left fun message _ => ?_
  simp only [Function.comp_def, content, moved, FieldBlock.moved, List.map_map]
  rfl

/-- Field rows that say the same. -/
def FieldRow.Same (row row' : FieldRow) : Prop := row'.content = row.content

theorem FieldRow.Same.exists_row {row row' : FieldRow} (h : row.Same row') :
    ∃ n, row' = ⟨{ row.toFieldSpec with row := n }, row.number⟩ := by
  obtain ⟨⟨⟩, number⟩ := row
  obtain ⟨⟨n, _⟩, number'⟩ := row'
  simp only [Same, content, moved, FieldSpec.moved, mk.injEq, FieldSpec.mk.injEq] at h
  obtain ⟨⟨-, rfl, rfl, rfl, rfl, rfl, rfl, rfl, rfl, rfl, rfl, rfl⟩, rfl⟩ := h
  exact ⟨n, rfl⟩

/-- Blocks that say the same, row by row. -/
structure FieldBlock.Same (block block' : FieldBlock) : Prop where
  main : block.main.Same block'.main
  subfields : List.Forall₂ FieldRow.Same block.subfields block'.subfields

theorem FieldBlock.same_of_content {block block' : FieldBlock}
    (h : block'.content = block.content) : block.Same block' where
  main := congrArg FieldBlock.main h
  subfields := by
    have hsubfields : block'.subfields.map FieldRow.content =
        block.subfields.map FieldRow.content := congrArg FieldBlock.subfields h
    rw [← List.forall₂_eq_eq_eq, List.forall₂_map_left_iff, List.forall₂_map_right_iff]
      at hsubfields
    exact hsubfields.flip

/-- Messages that say the same, but for the order of their fields. -/
structure MessageBlock.Reordered (message message' : MessageBlock) : Prop where
  name : message'.name = message.name
  declaredNumber : message'.declaredNumber = message.declaredNumber
  fields : (message.fields.map FieldBlock.content).Perm (message'.fields.map FieldBlock.content)

end Draft

/-- Drafts that say the same, but for the order of their messages and fields. -/
structure Draft.Reordered (draft draft' : Draft) : Prop where
  types : draft'.types = draft.types
  messages : ∃ between, draft.messages.Perm between ∧
    List.Forall₂ MessageBlock.Reordered between draft'.messages

/-- Messages that say the same, row by row, are in the same order. -/
theorem Draft.reordered_of_content {draft : Draft} {messages messages' : List MessageBlock}
    (h : messages'.map MessageBlock.content = messages.map MessageBlock.content) :
    Draft.Reordered { draft with messages := messages } { draft with messages := messages' } := by
  refine ⟨rfl, messages, .refl messages, ?_⟩
  rw [← List.forall₂_eq_eq_eq, List.forall₂_map_left_iff, List.forall₂_map_right_iff] at h
  refine h.flip.imp fun message message' hcontent => ?_
  have hname : message'.content.name = message.content.name := by rw [hcontent]
  have hdeclared : message'.content.declaredNumber = message.content.declaredNumber := by
    rw [hcontent]
  have hfields : message.content.fields = message'.content.fields := by rw [hcontent]
  exact ⟨hname, hdeclared, .of_eq hfields⟩

/-! ## Contexts that agree -/

namespace LinkContext

/-- Contexts with the same types, which find the same main fields. -/
structure Agrees (c c' : LinkContext) : Prop where
  types : c'.types = c.types
  mains : ∀ name, Option.Rel FieldRow.Same (c.main? name) (c'.main? name)

variable {c c' : LinkContext}

/-- Components of the same field become the same slices. -/
theorem Agrees.linkComponents (hc : c.Agrees c') {row row' : FieldRow} (hrow : row.Same row')
    (offset : Int) (entries : List ComponentEntry) :
    Alike Eq (c.linkComponents row offset entries) (c'.linkComponents row' offset entries) := by
  obtain ⟨n, rfl⟩ := hrow.exists_row
  induction entries generalizing offset with
  | nil => exact .ok rfl
  | cons entry rest ih =>
    have hmain := hc.mains entry.name
    unfold LinkContext.linkComponents
    generalize c.main? entry.name = found, c'.main? entry.name = found' at hmain ⊢
    cases hmain with
    | none => exact .error _ _
    | some hsame =>
      obtain ⟨m, rfl⟩ := hsame.exists_row
      dsimp only
      split
      · exact .error _ _
      · split
        · exact .error _ _
        · refine (ih (offset + entry.bits)).bind fun slices slices' hslices => ?_
          rw [hslices]
          exact .ok rfl

theorem Agrees.linkSlices (hc : c.Agrees c') {row row' : FieldRow} (hrow : row.Same row')
    (type : FieldType) : Alike Eq (c.linkSlices row type) (c'.linkSlices row' type) := by
  have hcomponents := hc.linkComponents hrow 0 row.components
  obtain ⟨n, rfl⟩ := hrow.exists_row
  unfold LinkContext.linkSlices
  split
  · exact .error _ _
  · refine hcomponents.bind fun slices slices' hslices => ?_
    rw [hslices]
    dsimp only
    split
    · exact .ok rfl
    · exact .error _ _

theorem Agrees.linkShape (hc : c.Agrees c') {row row' : FieldRow} (hrow : row.Same row')
    (type : FieldType) : Alike Eq (c.linkShape row type) (c'.linkShape row' type) := by
  have hslices := hc.linkSlices hrow type
  obtain ⟨n, rfl⟩ := hrow.exists_row
  unfold LinkContext.linkShape
  dsimp only
  split
  · exact hslices.map fun _ _ h => by rw [h]
  · split <;> exact .ok rfl

/-- A row links to the same field in both contexts. -/
theorem Agrees.linkSingle (hc : c.Agrees c') {row row' : FieldRow} (hrow : row.Same row') :
    Alike Eq (c.linkSingle row) (c'.linkSingle row') := by
  have hshape := hc.linkShape hrow
  obtain ⟨n, rfl⟩ := hrow.exists_row
  unfold LinkContext.linkSingle
  rw [hc.types]
  dsimp only
  split
  · exact .error _ _
  next type _ =>
    refine (hshape type).bind fun shape shape' h => ?_
    rw [h]
    exact .ok rfl

theorem Agrees.referenceValue (hc : c.Agrees c') (sub sub' : FieldRow)
    {target target' : FieldRow} (htarget : target.Same target') (text : String) :
    Alike Eq (c.referenceValue sub target text) (c'.referenceValue sub' target' text) := by
  obtain ⟨n, rfl⟩ := htarget.exists_row
  unfold LinkContext.referenceValue
  rw [hc.types]
  dsimp only
  split
  · exact .error _ _
  · split
    · exact .ok rfl
    · split
      · exact .error _ _
      · split
        · exact .error _ _
        · split
          · exact .ok rfl
          · exact .error _ _

/-- References select the same values of the same fields. -/
theorem Agrees.linkConditions (hc : c.Agrees c') {sub sub' : FieldRow} (hsub : sub.Same sub')
    (conditions : List Condition) (references : List (String × String)) :
    Alike Eq (c.linkConditions sub conditions references)
      (c'.linkConditions sub' conditions references) := by
  obtain ⟨n, rfl⟩ := hsub.exists_row
  induction references generalizing conditions with
  | nil => exact .ok rfl
  | cons reference rest ih =>
    obtain ⟨name, text⟩ := reference
    have hmain := hc.mains name
    unfold LinkContext.linkConditions
    generalize c.main? name = found, c'.main? name = found' at hmain ⊢
    cases hmain with
    | none => exact .error _ _
    | some hsame =>
      have hvalue :=
        hc.referenceValue sub ⟨{ sub.toFieldSpec with row := n }, sub.number⟩ hsame text
      obtain ⟨m, rfl⟩ := hsame.exists_row
      dsimp only
      split
      · exact .error _ _
      · refine hvalue.bind fun value value' h => ?_
        rw [h]
        split
        · exact .error _ _
        · exact ih _

/-- Variants that differ in the row they come from. -/
structure Variant.Same (variant variant' : Variant) : Prop where
  field : variant'.field = variant.field
  conditions : variant'.conditions = variant.conditions

theorem Agrees.linkSubfield (hc : c.Agrees c') {sub sub' : FieldRow} (hsub : sub.Same sub') :
    Alike Variant.Same (c.linkSubfield sub) (c'.linkSubfield sub') := by
  have hsingle := hc.linkSingle hsub
  have hconditions := hc.linkConditions hsub [] (sub.refNames.zip sub.refValues)
  obtain ⟨n, rfl⟩ := hsub.exists_row
  refine hsingle.bind fun field field' hfield => ?_
  refine hconditions.bind fun conditions conditions' h => ?_
  exact .ok ⟨hfield.symm, h.symm⟩

theorem Agrees.linkSubfields (hc : c.Agrees c') {subs subs' : List FieldRow}
    (hsubs : List.Forall₂ FieldRow.Same subs subs') :
    Alike (List.Forall₂ Variant.Same) (c.linkSubfields subs) (c'.linkSubfields subs') := by
  induction hsubs with
  | nil => exact .ok .nil
  | cons hsub _ ih =>
    refine (hc.linkSubfield hsub).bind fun variant variant' hvariant => ?_
    exact ih.bind fun variants variants' hvariants => .ok (.cons hvariant hvariants)

/-- Claims that select by the same pass the check together. -/
theorem alike_checkClaims {variants variants' : List Variant}
    (h : List.Forall₂ Variant.Same variants variants') :
    Alike Eq (c.checkClaims [] (variants.flatMap Variant.claims))
      (c'.checkClaims [] (variants'.flatMap Variant.claims)) := by
  have hselectors : (variants'.flatMap Variant.claims).map Claim.selector =
      (variants.flatMap Variant.claims).map Claim.selector := by
    induction h with
    | nil => rfl
    | cons hsame _ ih =>
      rw [List.flatMap_cons, List.flatMap_cons, List.map_append, List.map_append, ih,
        Variant.claims_selectors, Variant.claims_selectors, hsame.conditions]
  apply Alike.of_ok_iff
  rw [checkClaims_eq_ok, checkClaims_eq_ok, hselectors]
  simp

/-- A main field with its subfields links to the same field in both contexts. -/
theorem Agrees.linkBlock (hc : c.Agrees c') {block block' : FieldBlock}
    (hblock : block.Same block') : Alike Eq (c.linkBlock block) (c'.linkBlock block') := by
  have hsingle := hc.linkSingle hblock.main
  have hvariants := hc.linkSubfields hblock.subfields
  have hreference : block'.main.hasReference = block.main.hasReference := by
    obtain ⟨n, hmain⟩ := hblock.main.exists_row
    rw [hmain]
    rfl
  have hempty : block'.subfields.isEmpty = block.subfields.isEmpty := by
    rw [Bool.eq_iff_iff, List.isEmpty_iff_length_eq_zero, List.isEmpty_iff_length_eq_zero,
      hblock.subfields.length_eq]
  unfold LinkContext.linkBlock
  rw [hreference, hempty]
  cases block.main.hasReference with
  | true => exact .error _ _
  | false =>
    refine hsingle.bind fun field field' hfield => ?_
    rw [hfield]
    split
    · exact .ok rfl
    · refine hvariants.bind fun variants variants' hsame => ?_
      refine (alike_checkClaims hsame).bind fun _ _ _ => .ok ?_
      -- the field keeps what the variants have in common
      have hkept : (variants'.map fun v => (Field.single v.field, v.conditions)) =
          variants.map fun v => (Field.single v.field, v.conditions) := by
        induction hsame with
        | nil => rfl
        | cons hvariant _ ih =>
          rw [List.map_cons, List.map_cons, ih, hvariant.field, hvariant.conditions]
      rw [hkept]

theorem Agrees.linkBlocks (hc : c.Agrees c') {blocks blocks' : List FieldBlock}
    (hblocks : List.Forall₂ FieldBlock.Same blocks blocks') :
    Alike Eq (c.linkBlocks blocks) (c'.linkBlocks blocks') := by
  induction hblocks with
  | nil => exact .ok rfl
  | cons hblock _ ih =>
    refine (hc.linkBlock hblock).bind fun field field' hfield => ?_
    refine ih.bind fun fields fields' hfields => ?_
    rw [hfield, hfields]
    exact .ok rfl

/-! ## A message with its fields in another order -/

section Message

variable {sheet : Option String} {types : List TypeDef} {message message' : MessageBlock}

theorem map_content_main? (sheet : Option String) (types : List TypeDef) (name : String) :
    (((message.fields.map FieldBlock.content).find? fun block => block.main.name == name).map
      FieldBlock.main) = (main? ⟨sheet, types, message⟩ name).map FieldRow.content := by
  rw [List.find?_map, LinkContext.main?, Option.map_map, Option.map_map]
  rfl

/-- A name leads to the same main field in whatever order the fields stand. -/
theorem agrees_of_reordered (h : message.Reordered message')
    (hnames : (message.fields.map fun block => block.main.name).Nodup) :
    Agrees ⟨sheet, types, message⟩ ⟨sheet, types, message'⟩ where
  types := rfl
  mains name := by
    have hnodup :
        ((message.fields.map FieldBlock.content).map fun block => block.main.name).Nodup := by
      rw [List.map_map]
      exact hnames
    have hfind := congrArg (Option.map FieldBlock.main) (find?_perm h.fields hnodup name)
    rw [map_content_main? sheet types, map_content_main? sheet types] at hfind
    generalize main? ⟨sheet, types, message⟩ name = found,
      main? ⟨sheet, types, message'⟩ name = found' at hfind ⊢
    cases found <;> cases found' <;> simp at hfind
    · exact .none
    · exact .some hfind.symm

/-- The main fields by ascending number say the same in whatever order they stood. -/
theorem orderedBlocks_of_reordered (h : message.Reordered message')
    (hnumbers : (message.fields.map fun block => block.main.number).Nodup) :
    List.Forall₂ FieldBlock.Same (orderedBlocks ⟨sheet, types, message⟩)
      (orderedBlocks ⟨sheet, types, message'⟩) := by
  have heq : (orderedBlocks ⟨sheet, types, message⟩).map FieldBlock.content =
      (orderedBlocks ⟨sheet, types, message'⟩).map FieldBlock.content :=
    Order.sortBy_key_map_perm FieldBlock.content (fun block => block.main.number) (fun _ => rfl)
      h.fields hnumbers
  rw [← List.forall₂_eq_eq_eq, List.forall₂_map_left_iff, List.forall₂_map_right_iff] at heq
  exact heq.imp fun _ _ hcontent => FieldBlock.same_of_content hcontent.symm

/-- The main fields pass the check in whatever order they stand. -/
theorem checkBlocks_of_reordered (h : message.Reordered message') :
    checkBlocks ⟨sheet, types, message⟩ [] message.fields = .ok () ↔
      checkBlocks ⟨sheet, types, message'⟩ [] message'.fields = .ok () := by
  have hmains : ∀ {α : Type} (key : FieldRow → α), (∀ row, key row.content = key row) →
      ((message.fields.map FieldBlock.main).map key).Perm
        ((message'.fields.map FieldBlock.main).map key) := by
    intro α key hkey
    have hkeys : ∀ fields : List FieldBlock, (fields.map FieldBlock.main).map key =
        (fields.map FieldBlock.content).map fun block => key block.main := by
      intro fields
      rw [List.map_map, List.map_map]
      exact List.map_congr_left fun block _ => (hkey block.main).symm
    rw [hkeys, hkeys]
    exact h.fields.map _
  rw [checkBlocks_eq_ok (by simp) (by simp), checkBlocks_eq_ok (by simp) (by simp)]
  rw [List.nil_append, List.nil_append, (hmains FieldRow.number fun _ => rfl).nodup_iff,
    (hmains (fun row => row.name) fun _ => rfl).nodup_iff]

/-- The fields of a message link alike in whatever order they stand. -/
theorem linkFields_of_reordered (h : message.Reordered message')
    (hchecked : checkBlocks ⟨sheet, types, message⟩ [] message.fields = .ok ()) :
    Alike Eq (linkFields ⟨sheet, types, message⟩) (linkFields ⟨sheet, types, message'⟩) := by
  rw [checkBlocks_eq_ok (by simp) (by simp), List.nil_append, List.map_map, List.map_map]
    at hchecked
  exact (agrees_of_reordered h hchecked.2).linkBlocks (orderedBlocks_of_reordered h hchecked.1)

end Message

end LinkContext

/-! ## All messages -/

/-- A message without the place of its row. -/
def Message.content (message : Message) : Message := { message with row := 0 }

namespace Model

/-- A model without the places of its messages. -/
def content (model : Model) : Model :=
  { model with messages := model.messages.map Message.content }

variable {rules : RuleSet} {version : Version} {draft draft' : Draft} {model : Model}

/-- A message links alike in whatever order its fields stand. -/
theorem MessageLinks.reordered {sheet : Option String} {types : List TypeDef} {numbers : TypeDef}
    {block block' : MessageBlock} {message : Message}
    (h : MessageLinks ⟨sheet, types, block⟩ numbers message) (hblock : block.Reordered block') :
    MessageLinks ⟨sheet, types, block'⟩ numbers { message with row := block'.row } where
  name := h.name.trans hblock.name.symm
  row := rfl
  number := by
    have hnumber := h.number
    dsimp only at hnumber ⊢
    rw [hblock.name]
    exact hnumber
  declared declared hdeclared := h.declared declared (hblock.declaredNumber ▸ hdeclared)
  checked := (LinkContext.checkBlocks_of_reordered hblock).mp h.checked
  fields := (LinkContext.linkFields_of_reordered hblock h.checked).eq_ok.mp h.fields

/-- Linked messages give linked messages when the fields of each are reordered. -/
theorem exists_links_of_reordered {sheet : Option String} {types : List TypeDef}
    {numbers : TypeDef} {blocks blocks' : List MessageBlock} {messages : List Message}
    (hlinks : List.Forall₂ (fun block message => MessageLinks ⟨sheet, types, block⟩ numbers message)
      blocks messages)
    (hblocks : List.Forall₂ MessageBlock.Reordered blocks blocks') :
    ∃ messages', List.Forall₂ (fun block message =>
        MessageLinks ⟨sheet, types, block⟩ numbers message) blocks' messages' ∧
      messages'.map Message.content = messages.map Message.content := by
  induction hlinks generalizing blocks' with
  | nil =>
    cases hblocks
    exact ⟨[], .nil, rfl⟩
  | cons hlinked _ ih =>
    cases hblocks with
    | cons hblock hrest =>
      obtain ⟨messages', hall, hcontent⟩ := ih hrest
      refine ⟨_ :: messages', .cons (hlinked.reordered hblock) hall, ?_⟩
      rw [List.map_cons, List.map_cons, hcontent]
      rfl

/-- What is read of messages without regard to their rows is read of their contents. -/
theorem map_of_map_content {α : Type} {key : Message → α} (hkey : ∀ m, key m.content = key m)
    {messages others : List Message}
    (h : messages.map Message.content = others.map Message.content) :
    messages.map key = others.map key := by
  have hmap : ∀ list : List Message, list.map key = (list.map Message.content).map key := by
    intro list
    rw [List.map_map]
    exact List.map_congr_left fun m _ => (hkey m).symm
  rw [hmap messages, hmap others, h]

/-- A draft links to the same model in whatever order its messages and fields stand. -/
theorem ofDraft_reordered (hdraft : draft.Reordered draft')
    (h : ofDraft rules version draft = .ok model) :
    ∃ model', ofDraft rules version draft' = .ok model' ∧ model'.content = model.content := by
  obtain ⟨htypes, hversion, numbers, linked, hnumbers, hlinked, hnames, hnodup, hmessages,
    hunmatched⟩ := ofDraft_eq_ok h
  obtain ⟨between, hperm, hreordered⟩ := hdraft.messages
  obtain ⟨moved, hmoved, hmovedPerm⟩ := List.perm_comp_forall₂ hperm.symm hlinked
  obtain ⟨linked', hlinked', hcontent⟩ := exists_links_of_reordered hmoved hreordered
  -- names and numbers stay apart, since the messages are the same but for order and rows
  have hnames' : (linked'.map Message.name).Nodup := by
    rw [map_of_map_content (fun _ => rfl) hcontent]
    exact (hmovedPerm.map Message.name).nodup_iff.mpr hnames
  have hnodup' : (linked'.map Message.number).Nodup := by
    rw [map_of_map_content (fun _ => rfl) hcontent]
    exact (hmovedPerm.map Message.number).nodup_iff.mpr hnodup
  have hlinkMessages : linkMessages rules.messagesSheet model.types numbers [] draft'.messages =
      .ok linked' :=
    (linkMessages_eq_ok (by simp) (by simp)).mpr ⟨linked', rfl, hlinked', hnames', hnodup'⟩
  have hcontents : (linked'.map Message.content).Perm (linked.map Message.content) := by
    rw [hcontent]
    exact hmovedPerm.map _
  have hsorted :=
    Order.sortBy_key_map_perm Message.content Message.number (fun _ => rfl) hcontents hnodup'
  refine ⟨_, bind_eq_ok.mpr ⟨model.types, hdraft.types ▸ htypes, bind_eq_ok.mpr ⟨numbers, hnumbers,
    bind_eq_ok.mpr ⟨linked', hlinkMessages, rfl⟩⟩⟩, ?_⟩
  have hunmatchedNames : ∀ messages others : List Message,
      messages.map Message.content = others.map Message.content →
        unmatchedNames numbers messages = unmatchedNames numbers others := by
    intro messages others heq
    rw [unmatchedNames, unmatchedNames, map_of_map_content (fun _ => rfl) heq]
  obtain ⟨_, types, messages, unmatched⟩ := model
  obtain rfl : _ = version := hversion
  dsimp only at hmessages hunmatched
  subst hmessages
  rw [hunmatched, ← hunmatchedNames _ _ hsorted]
  exact congrArg (Model.mk _ types · _) hsorted

end Model

end FitProfile
