import FitProfile.Proofs.Linking.Tiling
import Mathlib.Data.Finset.Card
import Mathlib.Data.Finset.Dedup
import Mathlib.Logic.Relation
/-!
# FitProfile.Proofs.Linking.Expansion -- where components lead

The components of a field lead from it to the fields they name, from there on to those that the
components of these name, and so forth. Linking looks at one field at a time: it refuses a
component that names its own field, and nothing else about where components lead. So a single step
never comes back (`Message.ExpandsAs.other`), while longer ways lead through a linked message
exactly as the names lead through its rows (`expansions_of_ofDraft`). Expansion comes to an end,
from whatever field it starts, exactly if these names do not go round in a circle; linking lets
circles pass (`circleBook_expands`).
-/

namespace FitProfile

open FitProfile.Draft FitProfile.Outcome Relation

/-! ## Ways that end -/

/-- Steps that lead to finitely many numbers come to an end exactly if no way leads back to where
it started. -/
theorem wellFounded_iff_no_circle {step : Int → Int → Prop} (targets : List Int)
    (h : ∀ a b, step a b → b ∈ targets) :
    WellFounded (fun b a => step a b) ↔ ∀ a, ¬ TransGen step a a := by
  classical
  constructor
  · intro hends a hcircle
    have hback : TransGen (fun b a => step a b) a a := transGen_swap.mpr hcircle
    exact hends.transGen.asymmetric _ _ hback hback
  · intro hopen
    -- each step leaves fewer numbers to be reached: the one it leads to is not reached again
    have hfewer : ∀ a b, step a b →
        (targets.toFinset.filter (TransGen step b)).card <
          (targets.toFinset.filter (TransGen step a)).card := by
      intro a b hstep
      refine Finset.card_lt_card ((Finset.ssubset_iff_of_subset ?_).mpr ⟨b, ?_, ?_⟩)
      · intro c hc
        obtain ⟨hmem, hway⟩ := Finset.mem_filter.mp hc
        exact Finset.mem_filter.mpr ⟨hmem, .head hstep hway⟩
      · exact Finset.mem_filter.mpr ⟨List.mem_toFinset.mpr (h a b hstep), .single hstep⟩
      · intro hb
        exact hopen b (Finset.mem_filter.mp hb).2
    exact Subrelation.wf (hfewer _ _)
      (measure fun a => (targets.toFinset.filter (TransGen step a)).card).wf

/-! ## Steps of expansion -/

/-- The slices of a shape. -/
def Shape.slices : Shape → List Slice
  | .packed _ slices => slices
  | _ => []

/-- A field of number `a` has a slice, its default's or a variant's, that carries number `b`. -/
def Message.Expands (message : Message) (a b : Int) : Prop :=
  ∃ field ∈ message.fields, field.number = a ∧
    ∃ part ∈ field.parts, ∃ slice ∈ part.shape.slices, slice.number = b

/-- A row names a main field of number `b` as one of its components. -/
def Draft.MessageBlock.Targets (message : MessageBlock) (row : FieldRow) (b : Int) : Prop :=
  ∃ entry ∈ row.components, ∃ target, message.main? entry.name = some target ∧ target.number = b

/-- A main field of number `a`, or one of its subfields, names a main field of number `b`. -/
def Draft.MessageBlock.Expands (message : MessageBlock) (a b : Int) : Prop :=
  ∃ block ∈ message.fields, block.main.number = a ∧
    ∃ row ∈ block.main :: block.subfields, message.Targets row b

/-- Subfields bear the number of their main field, as they do in every draft that is read. -/
def Draft.MessageBlock.SharesNumbers (message : MessageBlock) : Prop :=
  ∀ block ∈ message.fields, ∀ sub ∈ block.subfields, sub.number = block.main.number

/-- Expansion leads through a message as the names of components lead through its rows, and each
step leads to a field of the message. It comes to an end exactly if no way leads back. -/
structure Message.ExpandsAs (message : Message) (block : MessageBlock) : Prop where
  ways : ∀ a b, TransGen message.Expands a b ↔ TransGen block.Expands a b
  field : ∀ a b, message.Expands a b → ∃ field ∈ message.fields, field.number = b
  other : block.SharesNumbers → ∀ a, ¬ message.Expands a a
  ends : WellFounded (fun b a => message.Expands a b) ↔ ∀ a, ¬ TransGen block.Expands a a

namespace LinkContext

variable {c : LinkContext}

/-! ## The slices of a row -/

/-- A slice bears the number of the main field that its component names, another one than that of
its row. -/
def Carries (c : LinkContext) (row : FieldRow) (entry : ComponentEntry) (slice : Slice) : Prop :=
  ∃ target, c.message.main? entry.name = some target ∧ slice.number = target.number ∧
    target.number ≠ row.number

theorem Tiles.carries {row : FieldRow} {offset : Int} {entries : List ComponentEntry}
    {slices : List Slice} (h : c.Tiles row offset entries slices) :
    List.Forall₂ (c.Carries row) entries slices := by
  induction h with
  | nil => exact .nil
  | cons found other _ _ ih => exact .cons ⟨_, found, rfl, other⟩ ih

/-- The slices of a linked row are those of its components. -/
theorem Links.carries {row : FieldRow} {field : SingleField} (h : c.Links row field) :
    List.Forall₂ (c.Carries row) row.components field.shape.slices := by
  have hshape := h.shape
  generalize field.shape = shape at hshape
  cases hshape with
  | plain single =>
    rw [single]
    exact .nil
  | array single =>
    rw [single]
    exact .nil
  | packed _ tiles => exact tiles.carries

theorem Links.expands_iff {row : FieldRow} {field : SingleField} (h : c.Links row field) {b : Int} :
    (∃ slice ∈ field.shape.slices, slice.number = b) ↔ c.message.Targets row b := by
  constructor
  · rintro ⟨slice, hslice, rfl⟩
    obtain ⟨entry, hentry, target, hfound, hnumber, -⟩ :=
      forall₂_exists_of_mem_right h.carries hslice
    exact ⟨entry, hentry, target, hfound, hnumber.symm⟩
  · rintro ⟨entry, hentry, target, hfound, rfl⟩
    obtain ⟨slice, hslice, target', hfound', hnumber, -⟩ :=
      forall₂_exists_of_mem h.carries hentry
    obtain rfl : target = target' := Option.some.inj (hfound.symm.trans hfound')
    exact ⟨slice, hslice, hnumber⟩

/-- No slice of a linked row bears the number of the row. -/
theorem Links.slice_number_ne {row : FieldRow} {field : SingleField} (h : c.Links row field)
    {slice : Slice} (hslice : slice ∈ field.shape.slices) : slice.number ≠ row.number := by
  obtain ⟨_, -, target, -, hnumber, hother⟩ := forall₂_exists_of_mem_right h.carries hslice
  rw [hnumber]
  exact hother

/-! ## The fields of a message -/

theorem BlockLinks.expands_iff {block : FieldBlock} {field : Field} (h : c.BlockLinks block field)
    {b : Int} : (∃ part ∈ field.parts, ∃ slice ∈ part.shape.slices, slice.number = b) ↔
      ∃ row ∈ block.main :: block.subfields, c.message.Targets row b := by
  constructor
  · rintro ⟨part, hpart, hslice⟩
    obtain ⟨row, hrow, hlinks⟩ := forall₂_exists_of_mem_right h.parts hpart
    exact ⟨row, hrow, hlinks.expands_iff.mp hslice⟩
  · rintro ⟨row, hrow, htargets⟩
    obtain ⟨part, hpart, hlinks⟩ := forall₂_exists_of_mem h.parts hrow
    exact ⟨part, hpart, hlinks.expands_iff.mpr htargets⟩

end LinkContext

namespace Model

variable {c : LinkContext} {numbers : TypeDef} {message : Message}

/-- One step of expansion is one name of a component. -/
theorem MessageLinks.expands_iff (h : MessageLinks c numbers message) {a b : Int} :
    message.Expands a b ↔ c.message.Expands a b := by
  constructor
  · rintro ⟨field, hfield, rfl, hparts⟩
    obtain ⟨block, hblock, hlinks⟩ := LinkContext.exists_blockLinks_of_mem h.fields hfield
    exact ⟨block, hblock, hlinks.number_eq.symm, hlinks.expands_iff.mp hparts⟩
  · rintro ⟨block, hblock, rfl, hrows⟩
    obtain ⟨field, hfield, hlinks⟩ := LinkContext.exists_blockLinks h.fields hblock
    exact ⟨field, hfield, hlinks.number_eq, hlinks.expands_iff.mpr hrows⟩

/-- A component leads to a field of the message. -/
theorem MessageLinks.field_of_expands (h : MessageLinks c numbers message) {a b : Int}
    (hstep : message.Expands a b) : ∃ field ∈ message.fields, field.number = b := by
  obtain ⟨_, -, -, _, -, entry, -, target, hfound, rfl⟩ := h.expands_iff.mp hstep
  obtain ⟨block, rfl, -, field, hfield, hlinks⟩ :=
    LinkContext.exists_blockLinks_of_main? h.fields hfound
  exact ⟨field, hfield, hlinks.number_eq⟩

/-- One step never leads back: the check on each row is on the number of its main field. -/
theorem MessageLinks.not_expands_self (h : MessageLinks c numbers message)
    (hshares : c.message.SharesNumbers) (a : Int) : ¬ message.Expands a a := by
  rintro ⟨field, hfield, rfl, part, hpart, slice, hslice, hnumber⟩
  obtain ⟨block, hblock, hlinks⟩ := LinkContext.exists_blockLinks_of_mem h.fields hfield
  obtain ⟨row, hrow, hpartLinks⟩ := forall₂_exists_of_mem_right hlinks.parts hpart
  refine hpartLinks.slice_number_ne hslice ?_
  rw [hnumber, hlinks.number_eq]
  rcases List.mem_cons.mp hrow with rfl | hsub
  · rfl
  · exact (hshares block hblock row hsub).symm

theorem MessageLinks.expandsAs (h : MessageLinks c numbers message) :
    message.ExpandsAs c.message := by
  have hsteps : message.Expands = c.message.Expands := by
    funext a b
    exact propext h.expands_iff
  refine ⟨fun a b => by rw [hsteps], fun _ _ => h.field_of_expands, h.not_expands_self, ?_⟩
  rw [← hsteps]
  refine wellFounded_iff_no_circle (message.fields.map Field.number) ?_
  intro a b hstep
  exact List.mem_map.mpr (h.field_of_expands hstep)

/-! ## The whole draft -/

/-- A draft that is read from a workbook gives subfields the number of their main field. -/
theorem sharesNumbers_of_ofWorkbook {rules : RuleSet} {version : Version} {book : Workbook}
    {draft : Draft} (h : (Draft.ofWorkbook rules version book).outcome = .ok draft)
    {block : MessageBlock} (hblock : block ∈ draft.messages) : block.SharesNumbers := by
  intro rows hrows sub hsub
  have hwell : rows.WellFormed := (wellFormed_of_ofWorkbook h).blocks block hblock rows hrows
  exact (hwell.subfields sub hsub).2.2

/-- In a linked model the components of each message lead from field to field as their names lead
through its rows, and never out of the message; following them ends exactly if the names do not go
round in a circle. If the draft is read from a workbook, no field leads to itself in one step. -/
theorem expansions_of_ofDraft (rules : RuleSet) (version : Version) (draft : Draft) (model : Model)
    (h : ofDraft rules version draft = .ok model) (message : Message)
    (hmessage : message ∈ model.messages) :
    (∃ block ∈ draft.messages, block.name = message.name ∧ message.ExpandsAs block) ∧
      ∀ book, (Draft.ofWorkbook rules version book).outcome = .ok draft →
        ∀ a, ¬ message.Expands a a := by
  obtain ⟨numbers, -, -, -, hblocks⟩ := messageLinks_of_ofDraft h
  obtain ⟨block, hblock, hlinks⟩ := hblocks message hmessage
  refine ⟨⟨block, hblock, hlinks.name.symm, hlinks.expandsAs⟩, ?_⟩
  intro book hbook
  exact hlinks.not_expands_self (sharesNumbers_of_ofWorkbook hbook hblock)

/-- In the record workbook the packed bytes lead to speed and distance, and no field leads to
itself. -/
theorem packedBook_expansions : ∃ draft model,
    (Draft.ofWorkbook .sdk20 ⟨21, 0⟩ packedBook).outcome = .ok draft ∧
      ofDraft .sdk20 ⟨21, 0⟩ draft = .ok model ∧
      (model.messages.map fun message => message.fields.map fun field =>
        field.parts.map fun part => part.shape.slices.map Slice.number) =
          [[[[]], [[]], [[]], [[6, 5], [5]]]] ∧
      ∀ message ∈ model.messages,
        (∃ block ∈ draft.messages, block.name = message.name ∧ message.ExpandsAs block) ∧
          ∀ a, ¬ message.Expands a a := by
  have hlinked : ∃ draft model,
      (Draft.ofWorkbook .sdk20 ⟨21, 0⟩ packedBook).outcome = .ok draft ∧
        ofDraft .sdk20 ⟨21, 0⟩ draft = .ok model ∧
        (model.messages.map fun message => message.fields.map fun field =>
          field.parts.map fun part => part.shape.slices.map Slice.number) =
            [[[[]], [[]], [[]], [[6, 5], [5]]]] := ⟨_, _, rfl, rfl, rfl⟩
  obtain ⟨draft, model, hdraft, hmodel, hslices⟩ := hlinked
  refine ⟨draft, model, hdraft, hmodel, hslices, fun message hmessage => ?_⟩
  obtain ⟨hexpands, hother⟩ :=
    expansions_of_ofDraft .sdk20 ⟨21, 0⟩ draft model hmodel message hmessage
  exact ⟨hexpands, hother packedBook hdraft⟩

/-- A workbook with an event message of two bytes, each of which carries the other. -/
def circleBook : Workbook where
  sheets :=
    [("Types",
      [["Type Name", "Base Type", "Value Name", "Value", "Comment"],
       ["mesg_num", "uint16"], ["", "", "event", "21"]]),
     ("Messages",
      [["Message Name", "Field Def #", "Field Name", "Field Type", "Array", "Components", "Scale",
        "Offset", "Units", "Bits", "Accumulate", "Ref Field Name", "Ref Field Value", "Comment"],
       ["event"],
       ["", "1", "a", "uint8", "", "b", "", "", "", "8"],
       ["", "2", "b", "uint8", "", "a", "", "", "", "8"]])]

/-- The workbook links, and two steps lead from the first byte back to it. -/
theorem circleBook_expands : ∃ draft model message,
    (Draft.ofWorkbook .sdk20 ⟨20, 14⟩ circleBook).outcome = .ok draft ∧
      ofDraft .sdk20 ⟨20, 14⟩ draft = .ok model ∧ message ∈ model.messages ∧
      TransGen message.Expands 1 1 := by
  refine ⟨_, _, _, rfl, rfl, List.mem_cons_self, ?_⟩
  refine .tail (b := 2) (.single ?_) ?_
  · exact ⟨_, .head _, rfl, _, .head _, _, .head _, rfl⟩
  · exact ⟨_, .tail _ (.head _), rfl, _, .head _, _, .head _, rfl⟩

end Model

end FitProfile
