import FitProfile.Proofs.FaultPlaces
import FitProfile.Proofs.Reading.Components
import FitProfile.Proofs.Reading.FieldRows
/-!
# FitProfile.Proofs.Scalings -- where the scales and offsets of a model come from

A field has a scale and an offset of its own, or each of its components has. In the first case
they are read from the cells of its row, in the second from the entries of these cells, of which
there may be one for all components. Linking hands them on as they are. So each scale and each
offset of a linked model is read from such a cell or entry (`Model.exists_stated`).
-/

namespace FitProfile

open FitProfile.Draft FitProfile.Number FitProfile.Outcome

/-! ## Scalings of rows and fields -/

/-- The two parts of a scaling that are quantities. -/
inductive ScalingPart where
  | scale
  | offset
  deriving DecidableEq, Repr

namespace ScalingPart

/-- The name of a part. -/
def name : ScalingPart → String
  | .scale => "scale"
  | .offset => "offset"

/-- The column that states a part. -/
def column : ScalingPart → MessagesColumn
  | .scale => .scale
  | .offset => .offset

/-- A part of a scaling. -/
def quantity? : ScalingPart → Scaling → Option Quantity
  | .scale, s => s.scale
  | .offset, s => s.offset

/-- The text of a part among the texts of a component. -/
def textOf : ScalingPart → MessagesSheet.ComponentTexts → String
  | .scale, texts => texts.scale
  | .offset, texts => texts.offset

end ScalingPart

/-- The scaling of a component. -/
def Draft.ComponentEntry.scaling (entry : ComponentEntry) : Scaling :=
  ⟨entry.scale, entry.offset, entry.units, entry.accumulate⟩

/-- The scalings that a row states: its own and those of its components. -/
def Draft.FieldSpec.scalings (spec : FieldSpec) : List Scaling :=
  ⟨spec.scale, spec.offset, spec.units, spec.accumulate⟩ ::
    spec.components.map ComponentEntry.scaling

/-- The scalings of the slices of a shape. -/
def Shape.scalings : Shape → List Scaling
  | .packed _ slices => slices.map Slice.scaling
  | _ => []

/-- The scalings of a field that is not dynamic: its own and those of its slices. -/
def SingleField.scalings (field : SingleField) : List Scaling :=
  field.scaling :: field.shape.scalings

/-- The scalings of a field, of its default and of its variants. -/
def Field.scalings : Field → List Scaling
  | .single field => field.scalings
  | .dynamic standard variants =>
    standard.lead.scalings ++ variants.flatMap fun variant => variant.1.lead.scalings

/-- All scalings of a model, in the order of its fields. -/
def Model.scalings (model : Model) : List Scaling :=
  model.messages.flatMap fun message => message.fields.flatMap Field.scalings

/-! ## Reading scalings -/

/-- A text in the cells of a row that states a part of a scaling: the cell of that part or, where
the row has components, an entry of the list in it. -/
inductive StatedIn (cell : MessagesColumn → String) (part : ScalingPart) : String → Prop where
  | alone (single : cell .components = "") : StatedIn cell part (cell part.column)
  | component {text : String} (several : cell .components ≠ "")
    (entry : text ∈ Text.commaList (cell part.column)) : StatedIn cell part text

namespace Draft.MessagesSheet

variable {r : SheetReader} {row : Row} {part : ScalingPart}

/-- The text that a part is read from. Scales of one and offsets of zero are left out, but none is
changed. -/
theorem ofText?_of_readNumber {key text : String} {read : Option Quantity}
    (h : r.readNumber row key text = .ok read) {q : Quantity}
    (hq : SheetReader.asScale read = some q ∨ SheetReader.asOffset read = some q) :
    text ≠ "" ∧ Quantity.ofText? text = some q := by
  have hread : read = some q := by
    cases read with
    | none => rcases hq with hq | hq <;> cases hq
    | some found =>
      rcases hq with hq | hq
      · simp only [SheetReader.asScale] at hq
        split at hq
        · cases hq
        · exact hq
      · simp only [SheetReader.asOffset] at hq
        split at hq
        · cases hq
        · exact hq
  subst hread
  unfold SheetReader.readNumber at h
  split at h
  next => cases h
  next hne =>
    refine ⟨?_, ?_⟩
    · rintro rfl
      exact hne rfl
    · split at h
      next found hfound =>
        cases h
        exact hfound
      next => cases h

theorem ofText?_of_readScaling {scaling : OwnScaling} (h : readScaling r row = .ok scaling)
    {q : Quantity} (hq : part.quantity? ⟨scaling.scale, scaling.offset, scaling.units,
      scaling.accumulate⟩ = some q) :
    Quantity.ofText? (r.get row part.column.key) = some q := by
  obtain ⟨scale, hscale, h⟩ := bind_eq_ok.mp h
  obtain ⟨offset, hoffset, h⟩ := bind_eq_ok.mp h
  obtain ⟨_, -, hpure⟩ := bind_eq_ok.mp h
  cases hpure
  cases part with
  | scale => exact (ofText?_of_readNumber hscale (.inl hq)).2
  | offset => exact (ofText?_of_readNumber hoffset (.inr hq)).2

theorem ofText?_of_readsComponent {texts : ComponentTexts} {entry : ComponentEntry}
    (h : ReadsComponent r row texts entry) {q : Quantity}
    (hq : part.quantity? entry.scaling = some q) :
    part.textOf texts ≠ "" ∧ Quantity.ofText? (part.textOf texts) = some q := by
  cases part with
  | scale =>
    obtain ⟨read, hread, hscale⟩ := h.scale
    exact ofText?_of_readNumber hread (.inl (hscale ▸ hq))
  | offset =>
    obtain ⟨read, hread, hoffset⟩ := h.offset
    exact ofText?_of_readNumber hread (.inr (hoffset ▸ hq))

/-- What a component states is an entry of the cell of its column. -/
theorem exists_entry_of_readComponents {names : List String} {components : List ComponentEntry}
    (h : readComponents r row names = .ok components) {entry : ComponentEntry}
    (hentry : entry ∈ components) {q : Quantity} (hq : part.quantity? entry.scaling = some q) :
    ∃ text ∈ Text.commaList (r.get row part.column.key), Quantity.ofText? text = some q := by
  obtain ⟨-, hcomponents⟩ := readComponents_eq_ok.mp h
  obtain ⟨texts, htexts, hreads⟩ := forall₂_exists_of_mem_right hcomponents hentry
  obtain ⟨i, _, rfl⟩ := List.mem_mapIdx.mp htexts
  obtain ⟨hne, hnumber⟩ := ofText?_of_readsComponent hreads hq
  refine ⟨_, ?_, hnumber⟩
  cases part with
  | scale => exact (entryFor_mem _ i).resolve_left hne
  | offset => exact (entryFor_mem _ i).resolve_left hne

/-- The scales and offsets of a row are read from what its cells state. -/
theorem exists_stated_of_readField {message : String} {number : Option Int} {spec : FieldSpec}
    (h : readField r message row = .ok (number, spec)) {s : Scaling} (hs : s ∈ spec.scalings)
    {q : Quantity} (hq : part.quantity? s = some q) :
    ∃ text, StatedIn (fun column => r.get row column.key) part text ∧
      Quantity.ofText? text = some q := by
  have hcontents := readContents_of_readField h
  unfold readContents at hcontents
  split at hcontents
  next hsingle =>
    obtain ⟨scaling, hscaling, hpure⟩ := bind_eq_ok.mp hcontents
    injection hpure with hpure
    obtain ⟨hnone, rfl⟩ := Prod.mk.inj hpure
    rw [FieldSpec.scalings, ← hnone, List.map_nil, List.mem_singleton] at hs
    subst hs
    exact ⟨_, .alone (Text.commaList_eq_nil.mp hsingle), ofText?_of_readScaling hscaling hq⟩
  next hseveral =>
    obtain ⟨components, hcomponents, hpure⟩ := bind_eq_ok.mp hcontents
    injection hpure with hpure
    obtain ⟨rfl, hown⟩ := Prod.mk.inj hpure
    rcases List.mem_cons.mp hs with rfl | hs
    · -- with components the row has no scaling of its own
      obtain ⟨hscale, hoffset, -, -⟩ := OwnScaling.mk.inj hown
      cases part with
      | scale => exact absurd (hscale.trans hq) nofun
      | offset => exact absurd (hoffset.trans hq) nofun
    · obtain ⟨entry, hentry, rfl⟩ := List.mem_map.mp hs
      obtain ⟨text, hmem, hnumber⟩ := exists_entry_of_readComponents hcomponents hentry hq
      exact ⟨text, .component (fun hnone => hseveral (Text.commaList_eq_nil.mpr hnone)) hmem, hnumber⟩

/-- Each field of a message that is read is held by one of the rows. -/
theorem exists_holds {rows : List Row} {messages : List MessageBlock}
    (h : readRows r rows = .ok messages) {message : MessageBlock} (hmessage : message ∈ messages)
    {field : FieldRow} (hfield : field ∈ message.rows) :
    ∃ row ∈ rows, Holds r message.name row field := by
  obtain ⟨above, head, inner, below, rfl, -, -, hread⟩ := exists_block_of_mem h hmessage
  obtain ⟨hname, -, -, hreads⟩ := readMessage_eq_ok.mp hread
  obtain ⟨cut, hcut, hblocks, -⟩ := hreads.exists_cut
  obtain ⟨block, hblock, hmem⟩ := List.mem_flatMap.mp hfield
  obtain ⟨own, hown, hreadsBlock⟩ := forall₂_exists_of_mem_right hblocks hblock
  obtain ⟨row, hrow, hholds⟩ := forall₂_exists_of_mem_right hreadsBlock.holds hmem
  have hinner : row ∈ inner.filter (isFieldRow r) := by
    rw [hcut]
    exact List.mem_flatMap.mpr ⟨own, hown, hrow⟩
  refine ⟨row, ?_, hname ▸ hholds⟩
  have := (List.mem_filter.mp hinner).1
  simp [this]

end Draft.MessagesSheet

/-- A text in the Messages sheet of a workbook that states a part of a scaling. -/
def Workbook.States (book : Workbook) (rules : RuleSet) (part : ScalingPart) (text : String) :
    Prop :=
  ∃ name l row, rules.messagesSheet = some name ∧ book.sheets.lookup name = some (Layout.rows l) ∧
    l.Leads ∧ row ∈ l.below ∧ StatedIn (l.cell rules row) part text

/-- The scales and offsets of a draft are read from texts that the workbook states. -/
theorem Draft.exists_stated {rules : RuleSet} {version : Version} {book : Workbook} {draft : Draft}
    (hdraft : (ofWorkbook rules version book).outcome = .ok draft) {message : MessageBlock}
    (hmessage : message ∈ draft.messages) {row : FieldRow} (hrow : row ∈ message.rows) {s : Scaling}
    (hs : s ∈ row.scalings) {part : ScalingPart} {q : Quantity} (hq : part.quantity? s = some q) :
    ∃ text, book.States rules part text ∧ Quantity.ofText? text = some q := by
  have hsheet : ∃ name, rules.messagesSheet = some name := by
    obtain ⟨-, -, -, sheet, hsheet, -⟩ := ofWorkbook_eq_ok.mp hdraft
    cases hname : rules.messagesSheet with
    | none =>
      rw [hname] at hsheet
      cases hsheet
    | some name => exact ⟨name, rfl⟩
  obtain ⟨name, hname⟩ := hsheet
  obtain ⟨l, hleads, hrows, hread⟩ := exists_messages_layout hdraft hname
  obtain ⟨place, hplace, hholds⟩ :=
    MessagesSheet.exists_holds (MessagesSheet.readRows_of_read hleads hread) hmessage hrow
  obtain ⟨number, hfield, -⟩ := hholds.read
  obtain ⟨text, hstated, hnumber⟩ := MessagesSheet.exists_stated_of_readField hfield hs hq
  have hcells : (fun column : MessagesColumn =>
      (l.reader rules.messagesColumns name rules.hexValues).get place column.key) =
        l.cell rules place.cells :=
    funext fun column => Layout.get_reader name rules.hexValues place column.key
  rw [hcells] at hstated
  exact ⟨text, ⟨name, l, place.cells, hname, hrows, hleads, (Layout.mem_numbered hplace).1,
    hstated⟩, hnumber⟩

/-! ## Linking scalings -/

namespace LinkContext

variable {c : LinkContext}

/-- Slices are scaled as their components are. -/
theorem Tiles.scalings {carrier : FieldRow} {offset : Int} {entries : List ComponentEntry}
    {slices : List Slice} (h : c.Tiles carrier offset entries slices) :
    slices.map Slice.scaling = entries.map ComponentEntry.scaling := by
  induction h with
  | nil => rfl
  | cons _ _ _ _ ih => rw [List.map_cons, List.map_cons, ih]; rfl

/-- Linking keeps the scalings of a row. -/
theorem Links.scalings {row : FieldRow} {field : SingleField} (h : c.Links row field) :
    field.scalings = row.scalings := by
  have hshape : field.shape.scalings = row.components.map ComponentEntry.scaling := by
    have hshapes := h.shape
    generalize field.shape = shape at hshapes
    cases hshapes with
    | plain single => rw [single]; rfl
    | array single => rw [single]; rfl
    | packed _ tiles => exact tiles.scalings
  rw [SingleField.scalings, FieldSpec.scalings, h.scaling, hshape]

theorem scalings_of_variantLinks {subs : List FieldRow} {variants : List Variant}
    (h : List.Forall₂ c.VariantLinks subs variants) :
    (variants.flatMap fun v => v.field.scalings) = subs.flatMap fun row => row.scalings := by
  induction h with
  | nil => rfl
  | cons hlinks _ ih => rw [List.flatMap_cons, List.flatMap_cons, ih, hlinks.field.scalings]

/-- A linked field has the scalings of its rows. -/
theorem BlockLinks.scalings {block : FieldBlock} {field : Field} (h : c.BlockLinks block field) :
    field.scalings = (block.main :: block.subfields).flatMap fun row => row.scalings := by
  rw [List.flatMap_cons]
  cases h with
  | single alone links =>
    rw [alone, List.flatMap_nil, List.append_nil]
    exact links.scalings
  | dynamic _ links variantLinks =>
    rw [← links.scalings, ← scalings_of_variantLinks variantLinks, Field.scalings, List.flatMap_map]
    rfl

end LinkContext

namespace Model

/-- The scales and offsets of a linked model are read from texts that the workbook states. -/
theorem exists_stated {rules : RuleSet} {version : Version} {book : Workbook} {model : Model}
    (h : model.LinkedFrom rules version book) {s : Scaling} (hs : s ∈ model.scalings)
    {part : ScalingPart} {q : Quantity} (hq : part.quantity? s = some q) :
    ∃ text, book.States rules part text ∧ Quantity.ofText? text = some q := by
  obtain ⟨draft, hdraft, hmodel⟩ := h
  obtain ⟨numbers, -, -, -, hblocks⟩ := messageLinks_of_ofDraft hmodel
  obtain ⟨message, hmessage, hfields⟩ := List.mem_flatMap.mp hs
  obtain ⟨field, hfield, hscaling⟩ := List.mem_flatMap.mp hfields
  obtain ⟨block, hblock, hlinks⟩ := hblocks message hmessage
  obtain ⟨rows, hrows, hlinked⟩ := LinkContext.exists_blockLinks_of_mem hlinks.fields hfield
  rw [hlinked.scalings] at hscaling
  obtain ⟨row, hrow, hown⟩ := List.mem_flatMap.mp hscaling
  have hstated : row ∈ block.rows :=
    List.mem_flatMap.mpr ⟨rows, hrows, hrow⟩
  exact Draft.exists_stated hdraft hblock hstated hown hq

end Model

end FitProfile
