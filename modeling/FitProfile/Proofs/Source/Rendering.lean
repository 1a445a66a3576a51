import FitProfile.Proofs.Linking.Integrity
import FitProfile.Proofs.Source.Lines
import FitProfile.Proofs.Text.Words
import FitProfile.Source.Profile
/-!
# FitProfile.Proofs.Source.Rendering -- what intact models are rendered to

The lines of a module are stated here without the checks on the way: of an intact model
they are what is written, unless an integer is too long to write. Checks on references
never fail for such a model.
-/

namespace FitProfile.Source

open FitProfile.Number FitProfile.Text FitProfile.Outcome

/-! ## Computations that only long integers stop -/

/-- A computation that has a given result, unless an integer is too long to write. -/
def Renders {α : Type} (x : Except Fault α) (a : α) : Prop :=
  x = .ok a ∨ x = .error .tooManyDigitsToWrite

namespace Renders

variable {α β : Type} {x : Except Fault α} {f : α → Except Fault β} {a : α} {b : β}

theorem ok (a : α) : Renders (.ok a) a := .inl rfl

theorem writable (numbers : List Int) : Renders (Fault.writable numbers) () := by
  unfold Fault.writable
  split
  · exact .inl rfl
  · exact .inr rfl

theorem bind (hx : Renders x a) (hf : Renders (f a) b) : Renders (x >>= f) b := by
  rcases hx with rfl | rfl
  · exact hf
  · exact .inr rfl

theorem eq_of_ok (h : Renders x a) {a' : α} (hok : x = .ok a') : a' = a := by
  rcases h with h | h
  · rw [h] at hok
    exact (Except.ok.inj hok).symm
  · rw [h] at hok
    cases hok

theorem fault_eq (h : Renders x a) {fault : Fault} (herror : x = .error fault) :
    fault = .tooManyDigitsToWrite := by
  rcases h with h | h
  · rw [h] at herror
    cases herror
  · rw [h] at herror
    exact (Except.error.inj herror).symm

end Renders

/-! ## The lines of the messages module -/

/-- The expression of a type and the remark behind it. -/
def typeText : FieldType → String × String
  | .base b => (baseExpression b, b.name)
  | type => ("FIELD_TYPES[" ++ Text.quoted type.name ++ "]", "")

/-- The line of an extent, if there is one. -/
def extentText? (extent : Option Extent) : List String :=
  if extent.isSome then [extentLine extent] else []

/-- The block of the slices. -/
def slicesText (slices : List Slice) : List String :=
  block "components=(" (slices.flatMap sliceEntry) "),"

/-- The lines of a shape. -/
def shapeText : Shape → List String
  | .plain => []
  | .array extent => [extentLine extent]
  | .packed extent slices => extentText? extent ++ slicesText slices
  | .unknown _ => []

/-- The line of the type of a field. -/
def typeLine (type : FieldType) : String := keyword "type" (typeText type).1 (typeText type).2

/-- The lines of a field that is not dynamic. -/
def singleText (field : SingleField) : List String :=
  [keyword "name" (Text.quoted field.name) "", typeLine field.type,
    keyword "def_num" (decimal field.number) ""] ++
    scalingLines field.scaling ++ shapeText field.shape

/-- The block of the conditions. -/
def conditionsText (conditions : List Condition) : List String :=
  block "ref_fields=(" (conditionEntries conditions) "),"

/-- The block of a variant. -/
def variantText (variant : Field × List Condition) : List String :=
  block "SubField(" (singleText variant.1.lead ++ conditionsText variant.2) "),"

/-- The block of the variants. -/
def variantsText (variants : List (Field × List Condition)) : List String :=
  block "subfields=(" (variants.flatMap variantText) "),"

/-- The lines of a field. -/
def fieldText : Field → List String
  | .single field => singleText field
  | .dynamic standard variants => singleText standard.lead ++ variantsText variants

/-- The block of a field. -/
def fieldBlock (field : Field) : List String :=
  block (decimal field.number ++ ": Field(") (fieldText field) "),"

/-- The block of a message. -/
def messageBlock (message : Message) : List String :=
  block (decimal message.number ++ ": MessageType(")
    ([keyword "name" (Text.quoted message.name) "",
      keyword "mesg_num" (decimal message.number) ""] ++
     block "fields=\x7b" (message.fields.flatMap fieldBlock) "\x7d,")
    "),"

/-- The lines of the module. -/
def messagesText (model : Model) (moment : Option Moment) : List String :=
  header .messages model.version moment ++
    ["from " ++ recordsModule ++
       " import BASE_TYPES, ComponentField, Field, MessageType, ReferenceField, SubField",
     "", "from ." ++ Module.types.name ++ " import FIELD_TYPES", "", ""] ++
    block "MESSAGE_TYPES = \x7b" (model.messages.flatMap messageBlock) "\x7d"

/-! ## Intact models are rendered to these lines -/

variable {model : Model} {message : Message}

/-- The type of a name is also the last one of that name, as no name repeats. -/
theorem lastNamed?_of_intact (h : model.Intact) {t : TypeDef} (ht : model.type? t.name = some t) :
    lastNamed? model.types t.name = some t := by
  have hmem : t ∈ model.types.reverse := List.mem_reverse.mpr (List.mem_of_find?_eq_some ht)
  have hsome : (lastNamed? model.types t.name).isSome := by
    rw [lastNamed?, List.find?_isSome]
    exact ⟨t, hmem, by simp⟩
  obtain ⟨last, hlast⟩ := Option.isSome_iff_exists.mp hsome
  -- the last type of the name is found by the name as well, and the name leads to one type
  have hname : last.name = t.name := by simpa using List.find?_some hlast
  have hfound := h.typesFound last (List.mem_reverse.mp (List.mem_of_find?_eq_some hlast))
  rw [hname, ht] at hfound
  rw [hlast, hfound]

/-- The type of an intact field can be written. -/
theorem typeExpression_of_intact (h : model.Intact) {type : FieldType}
    (htype : type.BelongsTo model) : typeExpression model.types type = .ok (typeText type) := by
  cases type with
  | base b => rfl
  | declared t =>
    unfold typeExpression
    simp only [lastNamed?_of_intact h htype, if_true]
    rfl
  | foreign name => exact absurd htype id
  | invalid value => exact absurd htype id

theorem renders_shapeLines {field : SingleField} {carrier : Int}
    (h : field.shape.Intact message carrier) :
    Renders (shapeLines field) (shapeText field.shape) := by
  unfold shapeLines
  cases hshape : field.shape with
  | plain => exact .ok _
  | array extent => exact .bind (.writable _) (.ok _)
  | packed extent slices => exact .bind (.writable _) (.ok _)
  | unknown kind =>
    rw [hshape] at h
    exact absurd h id

theorem renders_singleLines (h : model.Intact) {field : SingleField}
    (hfield : field.Intact model message) :
    Renders (singleLines model.types field) (singleText field) :=
  .bind (.inl (typeExpression_of_intact h hfield.type)) <|
    .bind (.writable _) <| .bind (renders_shapeLines hfield.shape) (.ok _)

/-- What holds of the variants of an intact field. -/
def VariantIntact (model : Model) (message : Message) (variant : Field × List Condition) : Prop :=
  ∃ field, variant.1 = .single field ∧ field.Intact model message ∧
    Condition.Intact message field.number variant.2

theorem renders_variantEntry (h : model.Intact) {variant : Field × List Condition}
    (hvariant : VariantIntact model message variant) :
    Renders (variantEntry model.types variant) (variantText variant) := by
  obtain ⟨field, conditions⟩ := variant
  obtain ⟨single, rfl, hsingle, -⟩ := hvariant
  exact .bind (renders_singleLines h hsingle) (.bind (.writable _) (.ok _))

theorem renders_variantEntries (h : model.Intact) {variants : List (Field × List Condition)}
    (hvariants : ∀ variant ∈ variants, VariantIntact model message variant) :
    Renders (variantEntries model.types variants) (variants.flatMap variantText) := by
  induction variants with
  | nil => exact .ok _
  | cons variant rest ih =>
    exact .bind (renders_variantEntry h (hvariants variant (by simp)))
      (.bind (ih fun other hmem => hvariants other (by simp [hmem])) (.ok _))

theorem renders_fieldLines (h : model.Intact) {field : Field}
    (hfield : field.Intact model message) :
    Renders (fieldLines model.types field) (fieldText field) := by
  cases hfield with
  | @single single hsingle =>
    have hlines := renders_singleLines h hsingle
    have hshape := hsingle.shape
    unfold fieldLines
    dsimp only
    split
    next kind hs =>
      rw [hs] at hshape
      exact absurd hshape id
    next => exact hlines
  | @dynamic standard variants hstandard _ hvariants =>
    have hintact : ∀ variant ∈ variants, VariantIntact model message variant := by
      intro variant hmem
      obtain ⟨single, heq, -, hsingle, hconditions⟩ := hvariants variant hmem
      exact ⟨single, heq, hsingle, hconditions⟩
    exact .bind (renders_singleLines h hstandard)
      (.bind (renders_variantEntries h hintact) (.ok _))

theorem renders_fieldEntries (h : model.Intact) {fields : List Field}
    (hfields : ∀ field ∈ fields, field.Intact model message) :
    Renders (fieldEntries model.types fields) (fields.flatMap fieldBlock) := by
  induction fields with
  | nil => exact .ok _
  | cons field rest ih =>
    have hentry : Renders (fieldEntry model.types field) (fieldBlock field) :=
      .bind (.writable _) (.bind (renders_fieldLines h (hfields field (by simp))) (.ok _))
    exact .bind hentry (.bind (ih fun other hmem => hfields other (by simp [hmem])) (.ok _))

/-- The fields of an intact message ascend, so sorting leaves them where they are. -/
theorem sortBy_of_intact (h : message.Intact model) :
    Order.sortBy (fun a b => decide (a.number ≤ b.number)) message.fields = message.fields := by
  apply Order.sortBy_of_pairwise
  refine h.ascending.imp ?_
  intro a b hab
  exact decide_eq_true (Int.le_of_lt hab)

theorem renders_messageEntries (h : model.Intact) {messages : List Message}
    (hmessages : ∀ message ∈ messages, message.Intact model) :
    Renders (messageEntries model.types messages) (messages.flatMap messageBlock) := by
  induction messages with
  | nil => exact .ok _
  | cons message rest ih =>
    have hmessage := hmessages message (by simp)
    have hentry : Renders (messageEntry model.types message) (messageBlock message) := by
      refine .bind (.writable _) ?_
      dsimp only
      rw [sortBy_of_intact hmessage]
      exact .bind (renders_fieldEntries h hmessage.fields) (.ok _)
    exact .bind hentry (.bind (ih fun other hmem => hmessages other (by simp [hmem])) (.ok _))

/-- The profile that an intact model is rendered to. -/
def profileOf (model : Model) (moment : Option Moment) : Profile :=
  { types := text (typesLines model moment)
    messages := text (messagesText model moment)
    profile := text (profileLines model moment)
    stringerInput := model.stringerInput
    unmatched := model.unmatched }

/-- An intact model is rendered, unless an integer in it is too long to write. -/
theorem renders_render (h : model.Intact) (moment : Option Moment) :
    Renders (model.render moment) (profileOf model moment) := by
  have hmessages : Renders (messagesLines model moment) (messagesText model moment) :=
    .bind (renders_messageEntries h h.messages) (.ok _)
  exact .bind (.writable _) (.bind hmessages (.bind (.writable _) (.ok _)))

end FitProfile.Source
