import FitProfile.Proofs.Linking.Integrity
/-!
# FitProfile.Proofs.Linking.ReferenceValues -- the values of reference fields

A condition of a variant pairs the text of a value with the number that the text stands for as a
value of the reference field. There are two ways to that number. Where the type of the field
declares a value of that name, the number is the declared one, and it is taken as it is; any
other text must be an integer in the range of the base type, so a field of that type can hold it
(`conditionValue_of_linkedFrom`). Declared values are not measured when a workbook is read, so
a number fits its field as far as the declarations do.
-/

namespace FitProfile

open FitProfile.Draft FitProfile.Outcome

/-- A type that is stored as integers, with a number in the range of these. -/
def FieldType.Holds (type : FieldType) (n : Int) : Prop :=
  ∃ base low high, type.base? = some base ∧ base.isInteger = true ∧
    base.range? = some (low, high) ∧ low ≤ n ∧ n ≤ high

/-- A value of a condition that selects a variant of a field of the message. -/
def Message.Selects (message : Message) (condition : Condition) (text : String) (raw : Int) :
    Prop :=
  ∃ standard variants, Field.dynamic standard variants ∈ message.fields ∧
    ∃ variant ∈ variants, condition ∈ variant.2 ∧ (text, raw) ∈ condition.values

theorem BaseType.isInteger_of_range? {base : BaseType} {range : Int × Int}
    (h : base.range? = some range) : base.isInteger = true := by
  unfold BaseType.range? at h
  split at h
  next hinteger => exact hinteger
  next => cases h

namespace LinkContext

variable {c : LinkContext} {message : Message}

/-- The field that a name leads to, with its type. -/
theorem field_of_main? (hfields : c.linkFields = .ok message.fields)
    (hascending : message.fields.Pairwise fun a b => a.number < b.number) {name : String}
    {target : FieldRow} (hfound : c.main? name = some target) :
    ∃ field, message.field? target.number = some field ∧ field.name = name ∧
      TypeTable.lookup? c.types target.typeName = some field.lead.type := by
  obtain ⟨block, rfl, hname, field, hmem, hlinks⟩ := exists_blockLinks_of_main? hfields hfound
  refine ⟨field, ?_, ?_, ?_⟩
  · rw [← hlinks.number_eq]
    exact field?_of_ascending hascending hmem
  · rw [hlinks.name_eq, hname]
  · cases hlinks with
    | single _ links => exact links.type
    | dynamic _ links _ => exact links.type

/-- Reading a text goes by the names of the values first, then by the range of the base type. -/
theorem value_of_read? {types : List TypeDef} {name text : String} {type : FieldType}
    {m : Meaning} {raw : Int} (htype : TypeTable.lookup? types name = some type)
    (hmeaning : TypeTable.meaning? types name = some m) (hread : m.read? text = some raw) :
    namedValue? type text = some raw ∨
      (namedValue? type text = none ∧ Number.literal? text = some raw ∧ type.Holds raw) := by
  obtain ⟨m', hm, hvalues, hbase⟩ := TypeTable.meaning?_of_lookup? htype
  obtain rfl : m' = m := Option.some.inj (hm.symm.trans hmeaning)
  rw [namedValue?_eq_lookup hvalues]
  unfold Meaning.read? at hread
  cases hlookup : m'.values.lookup text with
  | some named =>
    rw [hlookup, Option.some_or] at hread
    exact .inl hread
  | none =>
    rw [hlookup, Option.none_or] at hread
    obtain ⟨⟨low, high⟩, hrange, hliteral⟩ := Option.bind_eq_some_iff.mp hread
    obtain ⟨hliteral, hin⟩ := Option.filter_eq_some_iff.mp hliteral
    obtain ⟨hlow, hhigh⟩ := of_decide_eq_true hin
    exact .inr ⟨rfl, hliteral, m'.base, low, high, hbase,
      BaseType.isInteger_of_range? hrange, hrange, hlow, hhigh⟩

/-- The values of a linked condition, each with the type of its reference field. -/
theorem value_of_linkConditions (hfields : c.linkFields = .ok message.fields)
    (hascending : message.fields.Pairwise fun a b => a.number < b.number) {sub : FieldRow}
    {conditions : List Condition}
    (h : c.linkConditions sub [] sub.references = .ok conditions) {condition : Condition}
    (hcondition : condition ∈ conditions) {text : String} {raw : Int}
    (hvalue : (text, raw) ∈ condition.values) :
    ∃ field, message.field? condition.number = some field ∧ field.name = condition.name ∧
      (namedValue? field.lead.type text = some raw ∨
        (namedValue? field.lead.type text = none ∧ Number.literal? text = some raw ∧
          field.lead.type.Holds raw)) := by
  obtain ⟨-, -, selections, hall, hperm⟩ := linkConditions_spec h
  -- the value is a selection, and so one of the references of the row
  have hflat : (⟨condition.name, condition.number, text, raw⟩ : Selection) ∈
      Condition.flatten conditions :=
    Condition.mem_flatten.mpr ⟨condition, hcondition, rfl, rfl, hvalue⟩
  obtain ⟨reference, -, hselection, -⟩ :=
    forall₂_exists_of_mem_right hall (hperm.mem_iff.mp hflat)
  obtain ⟨target, m, hfound, hmeaning, hread, hname, hnumber, htext⟩ :=
    selection?_eq_some.mp hselection
  simp only at hread hname hnumber htext
  rw [← hname] at hfound
  rw [← htext] at hread
  obtain ⟨field, hfield, hfieldName, htype⟩ := field_of_main? hfields hascending hfound
  rw [hnumber]
  exact ⟨field, hfield, hfieldName, value_of_read? htype hmeaning hread⟩

end LinkContext

namespace Model

variable {rules : RuleSet} {version : Version} {book : Workbook} {model : Model}

theorem LinkedFrom.value (h : model.LinkedFrom rules version book) {message : Message}
    (hmessage : message ∈ model.messages) {condition : Condition} {text : String} {raw : Int}
    (hvalue : message.Selects condition text raw) :
    ∃ field, message.field? condition.number = some field ∧ field.name = condition.name ∧
      (LinkContext.namedValue? field.lead.type text = some raw ∨
        (LinkContext.namedValue? field.lead.type text = none ∧
          Number.literal? text = some raw ∧ field.lead.type.Holds raw)) := by
  obtain ⟨draft, -, hmodel⟩ := h
  obtain ⟨numbers, -, -, -, hblocks⟩ := messageLinks_of_ofDraft hmodel
  obtain ⟨block, -, hlinks⟩ := hblocks message hmessage
  have hascending := LinkContext.ascending_of_linkFields hlinks.checked hlinks.fields
  obtain ⟨standard, variants, hdynamic, variant, hvariant, hcondition, hvalue⟩ := hvalue
  obtain ⟨fieldBlock, -, hblock⟩ := LinkContext.exists_blockLinks_of_mem hlinks.fields hdynamic
  cases hblock with
  | dynamic _ _ variantLinks =>
    obtain ⟨linkedVariant, hmem, rfl⟩ := List.mem_map.mp hvariant
    obtain ⟨sub, -, hsub⟩ := forall₂_exists_of_mem_right variantLinks hmem
    exact LinkContext.value_of_linkConditions hlinks.fields hascending hsub.conditions hcondition
      hvalue

/-- A declared value is one of the values of a type of the model. -/
theorem LinkedFrom.held_of_named (h : model.LinkedFrom rules version book) {message : Message}
    (hmessage : message ∈ model.messages) {field : Field} (hfield : field ∈ message.fields)
    (hdeclared : ∀ type ∈ model.types, ∀ v ∈ type.values, (FieldType.declared type).Holds v.value)
    {text : String} {raw : Int}
    (hnamed : LinkContext.namedValue? field.lead.type text = some raw) :
    field.lead.type.Holds raw := by
  have hbelongs : field.lead.type.BelongsTo model := by
    cases (h.intact.messages message hmessage).fields field hfield with
    | single hsingle => exact hsingle.type
    | dynamic hsingle _ _ => exact hsingle.type
  cases htype : field.lead.type with
  | declared t =>
    rw [htype] at hnamed hbelongs
    obtain ⟨v, hv, rfl⟩ := Option.map_eq_some_iff.mp hnamed
    exact hdeclared t (List.mem_of_find?_eq_some hbelongs) v (List.mem_of_find?_eq_some hv)
  | base b => simp [htype, LinkContext.namedValue?] at hnamed
  | foreign name => simp [htype, LinkContext.namedValue?] at hnamed
  | invalid value => simp [htype, LinkContext.namedValue?] at hnamed

/-- Every value that selects a variant is a value of the reference field: the declared one of that
name, or, where there is none, an integer literal in the range of the base type. So the field can
hold it, if the types of the model declare only numbers that they can hold. -/
theorem conditionValue_of_linkedFrom (rules : RuleSet) (version : Version) (book : Workbook)
    (model : Model) (message : Message) (condition : Condition) (text : String) (raw : Int)
    (hmodel : model.LinkedFrom rules version book) (hmessage : message ∈ model.messages)
    (hvalue : message.Selects condition text raw) :
    ∃ field, message.field? condition.number = some field ∧ field.name = condition.name ∧
      (LinkContext.namedValue? field.lead.type text = some raw ∨
        (LinkContext.namedValue? field.lead.type text = none ∧
          Number.literal? text = some raw ∧ field.lead.type.Holds raw)) ∧
      ((∀ type ∈ model.types, ∀ v ∈ type.values, (FieldType.declared type).Holds v.value) →
        field.lead.type.Holds raw) := by
  obtain ⟨field, hfield, hname, hread⟩ := hmodel.value hmessage hvalue
  refine ⟨field, hfield, hname, hread, ?_⟩
  intro hdeclared
  rcases hread with hnamed | ⟨-, -, hheld⟩
  · exact hmodel.held_of_named hmessage (List.mem_of_find?_eq_some hfield) hdeclared hnamed
  · exact hheld

/-- The trigger of the timer in the event workbook is the number five as a literal, which an event
can hold. -/
theorem eventBook_conditionValue : ∃ (model : Model) (message : Message) (condition : Condition),
    model.LinkedFrom .sdk20 ⟨21, 0⟩ eventBook ∧ message ∈ model.messages ∧
      message.Selects condition "0x05" 5 ∧
      ∃ field, message.field? condition.number = some field ∧ field.name = condition.name ∧
        (LinkContext.namedValue? field.lead.type "0x05" = some 5 ∨
          (LinkContext.namedValue? field.lead.type "0x05" = none ∧
            Number.literal? "0x05" = some 5 ∧ field.lead.type.Holds 5)) ∧
        ((∀ type ∈ model.types, ∀ v ∈ type.values, (FieldType.declared type).Holds v.value) →
          field.lead.type.Holds 5) := by
  have hlinked : ∃ (model : Model) (message : Message) (condition : Condition),
      model.LinkedFrom .sdk20 ⟨21, 0⟩ eventBook ∧ message ∈ model.messages ∧
        message.Selects condition "0x05" 5 :=
    ⟨_, _, _, ⟨_, rfl, rfl⟩, .head _, _, _, .tail _ (.tail _ (.head _)), _, .head _, .head _,
      .tail _ (.head _)⟩
  obtain ⟨model, message, condition, hmodel, hmessage, hvalue⟩ := hlinked
  exact ⟨model, message, condition, hmodel, hmessage, hvalue,
    conditionValue_of_linkedFrom .sdk20 ⟨21, 0⟩ eventBook model message condition "0x05" 5 hmodel
      hmessage hvalue⟩

/-- The event workbook with another base type and another number for the timer. -/
def eventBookOver (base timer : String) : Workbook where
  sheets :=
    [("Version", [["21.0"]]),
     ("Types",
      [["Type Name", "Base Type", "Value Name", "Value", "Comment"],
       ["mesg_num", "uint16"], ["", "", "event", "21"],
       ["event", base], ["", "", "timer", timer]]),
     ("Messages",
      [["Message Name", "Field Def #", "Field Name", "Field Type", "Array", "Components", "Scale",
        "Offset", "Units", "Bits", "Accumulate", "Ref Field Name", "Ref Field Value", "Comment"],
       ["event"],
       ["", "3", "data", "uint32"],
       ["", "", "timer_trigger", "uint16", "", "", "", "", "", "", "", "event", "timer"],
       ["", "0", "event", "event"]])]

/-- Declared numbers are taken as they are: one that is too big for its type, and one of a type
that is not stored as integers. -/
theorem declaredValues_not_held :
    (∃ (model : Model) (message : Message) (condition : Condition) (field : Field),
      model.LinkedFrom .sdk20 ⟨21, 0⟩ (eventBookOver "enum" "300") ∧ message ∈ model.messages ∧
        message.Selects condition "timer" 300 ∧
        message.field? condition.number = some field ∧ ¬ field.lead.type.Holds 300) ∧
      ∃ (model : Model) (message : Message) (condition : Condition) (field : Field),
        model.LinkedFrom .sdk20 ⟨21, 0⟩ (eventBookOver "string" "0") ∧
          message ∈ model.messages ∧ message.Selects condition "timer" 0 ∧
          message.field? condition.number = some field ∧ ¬ field.lead.type.Holds 0 := by
  refine ⟨⟨_, _, _, _, ⟨_, rfl, rfl⟩, .head _, ⟨_, _, .tail _ (.head _), _, .head _, .head _,
    .head _⟩, rfl, ?_⟩, ⟨_, _, _, _, ⟨_, rfl, rfl⟩, .head _, ⟨_, _, .tail _ (.head _), _, .head _,
    .head _, .head _⟩, rfl, ?_⟩⟩
  · rintro ⟨base, low, high, hbase, -, hrange, -, hhigh⟩
    cases hbase
    cases hrange
    exact absurd hhigh (by decide)
  · rintro ⟨base, low, high, hbase, hinteger, -⟩
    cases hbase
    exact absurd hinteger (by decide)

end Model

end FitProfile
