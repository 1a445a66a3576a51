import FitProfile.Proofs.Linking.TypePlaces
import FitProfile.Proofs.Source.Removal
/-!
# FitProfile.Proofs.Source.TypePlaces -- source text over types in other places

A field writes the name of its type and nothing else of it. So the module of the messages is the
same text over types in another order and in other rows (`messagesLines_placed`), and the module of
the release only asks whether a type of a certain name is there (`timestampType_congr`). The module
of the types and the stringer input list the types in their order: `Profile.ListsTypes` says which
types a profile lists.
-/

namespace FitProfile

open FitProfile.Outcome FitProfile.Source FitProfile.TypeTable

namespace Source

variable {model model' : Model} {message : Message} {places : String → Option Int}

/-! ## Entries over moved types -/

/-- A type that belongs to the one model belongs in its other place to the other. -/
theorem belongsTo_placed (htypes : Moves places model.types model'.types) {type : FieldType}
    (htype : type.BelongsTo model) : (type.placed places).BelongsTo model' := by
  cases type with
  | base b => trivial
  | declared t =>
    have hfound : find? model.types t.name = some t := htype
    show find? model'.types t.name = some (t.placed places)
    rw [htypes, hfound, Option.map_some]
  | foreign name => exact absurd htype id
  | invalid value => exact absurd htype id

/-- Entries are the same one by one when they are made in the same way. -/
theorem entries_map_congr {α : Type} (entry entry' : α → Except Fault (List String))
    (entries entries' : List α → Except Fault (List String)) (hnil : entries' [] = entries [])
    (hcons : ∀ a rest, entries (a :: rest) = do
      let lines ← entry a
      let others ← entries rest
      return lines ++ others)
    (hcons' : ∀ a rest, entries' (a :: rest) = do
      let lines ← entry' a
      let others ← entries' rest
      return lines ++ others) {f : α → α} {list : List α}
    (h : ∀ a ∈ list, entry' (f a) = entry a) : entries' (list.map f) = entries list := by
  induction list with
  | nil => exact hnil
  | cons a rest ih =>
    obtain ⟨ha, hrest⟩ := List.forall_mem_cons.mp h
    rw [List.map_cons, hcons, hcons', ha, ih hrest]

section Moved

variable (h : model.Intact) (h' : model'.Intact) (htypes : Moves places model.types model'.types)
include h h' htypes

theorem singleLines_placed {field : SingleField} (hfield : field.Intact model message) :
    singleLines model'.types (field.placed places) = singleLines model.types field := by
  have htype : typeText (field.type.placed places) = typeText field.type := by
    cases field.type <;> rfl
  have hwritten : typeExpression model'.types (field.placed places).type =
      typeExpression model.types field.type := by
    rw [typeExpression_of_intact h hfield.type, ← htype]
    exact typeExpression_of_intact h' (belongsTo_placed htypes hfield.type)
  unfold singleLines
  rw [hwritten]
  rfl

theorem variantEntry_placed {variant : Field × List Condition}
    (hvariant : VariantIntact model message variant) :
    variantEntry model'.types (.single (variant.1.lead.placed places), variant.2) =
      variantEntry model.types variant := by
  obtain ⟨_, conditions⟩ := variant
  obtain ⟨field, rfl, hfield, -⟩ := hvariant
  have hlines := singleLines_placed h h' htypes hfield
  simp only [variantEntry, innerLines, Field.lead, hlines]

theorem fieldLines_placed {field : Field} (hfield : field.Intact model message) :
    fieldLines model'.types (field.placed places) = fieldLines model.types field := by
  cases hfield with
  | @single single hsingle =>
    have hlines := singleLines_placed h h' htypes hsingle
    simp only [fieldLines, Field.placed, hlines]
    rfl
  | @dynamic standard variants hstandard _ hvariants =>
    have hlines := singleLines_placed h h' htypes hstandard
    have hentries : variantEntries model'.types (variants.map fun variant =>
        (.single (variant.1.lead.placed places), variant.2)) =
        variantEntries model.types variants := by
      refine entries_map_congr (variantEntry model.types) (variantEntry model'.types)
        (variantEntries model.types) (variantEntries model'.types) rfl (fun _ _ => rfl)
        (fun _ _ => rfl) fun variant hmem => ?_
      obtain ⟨single, heq, -, hsingle, hconditions⟩ := hvariants variant hmem
      exact variantEntry_placed h h' htypes ⟨single, heq, hsingle, hconditions⟩
    simp only [fieldLines, Field.placed, innerLines, Field.lead, hlines, hentries]

theorem messageEntry_placed (hmessage : message.Intact model)
    (hmessage' : (message.placed places).Intact model') :
    messageEntry model'.types (message.placed places) = messageEntry model.types message := by
  have hentries : fieldEntries model'.types (message.fields.map (Field.placed places)) =
      fieldEntries model.types message.fields := by
    refine entries_map_congr (fieldEntry model.types) (fieldEntry model'.types)
      (fieldEntries model.types) (fieldEntries model'.types) rfl (fun _ _ => rfl)
      (fun _ _ => rfl) fun field hmem => ?_
    simp only [fieldEntry, fieldLines_placed h h' htypes (hmessage.fields field hmem),
      Field.placed_number]
  unfold messageEntry
  rw [sortBy_of_intact hmessage, sortBy_of_intact hmessage']
  simp only [Message.placed, hentries]

/-- The module of the messages is the same over types in other places. -/
theorem messagesLines_placed
    (hmessages : model'.messages = model.messages.map (Message.placed places))
    (hversion : model'.version = model.version) (moment : Option Moment) :
    messagesLines model' moment = messagesLines model moment := by
  have hentries : messageEntries model'.types model'.messages =
      messageEntries model.types model.messages := by
    rw [hmessages]
    refine entries_map_congr (messageEntry model.types) (messageEntry model'.types)
      (messageEntries model.types) (messageEntries model'.types) rfl (fun _ _ => rfl)
      (fun _ _ => rfl) fun message hmem => ?_
    refine messageEntry_placed h h' htypes (h.messages message hmem) (h'.messages _ ?_)
    rw [hmessages]
    exact List.mem_map_of_mem hmem
  rw [messagesLines, messagesLines, hentries, hversion]

end Moved

/-! ## The module of the release -/

/-- The type of the timestamp depends on the names of the types alone. -/
theorem timestampType_congr (htypes : Moves places model.types model'.types) :
    timestampType model'.types = timestampType model.types := by
  have hany : ∀ types : List TypeDef,
      (types.any fun t => t.name == dateTimeName) = (find? types dateTimeName).isSome := by
    intro types
    rw [Bool.eq_iff_iff, isSome_find?]
    simp
  unfold timestampType
  rw [hany, hany, htypes, Option.isSome_map]

theorem profileLines_placed (htypes : Moves places model.types model'.types)
    (hmessages : model'.messages = model.messages.map (Message.placed places))
    (hversion : model'.version = model.version) (moment : Option Moment) :
    profileLines model' moment = profileLines model moment := by
  unfold profileLines
  rw [timestampType_congr htypes, hversion, hmessages, List.map_map, List.map_map]
  rfl

end Source

/-! ## The types that a profile lists -/

/-- A profile whose module of the types has an entry for each of the types in this order, and whose
stringer input names the enumerated integer types among them in this order. -/
structure Profile.ListsTypes (profile : Profile) (version : Version) (moment : Option Moment)
    (types : List TypeDef) : Prop where
  source : profile.types = text (typesLines ⟨version, types, [], []⟩ moment)
  stringerInput : profile.stringerInput = Model.stringerInput ⟨version, types, [], []⟩

/-- Integers can be written when each of them can. -/
theorem Fault.writable_eq_ok {numbers : List Int} :
    Fault.writable numbers = .ok () ↔ ∀ n ∈ numbers, Number.isWritable n = true := by
  rw [Fault.writable, ← List.all_eq_true]
  split
  next h => simp [h]
  next h => simp [h]

namespace Model

variable {model model' : Model} {moment : Option Moment} {profile : Profile}

theorem typesLines_content (version : Version) (types : List TypeDef) (moment : Option Moment) :
    typesLines ⟨version, types.map TypeDef.content, [], []⟩ moment =
      typesLines ⟨version, types, [], []⟩ moment := by
  simp only [typesLines, List.flatMap_map]
  rfl

theorem stringerInput_content (version : Version) (types : List TypeDef) :
    stringerInput ⟨version, types.map TypeDef.content, [], []⟩ =
      stringerInput ⟨version, types, [], []⟩ := by
  simp only [stringerInput, List.filter_map, List.map_map]
  rfl

/-- A profile lists the types of its model, in whatever rows they stand. -/
theorem listsTypes_of_render (h : model.render moment = .ok profile) {types : List TypeDef}
    (hcontent : types.map TypeDef.content = model.types.map TypeDef.content) :
    profile.ListsTypes model.version moment types := by
  obtain ⟨_, -, h⟩ := bind_eq_ok.mp h
  obtain ⟨messages, -, h⟩ := bind_eq_ok.mp h
  obtain ⟨_, -, hpure⟩ := bind_eq_ok.mp h
  cases hpure
  constructor
  · dsimp only
    rw [← typesLines_content, hcontent, typesLines_content]
    exact congrArg text (typesLines_congr rfl rfl)
  · rw [← stringerInput_content, hcontent, stringerInput_content]
    rfl

/-- A model with the same messages over moved types is rendered to the same text, apart from the
types. -/
theorem render_moved {places : String → Option Int} (h : model.Intact) (h' : model'.Intact)
    (htypes : TypeTable.Moves places model.types model'.types)
    (hversion : model'.version = model.version)
    (hmessages : model'.messages = model.messages.map (Message.placed places))
    (hunmatched : model'.unmatched = model.unmatched)
    (hrender : model.render moment = .ok profile) :
    ∃ profile', model'.render moment = .ok profile' ∧ profile'.messages = profile.messages ∧
      profile'.profile = profile.profile ∧ profile'.unmatched = profile.unmatched := by
  obtain ⟨_, hwritable, hrender⟩ := bind_eq_ok.mp hrender
  obtain ⟨messages, hlines, hrender⟩ := bind_eq_ok.mp hrender
  obtain ⟨_, hrelease, hpure⟩ := bind_eq_ok.mp hrender
  cases hpure
  -- each type of the one model has the values of a type of the other
  have hvalues : ∀ type' ∈ model'.types, ∃ type ∈ model.types, type'.values = type.values := by
    intro type' hmem
    have hfound : TypeTable.find? model'.types type'.name = some type' := h'.typesFound type' hmem
    rw [htypes] at hfound
    obtain ⟨type, htype, rfl⟩ := Option.map_eq_some_iff.mp hfound
    exact ⟨type, (TypeTable.find?_eq_some_name htype).2, rfl⟩
  have hwritable' : Fault.writable (typesIntegers model') = .ok () := by
    rw [Fault.writable_eq_ok] at hwritable ⊢
    intro n hn
    apply hwritable
    rw [typesIntegers, hversion] at hn
    rcases List.mem_append.mp hn with hn | hn
    · exact List.mem_append_left _ hn
    · obtain ⟨type', hmem, hn⟩ := List.mem_flatMap.mp hn
      obtain ⟨type, htype, hsame⟩ := hvalues type' hmem
      rw [hsame] at hn
      exact List.mem_append_right _ (List.mem_flatMap.mpr ⟨type, htype, hn⟩)
  have hlines' : messagesLines model' moment = .ok messages := by
    rw [messagesLines_placed h h' htypes hmessages hversion]
    exact hlines
  rw [← hversion] at hrelease
  refine ⟨_, bind_eq_ok.mpr ⟨(), hwritable', bind_eq_ok.mpr ⟨messages, hlines',
    bind_eq_ok.mpr ⟨(), hrelease, rfl⟩⟩⟩, rfl, ?_, hunmatched⟩
  dsimp only
  exact congrArg text (profileLines_placed htypes hmessages hversion moment)

end Model

end FitProfile
