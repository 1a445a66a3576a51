import FitProfile.Proofs.Linking.Grouping
import FitProfile.Proofs.Source.Outline
import FitProfile.Proofs.Source.Printing
/-!
# FitProfile.Proofs.Source.References -- references from the sheet to the module

The reference columns of a subfield hold pairs of a name and a text. Linking groups them by
name, and rendering lays the groups out flat again, value by value. On the way no pair is lost
and none is written twice (`references_of_ofDraft`): the entries of a variant are the pairs of
its row, and no value of a reference field stands in the entries of two variants.
-/

namespace FitProfile

open FitProfile.Draft FitProfile.Number FitProfile.Outcome

namespace Source

/-- The entries of the references of a variant, one for each value of each condition. -/
def referenceEntries (conditions : List Condition) : List (List String) :=
  (Condition.flatten conditions).map selectionEntry

/-- The references of a variant are written entry by entry. -/
theorem variantText_eq (variant : Field × List Condition) :
    variantText variant = block "SubField(" (singleText variant.1.lead ++
      block "ref_fields=(" (referenceEntries variant.2).flatten "),") ")," := by
  rw [variantText, conditionsText, conditionEntries_eq, referenceEntries, List.flatMap_def]

/-- Values that select apart have entries apart. -/
theorem nodup_referenceEntries {conditions : List Condition}
    (h : (LinkContext.selectors conditions).Nodup) : (referenceEntries conditions).Nodup := by
  refine (List.nodup_map_iff ?_).mpr (List.Nodup.of_map _ h)
  intro s t hentry
  exact readable_selection.inj trivial trivial hentry

end Source

namespace Model

variable {rules : RuleSet} {version : Version} {draft : Draft} {model : Model}

/-- The message that a block of the draft links to. -/
theorem exists_message_of_ofDraft (h : ofDraft rules version draft = .ok model)
    {block : MessageBlock} (hblock : block ∈ draft.messages) :
    ∃ numbers, ∃ message ∈ model.messages,
      MessageLinks ⟨rules.messagesSheet, model.types, block⟩ numbers message := by
  obtain ⟨numbers, -, -, hmessages, -⟩ := messageLinks_of_ofDraft h
  exact ⟨numbers, hmessages block hblock⟩

/-- The references of every subfield, from the sheet to the module of the messages. The variants
of its field group them by reference field, one after the other as the fields are first named;
no two values of a field select alike, so none selects two variants. Where the model is rendered,
the entries of a variant are the values of its conditions, each once, condition by condition. -/
theorem references_of_ofDraft (rules : RuleSet) (version : Version) (draft : Draft) (model : Model)
    (block : MessageBlock) (rows : FieldBlock) (hmodel : ofDraft rules version draft = .ok model)
    (hblock : block ∈ draft.messages) (hrows : rows ∈ block.fields)
    (hseveral : rows.subfields ≠ []) :
    ∃ message ∈ model.messages, message.name = block.name ∧
      ∃ standard variants, Field.dynamic (.single standard) variants ∈ message.fields ∧
        standard.name = rows.main.name ∧
        LinkContext.GroupsSubfields ⟨rules.messagesSheet, model.types, block⟩ rows variants ∧
        ∀ moment profile, model.render moment = .ok profile →
          (∃ lines, Source.messagesLines model moment = .ok lines ∧
            profile.messages = Source.text lines ∧
            Source.nested 3 (Source.fieldBlock (.dynamic (.single standard) variants)) <:+: lines) ∧
          ∀ variant ∈ variants, (Source.referenceEntries variant.2).Nodup ∧
            Source.variantText variant = Source.block "SubField("
              (Source.singleText variant.1.lead ++ Source.block "ref_fields=("
                (Source.referenceEntries variant.2).flatten "),") ")," := by
  obtain ⟨numbers, message, hmessage, hlinks⟩ := exists_message_of_ofDraft hmodel hblock
  refine ⟨message, hmessage, hlinks.name, ?_⟩
  have hordered : rows ∈ LinkContext.orderedBlocks ⟨rules.messagesSheet, model.types, block⟩ :=
    LinkContext.mem_orderedBlocks.mpr hrows
  obtain ⟨field, hfield, hlink⟩ :=
    forall₂_exists_of_mem (LinkContext.linkBlocks_eq_ok.mp hlinks.fields) hordered
  obtain ⟨standard, variants, rfl, hname, hgroups⟩ :=
    LinkContext.groupsSubfields_of_linkBlock hlink hseveral
  refine ⟨standard, variants, hfield, hname, hgroups, ?_⟩
  intro moment profile hprofile
  refine ⟨?_, ?_⟩
  · obtain ⟨hlines, -, htext, -⟩ := Source.render_eq_ok hprofile
    refine ⟨_, hlines, htext, ?_⟩
    have hsorted : Field.dynamic (.single standard) variants ∈ (Source.ordered message).fields :=
      Order.mem_sortBy.mpr hfield
    exact Source.infix_messagesText (List.mem_map_of_mem hmessage) hsorted
  · intro variant hvariant
    refine ⟨Source.nodup_referenceEntries ?_, Source.variantText_eq variant⟩
    exact (List.nodup_flatMap.mp hgroups.distinct).1 variant hvariant

/-- A workbook with two subfields. The references of the first one name an event, a kind, and an
event again; those of the second one name the kind by a value that the first leaves out. -/
def interleavedBook : Workbook where
  sheets :=
    [("Version", [["21.0"]]),
     ("Types",
      [["Type Name", "Base Type", "Value Name", "Value", "Comment"],
       ["mesg_num", "uint16"], ["", "", "event", "21"],
       ["event", "enum"], ["", "", "timer", "0"], ["", "", "workout", "3"]]),
     ("Messages",
      [["Message Name", "Field Def #", "Field Name", "Field Type", "Array", "Components", "Scale",
        "Offset", "Units", "Bits", "Accumulate", "Ref Field Name", "Ref Field Value", "Comment"],
       ["event"],
       ["", "3", "data", "uint32"],
       ["", "", "trigger", "uint16", "", "", "", "", "", "", "", "event,kind,event",
        "timer,1,0x05"],
       ["", "", "level", "uint16", "", "", "", "", "", "", "", "kind", "2"],
       ["", "0", "event", "event"],
       ["", "1", "kind", "uint8"]])]

/-- The event that is named twice becomes one condition with two values, in front of the kind. -/
theorem interleavedBook_references : ∃ (draft : Draft) (model : Model) (block : MessageBlock)
    (rows : FieldBlock) (message : Message) (standard : SingleField)
    (variants : List (Field × List Condition)),
    (Draft.ofWorkbook .sdk20 ⟨21, 0⟩ interleavedBook).outcome = .ok draft ∧
      ofDraft .sdk20 ⟨21, 0⟩ draft = .ok model ∧ block ∈ draft.messages ∧ rows ∈ block.fields ∧
      (rows.subfields.map fun sub => sub.references) =
        [[("event", "timer"), ("kind", "1"), ("event", "0x05")], [("kind", "2")]] ∧
      message ∈ model.messages ∧ Field.dynamic (.single standard) variants ∈ message.fields ∧
      LinkContext.GroupsSubfields ⟨RuleSet.sdk20.messagesSheet, model.types, block⟩ rows
        variants := by
  have hbook : ∃ (draft : Draft) (model : Model) (block : MessageBlock) (rows : FieldBlock),
      (Draft.ofWorkbook .sdk20 ⟨21, 0⟩ interleavedBook).outcome = .ok draft ∧
        ofDraft .sdk20 ⟨21, 0⟩ draft = .ok model ∧ block ∈ draft.messages ∧ rows ∈ block.fields ∧
        (rows.subfields.map fun sub => sub.references) =
          [[("event", "timer"), ("kind", "1"), ("event", "0x05")], [("kind", "2")]] :=
    ⟨_, _, _, _, rfl, rfl, .head _, .head _, rfl⟩
  obtain ⟨draft, model, block, rows, hdraft, hmodel, hblock, hrows, hreferences⟩ := hbook
  have hseveral : rows.subfields ≠ [] := by
    intro hnil
    rw [hnil] at hreferences
    cases hreferences
  obtain ⟨message, hmessage, -, standard, variants, hfield, -, hgroups, -⟩ :=
    references_of_ofDraft .sdk20 ⟨21, 0⟩ draft model block rows hmodel hblock hrows hseveral
  exact ⟨draft, model, block, rows, message, standard, variants, hdraft, hmodel, hblock, hrows,
    hreferences, hmessage, hfield, hgroups⟩

end Model

end FitProfile
