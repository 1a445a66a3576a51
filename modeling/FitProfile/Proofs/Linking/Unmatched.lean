import FitProfile.Proofs.Linking.Removal
/-!
# FitProfile.Proofs.Linking.Unmatched -- numbers with and without a message

The type that numbers the messages gives a name to each number. Linking asks each message for a
name of that type as it comes to it, and lists the names that no message bears at the end, out of
all messages. The two fit together: every name of the type is that of a message or is listed, and
none is both (`unmatched_of_ofDraft`).
-/

namespace FitProfile

open FitProfile.Draft FitProfile.Outcome

namespace Model

variable {rules : RuleSet} {version : Version} {draft : Draft} {model : Model}

/-- Names fall apart into those that are borne and those that are free. The latter are listed in
strictly ascending order, hence once each, however often a name repeats. -/
structure Partitions (names borne free : List String) : Prop where
  borne_mem : ∀ name ∈ borne, name ∈ names
  apart : ∀ name ∈ borne, name ∉ free
  covered : ∀ name ∈ names, name ∈ borne ∨ name ∈ free
  free_mem : ∀ name ∈ free, name ∈ names
  ascending : free.Pairwise (· < ·)

theorem unmatchedNames_ascending (numbers : TypeDef) (messages : List Message) :
    (unmatchedNames numbers messages).Pairwise (· < ·) :=
  Order.pairwise_lt_sortBy_text (nodup_eraseDups _)

/-- Messages each of which bears a name of the type leave the other names free. -/
theorem partitions_unmatchedNames {numbers : TypeDef} {messages : List Message}
    (h : ∀ message ∈ messages, message.name ∈ numbers.values.map TypeValue.name) :
    Partitions (numbers.values.map TypeValue.name) (messages.map Message.name)
      (unmatchedNames numbers messages) where
  borne_mem := List.forall_mem_map.mpr h
  apart name hborne hfree := (mem_unmatchedNames.mp hfree).2 hborne
  covered name hname := by
    by_cases hborne : name ∈ messages.map Message.name
    · exact .inl hborne
    · exact .inr (mem_unmatchedNames.mpr ⟨hname, hborne⟩)
  free_mem name hfree := (mem_unmatchedNames.mp hfree).1
  ascending := unmatchedNames_ascending numbers messages

/-- The type that numbers the messages is the one of the model that the rules name. -/
theorem type?_of_messageNumberType {types : List TypeDef} {numbers : TypeDef}
    (h : messageNumberType rules types = .ok numbers) :
    rules.messageNumberType.bind (TypeTable.find? types) = some numbers := by
  unfold messageNumberType at h
  split at h
  next type htype =>
    cases h
    exact htype
  next => cases h

/-- In a linked model the names of the type that numbers the messages fall apart into those of
the messages and those of the numbers without a message. -/
theorem unmatched_of_ofDraft (rules : RuleSet) (version : Version) (draft : Draft) (model : Model)
    (h : ofDraft rules version draft = .ok model) :
    ∃ numbers, rules.messageNumberType.bind model.type? = some numbers ∧
      Partitions (numbers.values.map TypeValue.name) (model.messages.map Message.name)
        model.unmatched := by
  obtain ⟨numbers, hnumbers, hunmatched, -, hblocks⟩ := messageLinks_of_ofDraft h
  refine ⟨numbers, type?_of_messageNumberType hnumbers, ?_⟩
  rw [hunmatched]
  refine partitions_unmatchedNames ?_
  intro message hmem
  obtain ⟨block, -, hlinks⟩ := hblocks message hmem
  rw [hlinks.name]
  exact name_mem_of_valueOf? hlinks.number

/-- A workbook whose numbers have a name twice, and a name in two spellings. Only the last of the
names has a message. -/
def spelledBook : Workbook where
  sheets :=
    [("Types",
      [["Type Name", "Base Type", "Value Name", "Value", "Comment"],
       ["mesg_num", "uint16"], ["", "", "lap", "19"], ["", "", "Lap", "18"],
       ["", "", "lap", "17"], ["", "", "event", "21"]]),
     ("Messages",
      [["Message Name", "Field Def #", "Field Name", "Field Type", "Array", "Components", "Scale",
        "Offset", "Units", "Bits", "Accumulate", "Ref Field Name", "Ref Field Value", "Comment"],
       ["event"],
       ["", "3", "data", "uint32"]])]

/-- The two spellings are two names, each of them listed once, and the capital letter comes
first. -/
theorem spelledBook_unmatched : ∃ (draft : Draft) (model : Model) (numbers : TypeDef),
    (Draft.ofWorkbook .sdk20 ⟨21, 0⟩ spelledBook).outcome = .ok draft ∧
      ofDraft .sdk20 ⟨21, 0⟩ draft = .ok model ∧
      RuleSet.sdk20.messageNumberType.bind model.type? = some numbers ∧
      model.messages.map Message.name = ["event"] ∧ model.unmatched = ["Lap", "lap"] ∧
      Partitions ["lap", "Lap", "lap", "event"] ["event"] ["Lap", "lap"] := by
  have hlinked : ∃ (draft : Draft) (model : Model) (numbers : TypeDef),
      (Draft.ofWorkbook .sdk20 ⟨21, 0⟩ spelledBook).outcome = .ok draft ∧
        ofDraft .sdk20 ⟨21, 0⟩ draft = .ok model ∧
        RuleSet.sdk20.messageNumberType.bind model.type? = some numbers ∧
        numbers.values.map TypeValue.name = ["lap", "Lap", "lap", "event"] ∧
        model.messages.map Message.name = ["event"] ∧ model.unmatched = ["Lap", "lap"] :=
    ⟨_, _, _, rfl, rfl, rfl, rfl, rfl, rfl⟩
  obtain ⟨draft, model, numbers, hdraft, hmodel, hnumbers, hnames, hmessages, hunmatched⟩ := hlinked
  obtain ⟨numbers', hnumbers', hpartitions⟩ :=
    unmatched_of_ofDraft .sdk20 ⟨21, 0⟩ draft model hmodel
  obtain rfl : numbers = numbers' := Option.some.inj (hnumbers.symm.trans hnumbers')
  rw [hnames, hmessages, hunmatched] at hpartitions
  exact ⟨draft, model, numbers, hdraft, hmodel, hnumbers, hmessages, hunmatched, hpartitions⟩

end Model

end FitProfile
