import FitProfile.Proofs.Drafting
import FitProfile.Proofs.Linking.Messages
import FitProfile.RuleSet.Registry
/-!
# FitProfile.Proofs.Linking.Acceptance -- which drafts link

A draft links just when it is consistent. Linking looks at the types, at the numbers of
the messages and at the fields by ascending number, and stops at the first contradiction;
none of that order shows in `Draft.Consistent`. Whatever is not consistent is refused,
and the fault names a contradiction.
-/

namespace FitProfile

open FitProfile.Draft FitProfile.Outcome

/-- All field rows of a draft. -/
def Draft.rows (draft : Draft) : List FieldRow := draft.messages.flatMap MessageBlock.rows

/-- Sheets state arrays of some size alone. -/
theorem Draft.WellFormed.isArraySize {draft : Draft} (h : draft.WellFormed) {row : FieldRow}
    (hmem : row ∈ draft.rows) : Extent.IsArraySize row.extent := by
  obtain ⟨message, hmessage, hrow⟩ := List.mem_flatMap.mp hmem
  obtain ⟨block, hblock, hrow⟩ := List.mem_flatMap.mp hrow
  exact ((h.blocks message hmessage block hblock).row hrow).sized

namespace Model

variable {rules : RuleSet} {version : Version} {draft : Draft}

/-- The type that numbers the messages, and what the draft says it stands for. -/
theorem messageNumberType_eq_ok {types : List TypeDef}
    (htypes : TypeTable.ofDraft rules draft.types = .ok types) {numbers : TypeDef}
    (h : messageNumberType rules types = .ok numbers) :
    draft.numbering? rules = some numbers.meaning := by
  obtain ⟨-, -, hfind⟩ := TypeTable.ofDraft_eq_ok htypes
  unfold messageNumberType at h
  split at h
  next type htype =>
    cases h
    obtain ⟨name, hname, htype⟩ := Option.bind_eq_some_iff.mp htype
    rw [Draft.numbering?, hname, Option.bind_some, ← hfind name, htype, Option.map_some]
  next => cases h

theorem exists_messageNumberType {types : List TypeDef}
    (htypes : TypeTable.ofDraft rules draft.types = .ok types)
    (h : (draft.numbering? rules).isSome) :
    ∃ numbers, messageNumberType rules types = .ok numbers := by
  obtain ⟨-, -, hfind⟩ := TypeTable.ofDraft_eq_ok htypes
  obtain ⟨m, hm⟩ := Option.isSome_iff_exists.mp h
  obtain ⟨name, hname, hdeclared⟩ := Option.bind_eq_some_iff.mp hm
  rw [← hfind name] at hdeclared
  obtain ⟨type, htype, -⟩ := Option.map_eq_some_iff.mp hdeclared
  refine ⟨type, ?_⟩
  rw [messageNumberType, hname, Option.bind_some, htype]

theorem messageNumberType_refused {types : List TypeDef} {fault : Fault}
    (h : messageNumberType rules types = .error fault) :
    fault = .ofIntegrity (.messageNumberTypeMissing rules.messageNumberType)
      { sheet := rules.typesSheet } := by
  unfold messageNumberType at h
  split at h
  next => cases h
  next => exact (Except.error.inj h).symm

/-- The first value of a name, as the draft states the type. -/
theorem valueOf?_eq_messageNumber? {numbers : TypeDef}
    (h : draft.numbering? rules = some numbers.meaning) (name : String) :
    numbers.valueOf? name = draft.messageNumber? rules name := by
  rw [Draft.messageNumber?, h, Option.bind_some]
  exact (LinkContext.lookup_values numbers.values name).symm

/-! ## Linked messages and the draft -/

/-- Messages that are linked one by one bear the numbers that the draft states. -/
theorem map_number_of_links {sheet : Option String} {types : List TypeDef} {numbers : TypeDef}
    {blocks : List MessageBlock} {messages : List Message}
    (hnumbers : draft.numbering? rules = some numbers.meaning)
    (h : List.Forall₂ (fun block message => MessageLinks ⟨sheet, types, block⟩ numbers message)
      blocks messages) :
    blocks.map MessageBlock.name = messages.map Message.name ∧
      blocks.map (fun block => draft.messageNumber? rules block.name) =
        (messages.map Message.number).map some := by
  induction h with
  | nil => exact ⟨rfl, rfl⟩
  | cons hlinks _ ih =>
    obtain ⟨hnames, hnums⟩ := ih
    refine ⟨?_, ?_⟩
    · rw [List.map_cons, List.map_cons, hnames, hlinks.name]
    · rw [List.map_cons, List.map_cons, List.map_cons, hnums,
        ← valueOf?_eq_messageNumber? hnumbers, hlinks.number]

/-- A message links by itself when it is consistent and finds its number. -/
theorem exists_messageLinks {sheet : Option String} {types : List TypeDef} {numbers : TypeDef}
    (htypes : TypeTable.ofDraft rules draft.types = .ok types)
    (hnumbers : draft.numbering? rules = some numbers.meaning) {block : MessageBlock} :
    (∃ message, MessageLinks ⟨sheet, types, block⟩ numbers message) ↔
      block.Consistent (draft.meaning? rules) ∧ ∃ number,
        draft.messageNumber? rules block.name = some number ∧
          ∀ declared, block.declaredNumber = some declared → declared = number := by
  let c : LinkContext := ⟨sheet, types, block⟩
  -- over the linked types the names of the draft stand for the same
  have hconsistent : block.Consistent (draft.meaning? rules) ↔
      c.checkBlocks [] block.fields = .ok () ∧ ∃ fields, c.linkFields = .ok fields := by
    rw [← TypeTable.meaning?_ofDraft htypes]
    exact c.consistent_iff
  rw [hconsistent, ← valueOf?_eq_messageNumber? hnumbers]
  constructor
  · rintro ⟨message, h⟩
    exact ⟨⟨h.checked, _, h.fields⟩, message.number, h.number, h.declared⟩
  · rintro ⟨⟨hchecked, fields, hfields⟩, number, hnumber, hdeclared⟩
    exact ⟨⟨block.name, number, fields, block.row⟩, rfl, rfl, hnumber, hdeclared, hchecked, hfields⟩

/-- Over the types of a draft, its messages link when they are consistent. -/
theorem exists_linkMessages {sheet : Option String} {types : List TypeDef} {numbers : TypeDef}
    (htypes : TypeTable.ofDraft rules draft.types = .ok types)
    (hnumbers : draft.numbering? rules = some numbers.meaning) :
    (∃ messages, linkMessages sheet types numbers [] draft.messages = .ok messages) ↔
      (draft.messages.map MessageBlock.name).Nodup ∧
        (draft.messages.map fun message => draft.messageNumber? rules message.name).Nodup ∧
        ∀ message ∈ draft.messages, message.Consistent (draft.meaning? rules) ∧ ∃ number,
          draft.messageNumber? rules message.name = some number ∧
            ∀ declared, message.declaredNumber = some declared → declared = number := by
  have hsome : ∀ list : List Int, (list.map some).Nodup ↔ list.Nodup :=
    fun list => List.nodup_map_iff fun _ _ => Option.some.inj
  constructor
  · rintro ⟨messages, h⟩
    obtain ⟨added, -, hall, hdistinct, hapart⟩ :=
      (linkMessages_eq_ok (by simp) (by simp)).mp h
    obtain ⟨hnames, hnums⟩ := map_number_of_links hnumbers hall
    rw [hnames, hnums, hsome]
    refine ⟨by simpa using hdistinct, by simpa using hapart, ?_⟩
    intro block hblock
    obtain ⟨message, -, hlinks⟩ := forall₂_exists_of_mem hall hblock
    exact (exists_messageLinks htypes hnumbers).mp ⟨message, hlinks⟩
  · rintro ⟨hdistinct, hapart, hblocks⟩
    -- the messages are linked apart from each other first, then compared
    have heach : ∀ block ∈ draft.messages,
        ∃ message, MessageLinks ⟨sheet, types, block⟩ numbers message :=
      fun block hblock => (exists_messageLinks htypes hnumbers).mpr (hblocks block hblock)
    obtain ⟨messages, hall⟩ := exists_forall₂.mpr heach
    obtain ⟨hnames, hnums⟩ := map_number_of_links hnumbers hall
    rw [hnames] at hdistinct
    rw [hnums, hsome] at hapart
    exact ⟨messages, (linkMessages_eq_ok (by simp) (by simp)).mpr
      ⟨messages, rfl, hall, by simpa using hdistinct, by simpa using hapart⟩⟩

/-! ## Linked drafts -/

/-- A linked draft is consistent. -/
theorem consistent_of_ofDraft {model : Model} (h : ofDraft rules version draft = .ok model) :
    draft.Consistent rules := by
  obtain ⟨types, htypes, h⟩ := bind_eq_ok.mp h
  obtain ⟨numbers, hnumbers, h⟩ := bind_eq_ok.mp h
  obtain ⟨linked, hlinked, -⟩ := bind_eq_ok.mp h
  have hnumbering := messageNumberType_eq_ok htypes hnumbers
  obtain ⟨hnames, hapart, hblocks⟩ := (exists_linkMessages htypes hnumbering).mp ⟨linked, hlinked⟩
  exact { types := (TypeTable.ofDraft_eq_ok htypes).1
          numbering := by rw [hnumbering]; rfl
          messages := hnames
          numbered := fun message hmem => (hblocks message hmem).2
          numbers := hapart
          fields := fun message hmem => (hblocks message hmem).1 }

/-- A consistent draft over known base types links. -/
theorem exists_ofDraft (hdeclared : ∀ type ∈ draft.types, (BaseType.ofName? type.baseType).isSome)
    (himplicit : ∀ entry ∈ rules.implicitTypes, (BaseType.ofName? entry.2).isSome)
    (h : draft.Consistent rules) : ∃ model, ofDraft rules version draft = .ok model := by
  obtain ⟨types, htypes⟩ := TypeTable.ofDraft_of_nodup hdeclared himplicit h.types
  obtain ⟨numbers, hnumbers⟩ := exists_messageNumberType htypes h.numbering
  have hnumbering := messageNumberType_eq_ok htypes hnumbers
  obtain ⟨linked, hlinked⟩ := (exists_linkMessages htypes hnumbering).mpr
    ⟨h.messages, h.numbers, fun message hmem => ⟨h.fields message hmem, h.numbered message hmem⟩⟩
  exact ⟨_, bind_eq_ok.mpr ⟨types, htypes, bind_eq_ok.mpr ⟨numbers, hnumbers,
    bind_eq_ok.mpr ⟨linked, hlinked, rfl⟩⟩⟩⟩

/-- The ways in which linking refuses a draft over known base types, each with the place that
its fault names: a type with the name of an earlier one, no type that numbers the messages, a
contradiction in a message or in one of its rows, or an extent made by hand. -/
inductive Refuses (rules : RuleSet) (draft : Draft) : Fault → Prop where
  | type {fault : Fault} (repeats : TypeTable.Repeats rules.typesSheet [] draft.types fault) :
      Refuses rules draft fault
  | numbering : Refuses rules draft
      (.ofIntegrity (.messageNumberTypeMissing rules.messageNumberType)
        { sheet := rules.typesSheet })
  | message {block : MessageBlock} (hblock : block ∈ draft.messages) (cause : IntegrityCause) :
      Refuses rules draft (.ofIntegrity cause
        { sheet := rules.messagesSheet, row := some block.row, message := some block.name })
  | field {block : MessageBlock} {row : FieldRow} (hblock : block ∈ draft.messages)
      (hrow : row ∈ block.rows) (cause : IntegrityCause) :
      Refuses rules draft (.ofIntegrity cause
        { sheet := rules.messagesSheet, row := some row.row, message := some block.name
          field := some row.name })
  | extent {row : FieldRow} (hrow : row ∈ draft.rows) (unsized : ¬ Extent.IsArraySize row.extent) :
      Refuses rules draft (.carrierNotMeasurable row.name)

/-- Over known base types linking refuses a draft in these ways alone. -/
theorem ofDraft_refused {fault : Fault}
    (hdeclared : ∀ type ∈ draft.types, (BaseType.ofName? type.baseType).isSome)
    (himplicit : ∀ entry ∈ rules.implicitTypes, (BaseType.ofName? entry.2).isSome)
    (h : ofDraft rules version draft = .error fault) : Refuses rules draft fault := by
  rcases bind_eq_error.mp h with htypes | ⟨types, -, h⟩
  · exact .type (TypeTable.ofDraft_refused hdeclared himplicit htypes)
  · rcases bind_eq_error.mp h with hnumbers | ⟨numbers, -, h⟩
    · rw [messageNumberType_refused hnumbers]
      exact .numbering
    · rcases bind_eq_error.mp h with hlinked | ⟨_, -, hpure⟩
      · obtain ⟨block, hblock, ⟨cause, rfl⟩ | ⟨row, hrow, ⟨cause, rfl⟩ | ⟨hsize, rfl⟩⟩⟩ :=
          linkMessages_refused hlinked
        · exact .message hblock cause
        · exact .field hblock hrow cause
        · exact .extent (List.mem_flatMap.mpr ⟨block, hblock, hrow⟩) hsize
      · cases hpure

/-- Every fault of linking is a contradiction, or blames an extent made by hand. -/
theorem Refuses.isContradiction {fault : Fault} (h : Refuses rules draft fault) :
    fault.IsContradiction ∨ ∃ row ∈ draft.rows,
      ¬ Extent.IsArraySize row.extent ∧ fault = .carrierNotMeasurable row.name := by
  cases h with
  | type repeats => exact .inl repeats.isContradiction
  | numbering => exact .inl ⟨_, _, rfl⟩
  | message _ cause => exact .inl ⟨_, _, rfl⟩
  | field _ _ cause => exact .inl ⟨_, _, rfl⟩
  | @extent row hrow unsized => exact .inr ⟨row, hrow, unsized, rfl⟩

/-- Linking accepts exactly the consistent drafts; every other draft it refuses as
contradictory. Only where a field made by hand states an extent that sheets cannot state
may the fault be that its bits cannot be measured. -/
theorem ofDraft_accepts_iff_consistent (rules : RuleSet) (version : Version) (draft : Draft)
    (hdeclared : ∀ type ∈ draft.types, (BaseType.ofName? type.baseType).isSome)
    (himplicit : ∀ entry ∈ rules.implicitTypes, (BaseType.ofName? entry.2).isSome) :
    ((∃ model, ofDraft rules version draft = .ok model) ↔ draft.Consistent rules) ∧
      (¬ draft.Consistent rules → ∃ fault, ofDraft rules version draft = .error fault ∧
        (fault.IsContradiction ∨ ∃ row ∈ draft.rows,
          ¬ Extent.IsArraySize row.extent ∧ fault = .carrierNotMeasurable row.name)) := by
  have hiff : (∃ model, ofDraft rules version draft = .ok model) ↔ draft.Consistent rules := by
    constructor
    · rintro ⟨model, hmodel⟩
      exact consistent_of_ofDraft hmodel
    · exact exists_ofDraft hdeclared himplicit
  refine ⟨hiff, ?_⟩
  intro hnot
  obtain ⟨fault, hfault⟩ := exists_error_of_not_ok (mt hiff.mp hnot)
  exact ⟨fault, hfault, (ofDraft_refused hdeclared himplicit hfault).isContradiction⟩

/-- A field row of a draft without scaling and comment. -/
def plainRow (number : Int) (name typeName : String) : FieldRow :=
  { number := number, row := 0, name := name, typeName := typeName, extent := none
    components := [], scale := none, offset := none, units := none, accumulate := false
    refNames := [], refValues := [], comment := none }

/-- A draft with an event message: the kind of the event, data that is a trigger for timer
events, and shorter data whose bits carry the data. -/
def eventDraft : Draft where
  types := [⟨"mesg_num", "uint16", "", 1, [⟨"event", 21, "", 2⟩]⟩,
    ⟨"event", "enum", "", 3, [⟨"timer", 0, "", 4⟩, ⟨"workout", 3, "", 5⟩]⟩]
  messages := [⟨"event", some 21, 1,
    [⟨plainRow 3 "data" "uint32",
        [{ plainRow 3 "timer_trigger" "uint16" with
            refNames := ["event", "event"], refValues := ["timer", "0x05"] }]⟩,
     ⟨plainRow 0 "event" "event", []⟩,
     ⟨{ plainRow 2 "data16" "uint16" with
          components := [⟨"data", none, none, none, 16, false⟩] }, []⟩]⟩]
  declaredVersion := none

/-- The event draft links, so it is consistent. -/
theorem eventDraft_consistent :
    (∀ type ∈ eventDraft.types, (BaseType.ofName? type.baseType).isSome) ∧
      (∀ entry ∈ RuleSet.sdk20.implicitTypes, (BaseType.ofName? entry.2).isSome) ∧
      eventDraft.Consistent RuleSet.sdk20 := by
  have hdeclared : ∀ type ∈ eventDraft.types, (BaseType.ofName? type.baseType).isSome := by
    decide
  have himplicit : ∀ entry ∈ RuleSet.sdk20.implicitTypes, (BaseType.ofName? entry.2).isSome := by
    decide
  have haccepts := ofDraft_accepts_iff_consistent .sdk20 ⟨21, 0⟩ eventDraft hdeclared himplicit
  exact ⟨hdeclared, himplicit, haccepts.1.mp ⟨_, rfl⟩⟩

end Model

end FitProfile
