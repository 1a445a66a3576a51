import FitProfile.Proofs.Linking.Removal
import FitProfile.Proofs.Source.Rendering
/-!
# FitProfile.Proofs.Source.Removal -- source text without a message or a subfield

The entry of a message and the entry of a subfield are runs of lines, and whether they can be
written depends on nothing around them. So a model without the one or the other is rendered when
the model is, and what its source text lacks is that run of lines: `Omits` says so of lines, and
`LosesMessage` and `LosesSubfield` of whole profiles.
-/

namespace FitProfile

open FitProfile.Number FitProfile.Outcome FitProfile.Source

namespace Source

/-! ## A run of lines less -/

/-- Lines that are others less a run of lines in one place. -/
def Omits (lines run lines' : List String) : Prop :=
  ∃ above below, lines = above ++ run ++ below ∧ lines' = above ++ below

/-- Lines at a level of blocks. -/
def nested : Nat → List String → List String
  | 0, lines => lines
  | level + 1, lines => (nested level lines).map deeper

namespace Omits

variable {lines run lines' : List String}

/-- A run that is left out of lines is left out of all lines around them. -/
theorem within (h : Omits lines run lines') (above below : List String) :
    Omits (above ++ lines ++ below) run (above ++ lines' ++ below) := by
  obtain ⟨first, last, rfl, rfl⟩ := h
  exact ⟨above ++ first, last ++ below, by simp, by simp⟩

theorem behind (h : Omits lines run lines') (above : List String) :
    Omits (above ++ lines) run (above ++ lines') := by
  have hwithin := h.within above []
  rwa [List.append_nil, List.append_nil] at hwithin

theorem of_append (above run below : List String) :
    Omits (above ++ run ++ below) run (above ++ below) := ⟨above, below, rfl, rfl⟩

/-- A run of the body of a block is a run of the block, one level deeper. -/
theorem block (h : Omits lines run lines') (head foot : String) :
    Omits (block head lines foot) (run.map deeper) (block head lines' foot) := by
  obtain ⟨above, below, rfl, rfl⟩ := h
  refine ⟨head :: above.map deeper, below.map deeper ++ [foot], ?_, ?_⟩
  · simp [Source.block]
  · simp [Source.block]

/-- The entry of one element is a run of the entries of all. -/
theorem of_flatMap {α : Type} (entry : α → List String) (before after : List α) (a : α) :
    Omits ((before ++ a :: after).flatMap entry) (entry a) ((before ++ after).flatMap entry) := by
  rw [List.flatMap_append, List.flatMap_cons, ← List.append_assoc, List.flatMap_append]
  exact of_append _ _ _

/-- A run of the entry of one element is a run of the entries of all. -/
theorem flatMap {α : Type} {entry : α → List String} {a a' : α}
    (h : Omits (entry a) run (entry a')) (before after : List α) :
    Omits ((before ++ a :: after).flatMap entry) run ((before ++ a' :: after).flatMap entry) := by
  simp only [List.flatMap_append, List.flatMap_cons, ← List.append_assoc]
  exact h.within _ _

end Omits

/-! ## The entry of a message -/

variable {model : Model} {moment : Option Moment}

/-- A run of the entries of all messages is a run of the module, one level deeper. -/
theorem Omits.messagesText {messages messages' : List Message} {run : List String}
    (h : Omits (messages.flatMap messageBlock) run (messages'.flatMap messageBlock)) :
    Omits (messagesText { model with messages := messages } moment) (run.map deeper)
      (messagesText { model with messages := messages' } moment) :=
  (h.block "MESSAGE_TYPES = \x7b" "\x7d").behind _

/-- Without a message the module of the messages lacks the entry of the message. -/
theorem omits_messagesText (before after : List Message) (message : Message) :
    Omits (messagesText { model with messages := before ++ message :: after } moment)
      (nested 1 (messageBlock message))
      (messagesText { model with messages := before ++ after } moment) :=
  (Omits.of_flatMap messageBlock before after message).messagesText

/-- The module of the release holds the numbers and the names of the messages between lines that
do not depend on them. -/
theorem exists_profileLines (model : Model) (moment : Option Moment) :
    ∃ above between below, ∀ messages : List Message,
      profileLines { model with messages := messages } moment =
        above ++ Source.block "MESG_NUMS = \x7b" (messages.map nameOfNumberLine) "\x7d" ++ between ++
          Source.block "MESG_NAMES = \x7b" (messages.map numberOfNameLine) "\x7d" ++ below := by
  apply Exists.intro
  apply Exists.intro
  apply Exists.intro
  intro messages
  unfold profileLines
  dsimp only
  exact List.append_assoc _ _ _

/-- Without a message the module of the release lacks the line of its number and the line of its
name. -/
theorem omits_profileLines (model : Model) (moment : Option Moment) (before after : List Message)
    (message : Message) :
    ∃ lines,
      Omits (profileLines { model with messages := before ++ message :: after } moment)
        (nested 1 [nameOfNumberLine message]) lines ∧
      Omits lines (nested 1 [numberOfNameLine message])
        (profileLines { model with messages := before ++ after } moment) := by
  have hblock : ∀ (line : Message → String) (head foot : String),
      Omits (Source.block head ((before ++ message :: after).map line) foot)
        (nested 1 [line message]) (Source.block head ((before ++ after).map line) foot) := by
    intro line head foot
    have hlines := Omits.of_flatMap (fun m => [line m]) before after message
    simp only [← List.map_eq_flatMap] at hlines
    exact hlines.block head foot
  obtain ⟨above, between, below, hlines⟩ := exists_profileLines model moment
  rw [hlines, hlines]
  refine ⟨_, ?_, (hblock numberOfNameLine _ _).within _ _⟩
  simp only [List.append_assoc]
  exact ((hblock nameOfNumberLine _ _).within [] _).behind above

/-! ## The entry of a subfield -/

/-- The lines of a field with variants, which has no block for them where there are none. -/
theorem fieldText_ofVariants (standard : SingleField) (variants : List (Field × List Condition)) :
    fieldText (.ofVariants standard variants) =
      singleText standard ++ if variants.isEmpty then [] else variantsText variants := by
  cases variants with
  | nil => simp [Field.ofVariants, fieldText]
  | cons => rfl

/-- The lines that a variant takes: its entry, with the block around it where there are no other
variants. -/
def variantRun (others : List (Field × List Condition)) (variant : Field × List Condition) :
    List String :=
  if others.isEmpty then variantsText [variant] else (variantText variant).map deeper

theorem omits_fieldText (standard : SingleField) (above below : List (Field × List Condition))
    (variant : Field × List Condition) :
    Omits (fieldText (.ofVariants standard (above ++ variant :: below)))
      (variantRun (above ++ below) variant)
      (fieldText (.ofVariants standard (above ++ below))) := by
  rw [fieldText_ofVariants, fieldText_ofVariants, if_neg (by simp)]
  unfold variantRun
  by_cases halone : above ++ below = []
  · obtain ⟨rfl, rfl⟩ := List.append_eq_nil_iff.mp halone
    exact ⟨singleText standard, [], by simp, by simp⟩
  · have hothers : ¬ (above ++ below).isEmpty = true := by simpa using halone
    rw [if_neg hothers, if_neg hothers]
    have hblock := (Omits.of_flatMap variantText above below variant).block "subfields=(" "),"
    exact hblock.behind (singleText standard)

/-- Without a variant the module of the messages lacks the lines of the variant. -/
theorem omits_messagesText_site (t : Model.Site) (above below : List (Field × List Condition))
    (variant : Field × List Condition) :
    Omits (messagesText { model with messages := t.messages (above ++ variant :: below) } moment)
      (nested 4 (variantRun (above ++ below) variant))
      (messagesText { model with messages := t.messages (above ++ below) } moment) := by
  have hnumber : ∀ variants, (Field.ofVariants t.standard variants).number = t.standard.number := by
    intro variants
    cases variants <;> rfl
  have hfield := (omits_fieldText t.standard above below variant).block
    (decimal t.standard.number ++ ": Field(") "),"
  have hfieldBlock : Omits (fieldBlock (.ofVariants t.standard (above ++ variant :: below)))
      (nested 1 (variantRun (above ++ below) variant))
      (fieldBlock (.ofVariants t.standard (above ++ below))) := by
    rw [fieldBlock, fieldBlock, hnumber, hnumber]
    exact hfield
  have hfields := (hfieldBlock.flatMap t.fieldsAbove t.fieldsBelow).block "fields=\x7b" "\x7d,"
  have hmessage : Omits (messageBlock (t.message (above ++ variant :: below)))
      (nested 3 (variantRun (above ++ below) variant))
      (messageBlock (t.message (above ++ below))) := by
    have hbody := hfields.behind [keyword "name" (Text.quoted t.name) "",
      keyword "mesg_num" (decimal t.number) ""]
    exact hbody.block (decimal t.number ++ ": MessageType(") "),"
  exact (hmessage.flatMap t.messagesAbove t.messagesBelow).messagesText

/-! ## What can be written -/

/-- Entries one after the other can be written when each of them can. -/
theorem exists_entries {α : Type} (entry : α → Except Fault (List String))
    (entries : List α → Except Fault (List String)) (hnil : entries [] = .ok [])
    (hcons : ∀ a rest, entries (a :: rest) = do
      let lines ← entry a
      let others ← entries rest
      return lines ++ others) (list : List α) :
    (∃ lines, entries list = .ok lines) ↔ ∀ a ∈ list, ∃ lines, entry a = .ok lines := by
  induction list with
  | nil => simp [hnil]
  | cons a rest ih =>
    rw [List.forall_mem_cons, ← ih, hcons]
    constructor
    · rintro ⟨lines, h⟩
      obtain ⟨first, hfirst, h⟩ := bind_eq_ok.mp h
      obtain ⟨others, hothers, -⟩ := bind_eq_ok.mp h
      exact ⟨⟨first, hfirst⟩, others, hothers⟩
    · rintro ⟨⟨first, hfirst⟩, others, hothers⟩
      exact ⟨_, bind_eq_ok.mpr ⟨first, hfirst, bind_eq_ok.mpr ⟨others, hothers, rfl⟩⟩⟩

variable (types : List TypeDef)

theorem exists_variantEntries (variants : List (Field × List Condition)) :
    (∃ lines, variantEntries types variants = .ok lines) ↔
      ∀ variant ∈ variants, ∃ lines, variantEntry types variant = .ok lines :=
  exists_entries (variantEntry types) (variantEntries types) rfl (fun _ _ => rfl) variants

theorem exists_fieldEntries (fields : List Field) :
    (∃ lines, fieldEntries types fields = .ok lines) ↔
      ∀ field ∈ fields, ∃ lines, fieldEntry types field = .ok lines :=
  exists_entries (fieldEntry types) (fieldEntries types) rfl (fun _ _ => rfl) fields

theorem exists_messageEntries (messages : List Message) :
    (∃ lines, messageEntries types messages = .ok lines) ↔
      ∀ message ∈ messages, ∃ lines, messageEntry types message = .ok lines :=
  exists_entries (messageEntry types) (messageEntries types) rfl (fun _ _ => rfl) messages

variable {types}

/-- An entry under a number can be written when the number and the lines in it can. -/
theorem exists_entry_iff {numbers : List Int} {inner : Except Fault (List String)}
    {around : List String → List String} :
    (∃ lines, (do
        Fault.writable numbers
        let found ← inner
        return around found) = .ok lines) ↔
      Fault.writable numbers = .ok () ∧ ∃ lines, inner = .ok lines := by
  simp only [bind_eq_ok, pure_eq_ok]
  constructor
  · rintro ⟨_, _, hnumbers, lines, hlines, -⟩
    exact ⟨hnumbers, lines, hlines⟩
  · rintro ⟨hnumbers, lines, hlines⟩
    exact ⟨_, (), hnumbers, lines, hlines, rfl⟩

/-- A field with variants can be written when its parts can. -/
theorem exists_fieldEntry_ofVariants {standard : SingleField}
    {variants : List (Field × List Condition)} :
    (∃ lines, fieldEntry types (.ofVariants standard variants) = .ok lines) ↔
      Fault.writable [standard.number] = .ok () ∧
        (∃ lines, singleLines types standard = .ok lines) ∧
        ∀ variant ∈ variants, ∃ lines, variantEntry types variant = .ok lines := by
  have hfield : (∃ lines, fieldEntry types (.ofVariants standard variants) = .ok lines) ↔
      Fault.writable [standard.number] = .ok () ∧
        ∃ lines, fieldLines types (.ofVariants standard variants) = .ok lines := by
    have hnumber : (Field.ofVariants standard variants).number = standard.number := by
      cases variants <;> rfl
    unfold fieldEntry
    rw [hnumber]
    exact exists_entry_iff
  rw [hfield, ← exists_variantEntries]
  apply and_congr_right
  intro _
  cases variants with
  | nil =>
    -- a field of an unknown kind cannot be written either way
    have hlines : (∃ lines, fieldLines types (.single standard) = .ok lines) ↔
        ∃ lines, singleLines types standard = .ok lines := by
      unfold fieldLines
      dsimp only
      split
      next kind hshape =>
        simp only [reduceCtorEq, exists_false, false_iff, not_exists]
        intro lines h
        obtain ⟨_, -, h⟩ := bind_eq_ok.mp h
        obtain ⟨_, -, h⟩ := bind_eq_ok.mp h
        obtain ⟨shape, hlines, -⟩ := bind_eq_ok.mp h
        rw [shapeLines, hshape] at hlines
        cases hlines
      next => rfl
    exact hlines.trans (and_iff_left ⟨[], rfl⟩).symm
  | cons variant rest =>
    show (∃ lines, fieldLines types (.dynamic (.single standard) (variant :: rest)) = .ok lines) ↔ _
    simp only [fieldLines, innerLines, bind_eq_ok, pure_eq_ok]
    constructor
    · rintro ⟨_, lines, hlines, entries, hentries, -⟩
      exact ⟨⟨lines, hlines⟩, entries, hentries⟩
    · rintro ⟨⟨lines, hlines⟩, entries, hentries⟩
      exact ⟨_, lines, hlines, entries, hentries, rfl⟩

/-- A message can be written when its number and its fields can, in whatever order they stand. -/
theorem exists_messageEntry {message : Message} :
    (∃ lines, messageEntry types message = .ok lines) ↔
      Fault.writable [message.number] = .ok () ∧
        ∀ field ∈ message.fields, ∃ lines, fieldEntry types field = .ok lines := by
  have hentries := exists_fieldEntries types
    (Order.sortBy (fun a b => decide (a.number ≤ b.number)) message.fields)
  simp only [Order.mem_sortBy] at hentries
  rw [← hentries]
  exact exists_entry_iff

end Source

namespace Model

variable {model : Model} {moment : Option Moment}

/-- A model is rendered when its types, its messages and its release can be written. -/
theorem exists_render :
    (∃ profile, model.render moment = .ok profile) ↔
      Fault.writable (typesIntegers model) = .ok () ∧
        (∀ message ∈ model.messages, ∃ lines, messageEntry model.types message = .ok lines) ∧
        Fault.writable [model.version.scaled] = .ok () := by
  rw [← exists_messageEntries]
  simp only [render, messagesLines, bind_eq_ok, pure_eq_ok]
  constructor
  · rintro ⟨_, _, htypes, _, ⟨lines, hlines, -⟩, _, hrelease, -⟩
    exact ⟨htypes, ⟨lines, hlines⟩, hrelease⟩
  · rintro ⟨htypes, ⟨lines, hlines⟩, hrelease⟩
    exact ⟨_, (), htypes, _, ⟨lines, hlines, rfl⟩, (), hrelease, rfl⟩

/-- Without some of its messages a model is rendered when it is with them. -/
theorem exists_render_of_subset {messages : List Message} (unmatched : List String)
    (hsub : ∀ message ∈ messages, message ∈ model.messages)
    (h : ∃ profile, model.render moment = .ok profile) :
    ∃ profile, ({ model with messages := messages, unmatched := unmatched } : Model).render moment =
      .ok profile := by
  obtain ⟨htypes, hmessages, hrelease⟩ := exists_render.mp h
  exact exists_render.mpr
    ⟨htypes, fun message hmem => hmessages message (hsub message hmem), hrelease⟩

/-- Without one of the variants of a field a model is rendered when it is with it. -/
theorem exists_render_withoutSubfield {t : Site} {above below : List (Field × List Condition)}
    {variant : Field × List Condition}
    (hmessages : model.messages = t.messages (above ++ variant :: below))
    (h : ∃ profile, model.render moment = .ok profile) :
    ∃ profile, ({ model with messages := t.messages (above ++ below) } : Model).render moment =
      .ok profile := by
  obtain ⟨htypes, hentries, hrelease⟩ := exists_render.mp h
  refine exists_render.mpr ⟨htypes, ?_, hrelease⟩
  rw [hmessages] at hentries
  simp only [Site.messages, List.forall_mem_append, List.forall_mem_cons, exists_messageEntry,
    Site.message, exists_fieldEntry_ofVariants] at hentries ⊢
  obtain ⟨habove, ⟨hnumber, hfieldsAbove, ⟨hfield, hstandard, hvariants⟩, hfieldsBelow⟩, hbelow⟩ :=
    hentries
  exact ⟨habove, ⟨hnumber, hfieldsAbove, ⟨hfield, hstandard, hvariants.1, hvariants.2.2⟩,
    hfieldsBelow⟩, hbelow⟩

end Model

/-! ## Profiles -/

namespace Profile

/-- A profile less a message: its entry is gone, and so are the lines of its number and its name in
the module of the release, and its name joins those without a message. -/
structure LosesMessage (message : Message) (profile profile' : Profile) : Prop where
  types : profile'.types = profile.types
  stringerInput : profile'.stringerInput = profile.stringerInput
  messages : ∃ lines lines', profile.messages = text lines ∧ profile'.messages = text lines' ∧
    Omits lines (nested 1 (messageBlock message)) lines'
  release : ∃ lines between lines', profile.profile = text lines ∧ profile'.profile = text lines' ∧
    Omits lines (nested 1 [nameOfNumberLine message]) between ∧
    Omits between (nested 1 [numberOfNameLine message]) lines'
  unmatched : message.name ∉ profile.unmatched ∧ ∃ above below,
    profile.unmatched = above ++ below ∧ profile'.unmatched = above ++ message.name :: below

/-- A profile less a variant of a field with the variants `others` besides: its lines are gone. -/
structure LosesVariant (others : List (Field × List Condition))
    (variant : Field × List Condition) (profile profile' : Profile) : Prop where
  types : profile'.types = profile.types
  release : profile'.profile = profile.profile
  stringerInput : profile'.stringerInput = profile.stringerInput
  unmatched : profile'.unmatched = profile.unmatched
  messages : ∃ lines lines', profile.messages = text lines ∧ profile'.messages = text lines' ∧
    Omits lines (nested 4 (variantRun others variant)) lines'

end Profile

namespace Source

variable {model model' : Model} {moment : Option Moment}

/-- The module of the types depends on the release and the types alone. -/
theorem typesLines_congr (hversion : model'.version = model.version)
    (htypes : model'.types = model.types) :
    typesLines model' moment = typesLines model moment := by
  rw [typesLines, typesLines, hversion, htypes]

/-- The module of the messages depends on the release and the messages alone. -/
theorem messagesText_congr (hversion : model'.version = model.version)
    (hmessages : model'.messages = model.messages) :
    messagesText model' moment = messagesText model moment := by
  rw [messagesText, messagesText, hversion, hmessages]

/-- The module of the release depends on the release, the types, and the names and numbers of the
messages. -/
theorem profileLines_congr (hversion : model'.version = model.version)
    (htypes : model'.types = model.types)
    (hnumbers : model'.messages.map nameOfNumberLine = model.messages.map nameOfNumberLine)
    (hnames : model'.messages.map numberOfNameLine = model.messages.map numberOfNameLine) :
    profileLines model' moment = profileLines model moment := by
  rw [profileLines, profileLines, hversion, htypes, hnumbers, hnames]

/-- Without one of its messages a model is rendered to its profile less the message. -/
theorem losesMessage_profileOf {before after : List Message} {message : Message}
    {namesAbove namesBelow : List String}
    (hmessages : model.messages = before ++ message :: after)
    (hunmatched : model.unmatched = namesAbove ++ namesBelow)
    (hname : message.name ∉ model.unmatched) :
    Profile.LosesMessage message (profileOf model moment)
      (profileOf { model with messages := before ++ after
                              unmatched := namesAbove ++ message.name :: namesBelow } moment) := by
  obtain ⟨between, hnumbers, hnames⟩ := omits_profileLines model moment before after message
  have hentry : Omits (messagesText { model with messages := before ++ message :: after } moment) _
    (messagesText { model with messages := before ++ after } moment) :=
    omits_messagesText before after message
  rw [← hmessages] at hnumbers hentry
  refine ⟨?_, ?_, ⟨_, _, ?_, ?_, hentry⟩, ⟨_, between, _, ?_, ?_, hnumbers, hnames⟩,
    ⟨hname, namesAbove, namesBelow, hunmatched, ?_⟩⟩
  · simp only [profileOf]
    exact congrArg text (typesLines_congr rfl rfl)
  · simp only [profileOf, Model.stringerInput]
  · rw [profileOf]
  · simp only [profileOf]
    exact congrArg text (messagesText_congr rfl rfl)
  · rw [profileOf]
  · simp only [profileOf]
    exact congrArg text (profileLines_congr rfl rfl rfl rfl)
  · rw [profileOf]

/-- Without one of the variants of a field a model is rendered to its profile less the variant. -/
theorem losesVariant_profileOf {t : Model.Site} {above below : List (Field × List Condition)}
    {variant : Field × List Condition}
    (hmessages : model.messages = t.messages (above ++ variant :: below)) :
    Profile.LosesVariant (above ++ below) variant (profileOf model moment)
      (profileOf { model with messages := t.messages (above ++ below) } moment) := by
  have hentry : Omits
      (messagesText { model with messages := t.messages (above ++ variant :: below) } moment) _
      (messagesText { model with messages := t.messages (above ++ below) } moment) :=
    omits_messagesText_site t above below variant
  have hlines : ∀ line : Message → String, (∀ m fields, line { m with fields := fields } = line m) →
      (t.messages (above ++ below)).map line = model.messages.map line := by
    intro line hline
    rw [hmessages, Model.Site.messages, Model.Site.messages, List.map_append, List.map_append,
      List.map_cons, List.map_cons]
    exact congrArg (_ ++ · :: _) (hline (t.message (above ++ variant :: below)) _)
  rw [← hmessages] at hentry
  refine ⟨?_, ?_, ?_, ?_, ⟨_, _, ?_, ?_, hentry⟩⟩
  · simp only [profileOf]
    exact congrArg text (typesLines_congr rfl rfl)
  · simp only [profileOf]
    exact congrArg text (profileLines_congr rfl rfl (hlines nameOfNumberLine fun _ _ => rfl)
      (hlines numberOfNameLine fun _ _ => rfl))
  · simp only [profileOf, Model.stringerInput]
  · rw [profileOf, profileOf]
  · rw [profileOf]
  · rw [profileOf]

end Source

end FitProfile
