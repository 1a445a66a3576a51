import FitProfile.Proofs.Reading.Removal
import FitProfile.Proofs.RowOrder
import FitProfile.Proofs.Source.Removal
/-!
# FitProfile.Proofs.Independence -- messages and subfields do not depend on one another

What a profile says of a message hangs on the rows of the message alone, and what it says of a
subfield on the row of the subfield and on the main fields of the message. `render_independent`
proves both for the whole way from the workbook to the profile by taking rows out: without the rows
of a message, or without the row of a subfield, a profile is made as well, and it lacks nothing but
what stood there for the message or the subfield.

The way is that of `FitProfile.Proofs.RowOrder`. Places are left aside on the way, since they change
for all rows below and since nothing that is generated names them.
-/

namespace FitProfile

open FitProfile.Draft FitProfile.Outcome FitProfile.Source

/-! ## Models without places -/

namespace Source

/-- What a model is rendered to names no row of a message. -/
theorem profileOf_content (model : Model) (moment : Option Moment) :
    profileOf model.content moment = profileOf model moment := by
  have hmessages : messagesText model.content moment = messagesText model moment := by
    simp only [messagesText, Model.content, List.flatMap_map]
    rfl
  have hlines : ∀ line : Message → String, (∀ m, line m.content = line m) →
      model.content.messages.map line = model.messages.map line := by
    intro line hline
    show (model.messages.map Message.content).map line = _
    rw [List.map_map]
    exact List.map_congr_left fun m _ => hline m
  have hrelease : profileLines model.content moment = profileLines model moment :=
    profileLines_congr rfl rfl (hlines nameOfNumberLine fun _ => rfl)
      (hlines numberOfNameLine fun _ => rfl)
  rw [profileOf, profileOf, hmessages, hrelease, typesLines_congr rfl rfl]
  rfl

end Source

namespace Model

variable {model : Model}

/-- A place of variants among messages without places. -/
def Site.content (t : Site) : Site :=
  { t with messagesAbove := t.messagesAbove.map Message.content, row := 0
           messagesBelow := t.messagesBelow.map Message.content }

theorem Site.map_content_messages (t : Site) (variants : List (Field × List Condition)) :
    (t.messages variants).map Message.content = t.content.messages variants := by
  rw [messages, List.map_append, List.map_cons]
  rfl

end Model

/-- Where a message stands does not matter for what a profile lacks without it. -/
theorem Profile.LosesMessage.of_content {message message' : Message} {profile profile' : Profile}
    (h : profile.LosesMessage message profile') (hcontent : message'.content = message.content) :
    profile.LosesMessage message' profile' := by
  obtain ⟨name, number, fields, row⟩ := message
  obtain ⟨name', number', fields', row'⟩ := message'
  simp only [Message.content, Message.mk.injEq, and_true] at hcontent
  obtain ⟨rfl, rfl, rfl⟩ := hcontent
  exact ⟨h.types, h.stringerInput, h.messages, h.release, h.unmatched⟩

/-! ## Drafts without places -/

namespace Generator

variable {rules : RuleSet} {version : Version} {book : Workbook} {l : Layout} {draft : Draft}

/-- A profile is what the draft links to without the places of its messages. -/
theorem exists_placeless {profile : Profile} {model : Model}
    (hmodel : Model.ofDraft rules version draft = .ok model)
    (hintact : model.Intact) (hprofile : model.render none = .ok profile) :
    ∃ placeless, Model.ofDraft rules version
        { draft with messages := draft.messages.map MessageBlock.content } = .ok placeless ∧
      placeless.content = model.content ∧ (∃ profile, placeless.render none = .ok profile) ∧
      profile = profileOf placeless none := by
  have hreordered : draft.Reordered
      { draft with messages := draft.messages.map MessageBlock.content } :=
    Draft.reordered_of_content (MessageBlock.map_content_content draft.messages)
  obtain ⟨placeless, hplaceless, hcontent⟩ := Model.ofDraft_reordered hreordered hmodel
  refine ⟨placeless, hplaceless, hcontent, ⟨profile, ?_⟩, ?_⟩
  · rw [← Model.render_content, hcontent, Model.render_content]
    exact hprofile
  · rw [← profileOf_content, hcontent, profileOf_content]
    exact (renders_render hintact none).eq_of_ok hprofile

/-- A workbook is rendered to the profile of what its messages link to without places. -/
theorem render_of_placeless {messages : List MessageBlock} {placeless : Model}
    (hdraft : (Draft.ofWorkbook rules version book).outcome =
      .ok { draft with messages := messages })
    (hplaceless : Model.ofDraft rules version
      { draft with messages := messages.map MessageBlock.content } = .ok placeless)
    (hrenders : ∃ profile, placeless.render none = .ok profile) :
    (render rules version none book).outcome = .ok (profileOf placeless none) := by
  have hreordered : Draft.Reordered
      { draft with messages := messages.map MessageBlock.content }
      { draft with messages := messages } :=
    Draft.reordered_of_content (MessageBlock.map_content_content messages).symm
  obtain ⟨model, hmodel, hcontent⟩ := Model.ofDraft_reordered hreordered hplaceless
  obtain ⟨profile, hprofile⟩ := hrenders
  have hrendered : model.render none = .ok profile := by
    rw [← Model.render_content, hcontent, Model.render_content]
    exact hprofile
  have hintact : model.Intact :=
    Model.intact_of_wellFormed (wellFormed_of_ofWorkbook hdraft) hmodel
  have heq : profile = profileOf placeless none := by
    rw [(renders_render hintact none).eq_of_ok hrendered, ← profileOf_content, hcontent,
      profileOf_content]
  rw [← heq]
  exact render_eq_ok.mpr ⟨_, model, hdraft, hmodel, hrendered⟩

/-! ## Rows taken out -/

/-- The one profile is the other less the message that the row `head` opens. -/
def WithoutMessage (rules : RuleSet) (version : Version) (book : Workbook) (l : Layout)
    (head : List String) (profile profile' : Profile) : Prop :=
  ∃ model : Model, model.LinkedFrom rules version book ∧ ∃ message ∈ model.messages,
    message.name = l.cell rules head .messageName ∧ profile.LosesMessage message profile'

/-- Without the rows of a message a workbook is rendered to the same profile less the message. -/
theorem render_withoutMessage {above rows below : List (List String)} {head : List String}
    {profile : Profile} (hrules : rules ∈ RuleSet.registered)
    (hsheet : book.sheets.lookup "Messages" = some l.rows) (hleads : l.Leads)
    (h : (render rules version none book).outcome = .ok profile)
    (hrows : l.below = above ++ head :: (rows ++ below)) (hhead : l.isMessage rules head = true)
    (hinner : ∀ row ∈ rows, l.isMessage rules row = false)
    (hnext : ∀ next ∈ below.head?, l.isMessage rules next = true) :
    ∃ profile', (render rules version none
        (book.withRows "Messages" { l with below := above ++ below }.rows)).outcome =
          .ok profile' ∧ WithoutMessage rules version book l head profile profile' := by
  obtain ⟨draft, model, hdraft, hmodel, hprofile⟩ := render_eq_ok.mp h
  obtain ⟨hread, hreads⟩ := ofWorkbook_withMessages hrules hsheet hdraft
  obtain ⟨messages, hmessages, before, block, after, hblocks, hothers, hname⟩ :=
    MessagesSheet.read_withoutMessage hleads hrows hhead hinner hnext hread
  have hlinked : model.LinkedFrom rules version book := ⟨draft, hdraft, hmodel⟩
  obtain ⟨placeless, hplaceless, hcontent, hrenders, rfl⟩ :=
    exists_placeless hmodel hlinked.intact hprofile
  obtain ⟨linkedBefore, message, linkedAfter, namesAbove, namesBelow, hsplit, hmessage, hunmatched,
    hfree, hreduced⟩ := Model.ofDraft_withoutMessage hblocks hplaceless
  have hsub : ∀ other ∈ linkedBefore ++ linkedAfter, other ∈ placeless.messages := by
    intro other hmem
    rw [hsplit]
    exact ((List.Sublist.refl _).append (List.sublist_cons_self ..)).mem hmem
  have hdraft' := hreads _ messages hmessages
  rw [← hothers] at hreduced
  have hrender := render_of_placeless hdraft' hreduced
    (Model.exists_render_of_subset _ hsub hrenders)
  refine ⟨_, hrender, model, hlinked, ?_⟩
  -- the message of the model has the place that was left aside
  have hcontents : model.messages.map Message.content = placeless.messages.map Message.content :=
    congrArg Model.messages hcontent.symm
  have hmem : message.content ∈ model.messages.map Message.content := by
    rw [hcontents, hsplit]
    exact List.mem_map_of_mem (List.mem_append_right _ List.mem_cons_self)
  obtain ⟨placed, hplaced, hplacedContent⟩ := List.mem_map.mp hmem
  refine ⟨placed, hplaced, ?_, ?_⟩
  · have hplacedName : placed.content.name = message.content.name := by rw [hplacedContent]
    exact hplacedName.trans (hmessage.trans hname)
  · exact (losesMessage_profileOf hsplit hunmatched hfree).of_content hplacedContent

/-- The one profile is the other less the subfield in a row below the rows `above`: less the variant
of this place in the field and the message of the nearest rows above it. -/
def WithoutSubfield (rules : RuleSet) (version : Version) (book : Workbook) (l : Layout)
    (above : List (List String)) (row : List String) (profile profile' : Profile) : Prop :=
  ∃ head main between, Encloses (l.isMessage rules) (l.isMain rules) above head main between ∧
    ∃ (model : Model) (t : Model.Site) (variants : List (Field × List Condition))
      (variant : Field × List Condition) (variants' : List (Field × List Condition)),
      model.LinkedFrom rules version book ∧
      model.content.messages = t.messages (variants ++ variant :: variants') ∧
      t.name = l.cell rules head .messageName ∧
      t.standard.name = l.cell rules main .fieldName ∧
      variant.1.name = l.cell rules row .fieldName ∧
      variants.length = (between.filter (l.isField rules)).length ∧
      profile.LosesVariant (variants ++ variants') variant profile' ∧
      profile' =
        profileOf { model.content with messages := t.messages (variants ++ variants') } none

/-- Without the row of a subfield a workbook is rendered to the same profile less the subfield. -/
theorem render_withoutSubfield {above below : List (List String)} {row : List String}
    {profile : Profile} (hrules : rules ∈ RuleSet.registered)
    (hsheet : book.sheets.lookup "Messages" = some l.rows) (hleads : l.Leads)
    (h : (render rules version none book).outcome = .ok profile)
    (hrows : l.below = above ++ row :: below) (hfield : l.isField rules row = true)
    (hmessage : l.isMessage rules row = false) (hmain : l.isMain rules row = false) :
    ∃ profile', (render rules version none
        (book.withRows "Messages" { l with below := above ++ below }.rows)).outcome =
          .ok profile' ∧ WithoutSubfield rules version book l above row profile profile' := by
  obtain ⟨draft, model, hdraft, hmodel, hprofile⟩ := render_eq_ok.mp h
  obtain ⟨hread, hreads⟩ := ofWorkbook_withMessages hrules hsheet hdraft
  have hmains : ∀ message ∈ draft.messages, ∀ field ∈ message.fields, field.main.refNames = [] :=
    fun message hmem => ((Model.consistent_of_ofDraft hmodel).fields message hmem).unconditional
  obtain ⟨messages, hmessages, head, main, between, hencloses, s, subs, sub, subs', hsubs, hothers,
    hname, hmainName, hsubName, hlength⟩ :=
    MessagesSheet.read_withoutSubfield hleads hrows hfield hmessage hmain hread hmains
  have hlinked : model.LinkedFrom rules version book := ⟨draft, hdraft, hmodel⟩
  obtain ⟨placeless, hplaceless, hcontent, hrenders, rfl⟩ :=
    exists_placeless hmodel hlinked.intact hprofile
  obtain ⟨t, variants, variant, variants', hsplit, hreduced, htName, htStandard, htVariant,
    htLength⟩ := Model.ofDraft_withoutSubfield hsubs hplaceless
  have hdraft' := hreads _ messages hmessages
  rw [← hothers] at hreduced
  have hrender := render_of_placeless hdraft' hreduced
    (Model.exists_render_withoutSubfield hsplit hrenders)
  refine ⟨_, hrender, head, main, between, hencloses, model, t.content, variants, variant,
    variants', hlinked, ?_, htName.trans hname, htStandard.trans hmainName, htVariant.trans hsubName,
    htLength.trans hlength, losesVariant_profileOf hsplit, ?_⟩
  · rw [← hcontent, ← Model.Site.map_content_messages, ← hsplit]
    rfl
  · rw [← profileOf_content]
    show profileOf { placeless.content with messages :=
      (t.messages (variants ++ variants')).map Message.content } none = _
    rw [hcontent, Model.Site.map_content_messages]

/-- Messages and subfields are independent of one another. Without the rows of a message, from the
row that opens it up to the next such row, a workbook is rendered to the same profile less the
message. Without the row of a subfield it is rendered to the same profile less the subfield. -/
theorem render_independent {profile : Profile} (hrules : rules ∈ RuleSet.registered)
    (hsheet : book.sheets.lookup "Messages" = some l.rows) (hleads : l.Leads)
    (h : (render rules version none book).outcome = .ok profile) :
    (∀ above head rows below, l.below = above ++ head :: (rows ++ below) →
      l.isMessage rules head = true → (∀ row ∈ rows, l.isMessage rules row = false) →
      (∀ next ∈ below.head?, l.isMessage rules next = true) →
      ∃ profile', (render rules version none
          (book.withRows "Messages" { l with below := above ++ below }.rows)).outcome =
            .ok profile' ∧ WithoutMessage rules version book l head profile profile') ∧
    (∀ above row below, l.below = above ++ row :: below → l.isField rules row = true →
      l.isMessage rules row = false → l.isMain rules row = false →
      ∃ profile', (render rules version none
          (book.withRows "Messages" { l with below := above ++ below }.rows)).outcome =
            .ok profile' ∧ WithoutSubfield rules version book l above row profile profile') := by
  constructor
  · intro above head rows below hrows hhead hinner hnext
    exact render_withoutMessage hrules hsheet hleads h hrows hhead hinner hnext
  · intro above row below hrows hfield hmessage hmain
    exact render_withoutSubfield hrules hsheet hleads h hrows hfield hmessage hmain

/-- The row of the one subfield in the workbook of two messages. -/
def triggerRow : List String :=
  ["", "", "timer_trigger", "uint16", "", "", "", "", "", "", "", "event", "timer"]

theorem poolBook_independent : ∃ profile withoutLength withoutTrigger,
    RuleSet.sdk20 ∈ RuleSet.registered ∧
      poolBook.sheets.lookup "Messages" = some poolSheet.rows ∧ poolSheet.Leads ∧
      (render .sdk20 ⟨21, 0⟩ none poolBook).outcome = .ok profile ∧
      (render .sdk20 ⟨21, 0⟩ none (poolBook.withRows "Messages"
        { poolSheet with below := poolSheet.below.drop 2 }.rows)).outcome = .ok withoutLength ∧
      WithoutMessage .sdk20 ⟨21, 0⟩ poolBook poolSheet ["length"] profile withoutLength ∧
      (render .sdk20 ⟨21, 0⟩ none (poolBook.withRows "Messages"
        { poolSheet with below := poolSheet.below.take 5 }.rows)).outcome = .ok withoutTrigger ∧
      WithoutSubfield .sdk20 ⟨21, 0⟩ poolBook poolSheet (poolSheet.below.take 5) triggerRow profile
        withoutTrigger := by
  have hrendered : ∃ profile, (render .sdk20 ⟨21, 0⟩ none poolBook).outcome = .ok profile :=
    ⟨_, rfl⟩
  obtain ⟨profile, hprofile⟩ := hrendered
  have hrules : RuleSet.sdk20 ∈ RuleSet.registered := by simp [RuleSet.registered]
  have hsheet : poolBook.sheets.lookup "Messages" = some poolSheet.rows := rfl
  obtain ⟨hmessages, hsubfields⟩ := render_independent hrules hsheet poolSheet_leads hprofile
  obtain ⟨withoutLength, hlength, hlacksLength⟩ :=
    hmessages [] ["length"] [["", "5", "total_strokes", "uint16"]] (poolSheet.below.drop 2) rfl rfl
      (by decide) (by decide)
  obtain ⟨withoutTrigger, htrigger, hlacksTrigger⟩ :=
    hsubfields (poolSheet.below.take 5) triggerRow [] rfl rfl rfl rfl
  exact ⟨profile, withoutLength, withoutTrigger, hrules, hsheet, poolSheet_leads, hprofile, hlength,
    hlacksLength, htrigger, hlacksTrigger⟩

end Generator

end FitProfile
