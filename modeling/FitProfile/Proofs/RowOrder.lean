import FitProfile.Proofs.Generating
import FitProfile.Proofs.Linking.Acceptance
import FitProfile.Proofs.Reading.Rearrangement
/-!
# FitProfile.Proofs.RowOrder -- the order of messages and fields in a workbook

A profile does not depend on the order in which the Messages sheet states messages and the main
fields of a message. `render_rearranged` proves it for the whole way from the workbook to the
profile: reading keeps the blocks that are moved, linking puts them in the order of their
numbers, and rendering writes no row numbers.
-/

namespace FitProfile

open FitProfile.Draft FitProfile.Outcome FitProfile.Source

/-! ## Rendering without places -/

namespace Model

theorem messageEntries_content (types : List TypeDef) (messages : List Message) :
    messageEntries types (messages.map Message.content) = messageEntries types messages := by
  induction messages with
  | nil => rfl
  | cons message rest ih =>
    rw [List.map_cons, messageEntries, messageEntries, ih]
    rfl

/-- Rendering writes no row of a message. -/
theorem render_content (model : Model) (moment : Option Moment) :
    model.content.render moment = model.render moment := by
  have hmessages : messagesLines model.content moment = messagesLines model moment := by
    simp only [messagesLines, content, messageEntries_content]
  have hprofile : profileLines model.content moment = profileLines model moment := by
    simp only [profileLines, content, List.map_map]
    rfl
  unfold render
  rw [hmessages, hprofile]
  rfl

end Model

/-! ## A workbook with another sheet -/

namespace Workbook

/-- A workbook with other rows on one of its sheets. -/
def withRows (book : Workbook) (name : String) (rows : List (List String)) : Workbook :=
  ⟨put name rows book.sheets⟩

variable {book : Workbook} {name : String} {rows : List (List String)}

theorem lookup_put (name other : String) (rows : List (List String))
    (sheets : List (String × List (List String))) :
    (put name rows sheets).lookup other =
      if other = name then some rows else sheets.lookup other := by
  induction sheets with
  | nil =>
    rw [put, List.lookup_cons]
    split
    next heq => rw [if_pos (beq_iff_eq.mp heq)]
    next hne => rw [if_neg (beq_eq_false_iff_ne.mp hne)]
  | cons sheet rest ih =>
    obtain ⟨first, kept⟩ := sheet
    unfold put
    by_cases hfirst : first = name
    · rw [if_pos hfirst, List.lookup_cons, List.lookup_cons, hfirst]
      split
      next heq => rw [if_pos (beq_iff_eq.mp heq)]
      next hne => rw [if_neg (beq_eq_false_iff_ne.mp hne)]
    · rw [if_neg hfirst, List.lookup_cons, List.lookup_cons, ih]
      split
      next heq =>
        obtain rfl : other = first := beq_iff_eq.mp heq
        rw [if_neg hfirst]
      next => rfl

theorem sheet_withRows_self :
    (book.withRows name rows).sheet (some name) = .ok (.ofCells name rows) := by
  simp [sheet, sheet?, withRows, lookup_put]

theorem sheet_withRows_of_ne {other : Option String} (h : other ≠ some name) :
    (book.withRows name rows).sheet other = book.sheet other := by
  cases other with
  | none => rfl
  | some other =>
    have hne : other ≠ name := fun heq => h (congrArg some heq)
    simp [sheet, sheet?, withRows, lookup_put, hne]

theorem hasSheet_withRows_of_ne {other : String} (h : other ≠ name) :
    (book.withRows name rows).hasSheet other = book.hasSheet other := by
  simp [hasSheet, withRows, lookup_put, h]

end Workbook

theorem Draft.declaredVersion?_withRows {rules : RuleSet} {book : Workbook} {name : String}
    {rows : List (List String)} (h : rules.versionSheet ≠ some name) :
    declaredVersion? rules (book.withRows name rows) = declaredVersion? rules book := by
  unfold declaredVersion?
  cases hversion : rules.versionSheet with
  | none => rfl
  | some other =>
    have hne : other ≠ name := fun heq => h (hversion.trans (congrArg some heq))
    simp only [Workbook.hasSheet_withRows_of_ne hne,
      Workbook.sheet_withRows_of_ne (fun heq => hne (Option.some.inj heq))]

/-! ## From one workbook to the other -/

namespace Generator

variable {rules : RuleSet} {version : Version} {moment : Option Moment} {book : Workbook}

/-- A workbook with other rows on its Messages sheet is read to the same draft, but for the
messages. -/
theorem ofWorkbook_withMessages {l : Layout} {draft : Draft} (hrules : rules ∈ RuleSet.registered)
    (hsheet : book.sheets.lookup "Messages" = some l.rows)
    (hdraft : (Draft.ofWorkbook rules version book).outcome = .ok draft) :
    MessagesSheet.read rules (.ofCells "Messages" l.rows) = .ok draft.messages ∧
      ∀ rows messages, MessagesSheet.read rules (.ofCells "Messages" rows) = .ok messages →
        (Draft.ofWorkbook rules version (book.withRows "Messages" rows)).outcome =
          .ok { draft with messages := messages } := by
  obtain ⟨htypesSheet, hmessagesName, -, hversionName⟩ := RuleSet.sheets_of_registered hrules
  have htypesName : rules.typesSheet ≠ some "Messages" := by
    rw [htypesSheet]
    decide
  obtain ⟨hdeclared, hrequested, ⟨types, htypes, hreadTypes⟩, sheet, hmessages, hread⟩ :=
    ofWorkbook_eq_ok.mp hdraft
  have hsame : sheet = .ofCells "Messages" l.rows := by
    rw [hmessagesName] at hmessages
    simp only [Workbook.sheet, Workbook.sheet?, Option.bind_some, hsheet, Option.map_some]
      at hmessages
    exact (Except.ok.inj hmessages).symm
  refine ⟨hsame ▸ hread, ?_⟩
  intro rows messages hreadRows
  refine ofWorkbook_eq_ok.mpr ⟨?_, hrequested, ⟨types, ?_, hreadTypes⟩, _, ?_, hreadRows⟩
  · rw [declaredVersion?_withRows hversionName]
    exact hdeclared
  · rw [Workbook.sheet_withRows_of_ne htypesName]
    exact htypes
  · rw [hmessagesName]
    exact Workbook.sheet_withRows_self

/-- Messages and main fields may stand in any order: the profile is the same. -/
theorem render_rearranged {l : Layout} {below : List (List String)} {profile : Profile}
    (hrules : rules ∈ RuleSet.registered) (hsheet : book.sheets.lookup "Messages" = some l.rows)
    (hleads : l.Leads) (hbelow : Rearranged (l.isMessage rules) (l.isMain rules) l.below below)
    (h : (render rules version moment book).outcome = .ok profile) :
    (render rules version moment
      (book.withRows "Messages" { l with below := below }.rows)).outcome = .ok profile := by
  obtain ⟨draft, model, hdraft, hmodel, hprofile⟩ := render_eq_ok.mp h
  obtain ⟨hread, hreads⟩ := ofWorkbook_withMessages hrules hsheet hdraft
  -- linking refuses main fields that name a reference, so the rows split as they are moved
  have hmains : ∀ message ∈ draft.messages, ∀ field ∈ message.fields, field.main.refNames = [] :=
    fun message hmem => ((Model.consistent_of_ofDraft hmodel).fields message hmem).unconditional
  obtain ⟨messages, hreadMessages, hreordered⟩ :=
    MessagesSheet.read_rearranged hleads hbelow hread hmains
  have hdraft' := hreads _ messages hreadMessages
  have hdrafts : draft.Reordered { draft with messages := messages } := ⟨rfl, hreordered⟩
  obtain ⟨model', hmodel', hcontent⟩ := Model.ofDraft_reordered hdrafts hmodel
  have hprofile' : model'.render moment = .ok profile := by
    rw [← Model.render_content, hcontent, Model.render_content]
    exact hprofile
  exact render_eq_ok.mpr ⟨_, model', hdraft', hmodel', hprofile'⟩

/-- A Messages sheet with two messages, one of which has a main field with a subfield. -/
def poolSheet : Layout where
  above := []
  header := ["Message Name", "Field Def #", "Field Name", "Field Type", "Array", "Components",
    "Scale", "Offset", "Units", "Bits", "Accumulate", "Ref Field Name", "Ref Field Value",
    "Comment"]
  below :=
    [["length"],
     ["", "5", "total_strokes", "uint16"],
     ["event"],
     ["", "0", "event", "event"],
     ["", "3", "data", "uint32"],
     ["", "", "timer_trigger", "uint16", "", "", "", "", "", "", "", "event", "timer"]]

/-- The rows of the sheet with both messages and the main fields of the event moved. -/
def rearrangedPool : List (List String) :=
  [["event"],
   ["", "3", "data", "uint32"],
   ["", "", "timer_trigger", "uint16", "", "", "", "", "", "", "", "event", "timer"],
   ["", "0", "event", "event"],
   ["length"],
   ["", "5", "total_strokes", "uint16"]]

def poolBook : Workbook where
  sheets :=
    [("Types",
      [["Type Name", "Base Type", "Value Name", "Value", "Comment"],
       ["mesg_num", "uint16"], ["", "", "event", "21"], ["", "", "length", "101"],
       ["event", "enum"], ["", "", "timer", "0"]]),
     ("Messages", poolSheet.rows)]

theorem poolSheet_leads : poolSheet.Leads where
  above := by simp [poolSheet]
  header := ⟨"Message Name", by simp [poolSheet], by decide⟩

theorem rearranged_pool : Rearranged (poolSheet.isMessage .sdk20) (poolSheet.isMain .sdk20)
    poolSheet.below rearrangedPool where
  lead := rfl
  messages := by
    refine ⟨(cutBlocks (poolSheet.isMessage .sdk20) poolSheet.below).2.reverse,
      (List.reverse_perm _).symm, ?_⟩
    have hevent : RearrangedBlock (poolSheet.isMain .sdk20) (["event"], poolSheet.below.drop 3)
        (["event"], (rearrangedPool.take 4).drop 1) := ⟨rfl, rfl, (List.reverse_perm _).symm⟩
    exact .cons hevent (.cons ⟨rfl, rfl, .refl _⟩ .nil)

theorem render_rearrangedPool : ∃ profile,
    RuleSet.sdk20 ∈ RuleSet.registered ∧
      poolBook.sheets.lookup "Messages" = some poolSheet.rows ∧ poolSheet.Leads ∧
      Rearranged (poolSheet.isMessage .sdk20) (poolSheet.isMain .sdk20) poolSheet.below
        rearrangedPool ∧
      (render .sdk20 ⟨21, 0⟩ none poolBook).outcome = .ok profile ∧
      (render .sdk20 ⟨21, 0⟩ none (poolBook.withRows "Messages"
        { poolSheet with below := rearrangedPool }.rows)).outcome = .ok profile := by
  have hrendered : ∃ profile, (render .sdk20 ⟨21, 0⟩ none poolBook).outcome = .ok profile :=
    ⟨_, rfl⟩
  obtain ⟨profile, hprofile⟩ := hrendered
  have hrules : RuleSet.sdk20 ∈ RuleSet.registered := by simp [RuleSet.registered]
  have hsheet : poolBook.sheets.lookup "Messages" = some poolSheet.rows := rfl
  exact ⟨profile, hrules, hsheet, poolSheet_leads, rearranged_pool, hprofile,
    render_rearranged hrules hsheet poolSheet_leads rearranged_pool hprofile⟩

end Generator

end FitProfile
