import FitProfile.Proofs.Reading.TypeRearrangement
import FitProfile.Proofs.RowOrder
import FitProfile.Proofs.Source.TypePlaces
/-!
# FitProfile.Proofs.TypeOrder -- the order of types in a workbook

The types of a workbook may stand in any order: the messages and the release are the same text, and
the module of the types and the stringer input list the same types in the order in which they now
stand. `render_typesRearranged` proves it for the whole way from the workbook to the profile. Each
block of rows states a type by itself, the table of types keeps their order and puts the implicit
ones last, and everything else asks for types by their names.
-/

namespace FitProfile

open FitProfile.Draft FitProfile.Outcome FitProfile.Source

namespace Generator

variable {rules : RuleSet} {version : Version} {moment : Option Moment} {book : Workbook}

/-- A workbook with other rows on its Types sheet is read to the same draft, but for the types. -/
theorem ofWorkbook_withTypes {l : Layout} {draft : Draft} (hrules : rules ∈ RuleSet.registered)
    (hsheet : book.sheets.lookup "Types" = some l.rows)
    (hdraft : (Draft.ofWorkbook rules version book).outcome = .ok draft) :
    (TypesSheet.read rules (.ofCells "Types" l.rows)).outcome = .ok draft.types ∧
      ∀ rows types, (TypesSheet.read rules (.ofCells "Types" rows)).outcome = .ok types →
        (Draft.ofWorkbook rules version (book.withRows "Types" rows)).outcome =
          .ok { draft with types := types } := by
  obtain ⟨htypesName, hmessagesSheet, hversionName, -⟩ := RuleSet.sheets_of_registered hrules
  have hmessagesName : rules.messagesSheet ≠ some "Types" := by
    rw [hmessagesSheet]
    decide
  obtain ⟨hdeclared, hrequested, ⟨sheet, htypes, hreadTypes⟩, hmessages⟩ :=
    ofWorkbook_eq_ok.mp hdraft
  rw [htypesName] at htypes
  obtain ⟨cells, hcells, rfl⟩ := Workbook.sheet_eq_ok htypes
  obtain rfl : l.rows = cells := Option.some.inj (hsheet.symm.trans hcells)
  refine ⟨hreadTypes, fun rows types hread => ?_⟩
  refine ofWorkbook_eq_ok.mpr ⟨?_, hrequested, ⟨_, ?_, hread⟩, ?_⟩
  · rw [declaredVersion?_withRows hversionName]
    exact hdeclared
  · rw [htypesName]
    exact Workbook.sheet_withRows_self
  · rw [Workbook.sheet_withRows_of_ne hmessagesName]
    exact hmessages

/-- The one profile is the other with the types in another order. The modules of the messages and of
the release are the same. Each block of the Types sheet states a type of its name by itself, and
both profiles list these types in the order of their blocks, with the same implicit types behind
them. -/
structure TypesMoved (rules : RuleSet) (version : Version) (moment : Option Moment) (l : Layout)
    (below : List (List String)) (profile profile' : Profile) : Prop where
  messages : profile'.messages = profile.messages
  release : profile'.profile = profile.profile
  unmatched : profile'.unmatched = profile.unmatched
  stated : ∀ block ∈ l.typeBlocks rules, ∃ type, l.typeOf? rules "Types" block = some type ∧
    type.name = l.under rules.typesColumns block.1 TypesColumn.typeName.key
  listed : ∃ implicit : List TypeDef,
    (∀ type ∈ implicit, type.name ∈ rules.implicitTypes.map Prod.fst) ∧
    profile.ListsTypes version moment
      ((l.typeBlocks rules).filterMap (l.typeOf? rules "Types") ++ implicit) ∧
    profile'.ListsTypes version moment
      ((Layout.typeBlocks { l with below := below } rules).filterMap (l.typeOf? rules "Types") ++
        implicit)

/-- Types may stand in any order: with the blocks of the Types sheet moved, a workbook is rendered
to the same profile but for the order of the types. -/
theorem render_typesRearranged {l : Layout} {below : List (List String)} {profile : Profile}
    (hrules : rules ∈ RuleSet.registered) (hsheet : book.sheets.lookup "Types" = some l.rows)
    (hleads : l.Leads)
    (hlead : (cutBlocks (l.isType rules) below).1 = (cutBlocks (l.isType rules) l.below).1)
    (hblocks : (l.typeBlocks rules).Perm (Layout.typeBlocks { l with below := below } rules))
    (h : (render rules version moment book).outcome = .ok profile) :
    ∃ profile', (render rules version moment
        (book.withRows "Types" { l with below := below }.rows)).outcome = .ok profile' ∧
      TypesMoved rules version moment l below profile profile' := by
  obtain ⟨draft, model, hdraft, hmodel, hprofile⟩ := render_eq_ok.mp h
  obtain ⟨hread, hreads⟩ := ofWorkbook_withTypes hrules hsheet hdraft
  have hleads' : Layout.Leads { l with below := below } := ⟨hleads.above, hleads.header⟩
  obtain ⟨blocks, hreadMoved⟩ := TypesSheet.exists_read_rearranged hleads hlead hblocks hread
  have hdraft' := hreads _ blocks hreadMoved
  -- the types of both sheets are those of the blocks, so they are the same but for the order
  have hall := TypesSheet.readsType_of_read hleads hread
  have hstated := TypesSheet.filterMap_typeOf? hall
  have hstated' : (Layout.typeBlocks { l with below := below } rules).filterMap
      (l.typeOf? rules "Types") = blocks.filterMap TypeTable.stated? :=
    TypesSheet.filterMap_typeOf? (TypesSheet.readsType_of_read hleads' hreadMoved)
  have hperm : (draft.types.filterMap TypeTable.stated?).Perm
      (blocks.filterMap TypeTable.stated?) := by
    rw [← hstated, ← hstated']
    exact hblocks.filterMap _
  obtain ⟨htypes, hversion, -⟩ := Model.ofDraft_eq_ok hmodel
  obtain ⟨declared, declared', implicit, hmodelTypes, htable, hdeclared, hdeclared', himplicit⟩ :=
    TypeTable.ofDraft_perm hperm (wellFormed_of_ofWorkbook hdraft').types htypes
  have hcontents : (model.types.map TypeDef.content).Perm
      ((declared' ++ implicit).map TypeDef.content) := by
    rw [hmodelTypes, List.map_append, List.map_append, hdeclared, hdeclared']
    exact hperm.append_right _
  obtain ⟨places, hmoves⟩ := TypeTable.exists_moves hcontents (TypeTable.ofDraft_eq_ok htypes).2.1
  have hmodel' := Model.ofDraft_moved hmoves htable hmodel
  have hlinked : model.LinkedFrom rules version book := ⟨draft, hdraft, hmodel⟩
  have hintact' := Model.intact_of_wellFormed (wellFormed_of_ofWorkbook hdraft') hmodel'
  obtain ⟨profile', hprofile', hmessages, hrelease, hunmatched⟩ :=
    Model.render_moved hlinked.intact hintact' hmoves hversion.symm rfl rfl hprofile
  refine ⟨profile', render_eq_ok.mpr ⟨_, _, hdraft', hmodel', hprofile'⟩,
    ⟨hmessages, hrelease, hunmatched, ?_, implicit, himplicit, ?_, ?_⟩⟩
  · intro block hblock
    obtain ⟨type, -, htype⟩ := forall₂_exists_of_mem hall hblock
    exact htype.exists_typeOf?
  · rw [← hversion]
    refine Model.listsTypes_of_render hprofile ?_
    rw [hmodelTypes, hstated, ← hdeclared, List.map_append, List.map_append, List.map_map]
    rfl
  · refine Model.listsTypes_of_render hprofile' ?_
    rw [hstated', ← hdeclared', List.map_append, List.map_append, List.map_map]
    rfl

/-- The Types sheet of the workbook of two messages. -/
def poolTypes : Layout where
  above := []
  header := ["Type Name", "Base Type", "Value Name", "Value", "Comment"]
  below :=
    [["mesg_num", "uint16"], ["", "", "event", "21"], ["", "", "length", "101"],
     ["event", "enum"], ["", "", "timer", "0"]]

/-- The rows of the sheet with the type that numbers the messages behind the other one. -/
def rearrangedTypes : List (List String) :=
  [["event", "enum"], ["", "", "timer", "0"],
   ["mesg_num", "uint16"], ["", "", "event", "21"], ["", "", "length", "101"]]

theorem render_rearrangedTypes : ∃ profile profile',
    RuleSet.sdk20 ∈ RuleSet.registered ∧
      poolBook.sheets.lookup "Types" = some poolTypes.rows ∧ poolTypes.Leads ∧
      (cutBlocks (poolTypes.isType .sdk20) rearrangedTypes).1 =
        (cutBlocks (poolTypes.isType .sdk20) poolTypes.below).1 ∧
      (poolTypes.typeBlocks .sdk20).Perm
        (Layout.typeBlocks { poolTypes with below := rearrangedTypes } .sdk20) ∧
      (render .sdk20 ⟨21, 0⟩ none poolBook).outcome = .ok profile ∧
      (render .sdk20 ⟨21, 0⟩ none (poolBook.withRows "Types"
        { poolTypes with below := rearrangedTypes }.rows)).outcome = .ok profile' ∧
      TypesMoved .sdk20 ⟨21, 0⟩ none poolTypes rearrangedTypes profile profile' := by
  have hrendered : ∃ profile, (render .sdk20 ⟨21, 0⟩ none poolBook).outcome = .ok profile :=
    ⟨_, rfl⟩
  obtain ⟨profile, hprofile⟩ := hrendered
  have hrules : RuleSet.sdk20 ∈ RuleSet.registered := by simp [RuleSet.registered]
  have hsheet : poolBook.sheets.lookup "Types" = some poolTypes.rows := rfl
  have hleads : poolTypes.Leads :=
    ⟨by simp [poolTypes], "Type Name", by simp [poolTypes], by decide⟩
  have hlead : (cutBlocks (poolTypes.isType .sdk20) rearrangedTypes).1 =
      (cutBlocks (poolTypes.isType .sdk20) poolTypes.below).1 := rfl
  have hblocks : (poolTypes.typeBlocks .sdk20).Perm
      (Layout.typeBlocks { poolTypes with below := rearrangedTypes } .sdk20) :=
    (List.reverse_perm _).symm
  obtain ⟨profile', hmoved⟩ :=
    render_typesRearranged hrules hsheet hleads hlead hblocks hprofile
  exact ⟨profile, profile', hrules, hsheet, hleads, hlead, hblocks, hprofile, hmoved⟩

end Generator

end FitProfile
