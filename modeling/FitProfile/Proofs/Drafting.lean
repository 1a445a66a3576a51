import FitProfile.Draft.OfWorkbook
import FitProfile.Proofs.Linking.Consistent
import FitProfile.Proofs.Outcome
/-!
# FitProfile.Proofs.Drafting -- what every draft read from a workbook fulfils

Reading a workbook leaves some invariants to linking: base types are known, a field has as
many reference values as reference names, arrays have a size, and a subfield names a
reference and bears the number of its main field. `Draft.WellFormed` states them, and
`wellFormed_of_ofWorkbook` proves them of each draft that is read.
-/

namespace FitProfile

open FitProfile.Draft FitProfile.Outcome

namespace Draft

/-- Reference names and values in pairs, and an array of some size, if any. -/
structure FieldSpec.WellFormed (spec : FieldSpec) : Prop where
  paired : spec.refNames.length = spec.refValues.length
  sized : Extent.IsArraySize spec.extent

/-- Rows that are well formed; the subfields name references, under the number of the
main field. -/
structure FieldBlock.WellFormed (block : FieldBlock) : Prop where
  main : block.main.toFieldSpec.WellFormed
  subfields : ∀ sub ∈ block.subfields, sub.toFieldSpec.WellFormed ∧ sub.refNames ≠ [] ∧
    sub.number = block.main.number

/-- A draft as sheets can state it. -/
structure WellFormed (draft : Draft) : Prop where
  types : ∀ type ∈ draft.types, (BaseType.ofName? type.baseType).isSome
  blocks : ∀ message ∈ draft.messages, ∀ block ∈ message.fields, block.WellFormed

theorem FieldBlock.WellFormed.row {block : FieldBlock} (h : block.WellFormed) {row : FieldRow}
    (hmem : row ∈ block.main :: block.subfields) : row.toFieldSpec.WellFormed := by
  rcases List.mem_cons.mp hmem with rfl | hmem
  · exact h.main
  · exact (h.subfields row hmem).1

/-- A subfield that was read has a reference. -/
theorem FieldBlock.WellFormed.references_ne_nil {block : FieldBlock} (h : block.WellFormed)
    {sub : FieldRow} (hmem : sub ∈ block.subfields) : sub.references ≠ [] := by
  obtain ⟨hspec, hrefs, -⟩ := h.subfields sub hmem
  intro hnil
  have hlength := congrArg List.length hnil
  rw [FieldRow.references, List.length_zip, ← hspec.paired, Nat.min_self,
    List.length_nil] at hlength
  exact hrefs (List.eq_nil_of_length_eq_zero hlength)

/-! ## The Types sheet -/

namespace TypesSheet

variable {r : SheetReader}

/-- What a type is read as: its base type is known, and its values are those of its rows. -/
theorem readType_eq_ok {head : Row} {rows : List Row} {type : TypeBlock} :
    (readType r (head, rows)).outcome = .ok type ↔
      (BaseType.ofName? (r.get head TypesColumn.baseType.key)).isSome ∧
        ∃ values, (readValues r (r.get head TypesColumn.typeName.key) [] rows).outcome = .ok values ∧
          type = ⟨r.get head TypesColumn.typeName.key, r.get head TypesColumn.baseType.key,
            r.get head TypesColumn.comment.key, head.index, values⟩ := by
  simp only [readType]
  constructor
  · intro h
    split at h
    next =>
      obtain ⟨_, hfault, -⟩ := Reported.outcome_bind_eq_ok.mp h
      cases hfault
    next hknown =>
      obtain ⟨values, hvalues, hpure⟩ := Reported.outcome_bind_eq_ok.mp h
      cases hpure
      exact ⟨by simpa [Option.isSome_iff_ne_none] using hknown, values, hvalues, rfl⟩
  · rintro ⟨hknown, values, hvalues, rfl⟩
    rw [if_neg (by simpa [Option.isSome_iff_ne_none] using hknown)]
    exact Reported.outcome_bind_eq_ok.mpr ⟨values, hvalues, rfl⟩

/-- Types are read one by one. -/
theorem readTypes_eq_ok {blocks : List (Row × List Row)} {types : List TypeBlock} :
    (readTypes r blocks).outcome = .ok types ↔
      List.Forall₂ (fun block type => (readType r block).outcome = .ok type) blocks types := by
  induction blocks generalizing types with
  | nil =>
    rw [List.forall₂_nil_left_iff]
    constructor
    · intro h
      cases h
      rfl
    · rintro rfl
      rfl
  | cons block rest ih =>
    rw [readTypes, Reported.outcome_bind_eq_ok, List.forall₂_cons_left_iff]
    constructor
    · rintro ⟨type, htype, h⟩
      obtain ⟨others, hothers, hpure⟩ := Reported.outcome_bind_eq_ok.mp h
      cases hpure
      exact ⟨type, others, htype, ih.mp hothers, rfl⟩
    · rintro ⟨type, others, htype, hothers, rfl⟩
      exact ⟨type, htype, Reported.outcome_bind_eq_ok.mpr ⟨others, ih.mpr hothers, rfl⟩⟩

/-- Rows are read as types where no value stands in front of the first type. -/
theorem readRows_eq_ok {rows : List Row} {types : List TypeBlock} :
    (readRows r rows).outcome = .ok types ↔
      (∀ row ∈ (cutBlocks (isTypeRow r) rows).1, isValueRow r row = false) ∧
        List.Forall₂ (fun block type => (readType r block).outcome = .ok type)
          (cutBlocks (isTypeRow r) rows).2 types := by
  have hlead : (∀ row ∈ (cutBlocks (isTypeRow r) rows).1, isValueRow r row = false) ↔
      (cutBlocks (isTypeRow r) rows).1.find? (isValueRow r) = none := by
    simp only [List.find?_eq_none, Bool.not_eq_true]
  rw [hlead, ← readTypes_eq_ok]
  unfold readRows
  split
  next lead blocks heq =>
    simp only [heq]
    split
    next hfound =>
      rw [hfound]
      simp [Reported.ofExcept]
    next hnone =>
      rw [hnone]
      simp

/-- A Types sheet is read by its header, row for row below it. -/
theorem read_eq_ok {rules : RuleSet} {sheet : Sheet} {types : List TypeBlock} :
    (read rules sheet).outcome = .ok types ↔ ∃ r, reader rules sheet = .ok r ∧
      (readRows r (sheet.rowsBelow r.header)).outcome = .ok types := by
  unfold read
  rw [Reported.outcome_bind_eq_ok]
  exact Iff.rfl

theorem read_known {rules : RuleSet} {sheet : Sheet} {types : List TypeBlock}
    (h : (read rules sheet).outcome = .ok types) :
    ∀ type ∈ types, (BaseType.ofName? type.baseType).isSome := by
  obtain ⟨r, -, h⟩ := read_eq_ok.mp h
  obtain ⟨-, hall⟩ := readRows_eq_ok.mp h
  intro type hmem
  obtain ⟨⟨head, rows⟩, -, htype⟩ := forall₂_exists_of_mem_right hall hmem
  obtain ⟨hknown, values, -, rfl⟩ := readType_eq_ok.mp htype
  exact hknown

end TypesSheet

/-! ## The Messages sheet -/

namespace MessagesSheet

variable {r : SheetReader}

theorem readExtent_isArraySize {row : Row} {text : String} {extent : Option Extent}
    (h : readExtent r row text = .ok extent) : Extent.IsArraySize extent := by
  unfold readExtent at h
  dsimp only at h
  split at h
  next =>
    cases h
    trivial
  next =>
    split at h
    next => cases h
    next =>
      cases h
      exact rfl
    next =>
      split at h
      next => cases h
      next =>
        split at h
        next => cases h
        next =>
          cases h
          trivial

/-- What the cells of a row state of a field that is read from it. -/
structure StatesField (r : SheetReader) (row : Row) (number : Option Int) (spec : FieldSpec) :
    Prop where
  place : spec.row = row.index
  name : spec.name = r.get row MessagesColumn.fieldName.key
  number : readNumber r row = .ok number
  extent : readExtent r row (r.get row MessagesColumn.array.key) = .ok spec.extent
  refNames : spec.refNames = Text.commaList (r.get row MessagesColumn.refFieldName.key)
  paired : spec.refNames.length = spec.refValues.length

/-- The checks of a row in front of what it holds. -/
structure PassesHead (r : SheetReader) (row : Row) : Prop where
  name : r.get row MessagesColumn.fieldName.key ≠ ""
  type : r.get row MessagesColumn.fieldType.key ≠ ""
  paired : (Text.commaList (r.get row MessagesColumn.refFieldName.key)).length =
    (Text.commaList (r.get row MessagesColumn.refFieldValue.key)).length

/-- The field of a row, given the parts that need reading. -/
def statedField (r : SheetReader) (row : Row) (contents : List ComponentEntry × OwnScaling)
    (extent : Option Extent) : FieldSpec where
  row := row.index
  name := r.get row MessagesColumn.fieldName.key
  typeName := r.get row MessagesColumn.fieldType.key
  extent := extent
  components := contents.1
  scale := contents.2.scale
  offset := contents.2.offset
  units := contents.2.units
  accumulate := contents.2.accumulate
  refNames := Text.commaList (r.get row MessagesColumn.refFieldName.key)
  refValues := Text.commaList (r.get row MessagesColumn.refFieldValue.key)
  comment := SheetReader.nonEmpty? (r.get row MessagesColumn.comment.key)

/-- A row that passes these checks is read part by part. -/
theorem readField_of_passesHead {message : String} {row : Row} (h : PassesHead r row) :
    readField r message row =
      (readContents r row >>= fun contents => readNumber r row >>= fun number =>
        readExtent r row (r.get row MessagesColumn.array.key) >>= fun extent =>
          pure (number, statedField r row contents extent)) := by
  have hname : (r.get row MessagesColumn.fieldName.key).toList.isEmpty = false := by
    simpa using h.name
  have htype : (r.get row MessagesColumn.fieldType.key).toList.isEmpty = false := by
    simpa using h.type
  simp only [readField, hname, htype, h.paired, Bool.false_eq_true, if_false, ne_eq,
    not_true_eq_false]
  rfl

/-- A row that fails one of them is refused as an input. -/
theorem readField_of_not_passesHead {message : String} {row : Row} (h : ¬ PassesHead r row) :
    ∃ cause location, readField r message row = .error (.input cause location) := by
  simp only [readField]
  split
  next => exact ⟨_, _, rfl⟩
  next hname =>
    split
    next => exact ⟨_, _, rfl⟩
    next htype =>
      split
      next => exact ⟨_, _, rfl⟩
      next hpaired =>
        exact absurd ⟨by simpa using hname, by simpa using htype, Decidable.not_not.mp hpaired⟩ h

theorem passesHead_of_readField {message : String} {row : Row} {result : Option Int × FieldSpec}
    (h : readField r message row = .ok result) : PassesHead r row := by
  by_contra hnot
  have hrefused : ∃ cause location, readField r message row = .error (.input cause location) :=
    readField_of_not_passesHead hnot
  obtain ⟨cause, location, hfault⟩ := hrefused
  rw [hfault] at h
  cases h

theorem statesField_of_readField {message : String} {row : Row} {number : Option Int}
    {spec : FieldSpec} (h : readField r message row = .ok (number, spec)) :
    StatesField r row number spec := by
  have hhead := passesHead_of_readField h
  rw [readField_of_passesHead hhead] at h
  obtain ⟨contents, -, h⟩ := bind_eq_ok.mp h
  obtain ⟨number, hnumber, h⟩ := bind_eq_ok.mp h
  obtain ⟨extent, hextent, hpure⟩ := bind_eq_ok.mp h
  cases hpure
  exact ⟨rfl, rfl, hnumber, hextent, rfl, hhead.paired⟩

/-- The contents of an accepted row are those of its field. -/
theorem readContents_of_readField {message : String} {row : Row} {number : Option Int}
    {spec : FieldSpec} (h : readField r message row = .ok (number, spec)) :
    readContents r row =
      .ok (spec.components, ⟨spec.scale, spec.offset, spec.units, spec.accumulate⟩) := by
  rw [readField_of_passesHead (passesHead_of_readField h)] at h
  obtain ⟨contents, hcontents, h⟩ := bind_eq_ok.mp h
  obtain ⟨_, -, h⟩ := bind_eq_ok.mp h
  obtain ⟨_, -, hpure⟩ := bind_eq_ok.mp h
  cases hpure
  exact hcontents

theorem readField_wellFormed {message : String} {row : Row} {result : Option Int × FieldSpec}
    (h : readField r message row = .ok result) : result.2.WellFormed := by
  have hstates : StatesField r row result.1 result.2 := statesField_of_readField h
  exact ⟨hstates.paired, readExtent_isArraySize hstates.extent⟩

/-- One more subfield under the number of the main field keeps a block well formed. -/
theorem wellFormed_addSubfield {block : FieldBlock} {spec : FieldSpec} (hblock : block.WellFormed)
    (hspec : spec.WellFormed) (hreference : spec.hasReference = true) :
    FieldBlock.WellFormed
      { block with subfields := block.subfields ++ [⟨spec, block.main.number⟩] } := by
  refine ⟨hblock.main, ?_⟩
  intro sub hsub
  rcases List.mem_append.mp hsub with hsub | hsub
  · exact hblock.subfields sub hsub
  · obtain rfl := List.mem_singleton.mp hsub
    exact ⟨hspec, by simpa [FieldSpec.hasReference] using hreference, rfl⟩

/-- A main field by itself is a well formed block. -/
theorem wellFormed_mainField {spec : FieldSpec} {n : Int} (hspec : spec.WellFormed) :
    FieldBlock.WellFormed ⟨⟨spec, n⟩, []⟩ := ⟨hspec, by simp⟩

/-- Each row either joins the block above it or opens the next one; both keep blocks well
formed. -/
theorem readFields_wellFormed {message : String} {current : Option FieldBlock} {rows : List Row}
    {blocks : List FieldBlock} (hcurrent : ∀ block ∈ current, block.WellFormed)
    (h : readFields r message current rows = .ok blocks) : ∀ block ∈ blocks, block.WellFormed := by
  induction rows generalizing current blocks with
  | nil =>
    cases h
    simpa using hcurrent
  | cons row rest ih =>
    obtain ⟨⟨number, spec⟩, hfield, h⟩ := bind_eq_ok.mp h
    have hspec : spec.WellFormed := readField_wellFormed hfield
    cases number with
    | none =>
      -- a row without a number is a subfield, so there must be a block above it
      cases current with
      | none => exact absurd h throw_ne_ok
      | some block =>
        have hblock := hcurrent block rfl
        dsimp only at h
        split at h
        next hreference =>
          refine ih ?_ h
          rintro _ ⟨⟩
          exact wellFormed_addSubfield hblock hspec hreference
        next => exact absurd h throw_ne_ok
    | some n =>
      cases current with
      | none =>
        refine ih ?_ h
        rintro _ ⟨⟩
        exact wellFormed_mainField hspec
      | some block =>
        have hblock := hcurrent block rfl
        dsimp only at h
        split at h
        -- the number of the block again joins the block if there is a reference
        next hjoins =>
          refine ih ?_ h
          rintro _ ⟨⟩
          exact wellFormed_addSubfield hblock hspec hjoins.2
        next =>
          obtain ⟨others, hothers, hpure⟩ := bind_eq_ok.mp h
          cases hpure
          intro b hb
          rcases List.mem_cons.mp hb with rfl | hb
          · exact hblock
          · refine ih ?_ hothers b hb
            rintro _ ⟨⟩
            exact wellFormed_mainField hspec

theorem readMessages_eq_mapM (blocks : List (Row × List Row)) :
    readMessages r blocks = blocks.mapM (readMessage r) := by
  induction blocks with
  | nil => rfl
  | cons block rest ih => rw [readMessages, List.mapM_cons, ih]

theorem readMessages_wellFormed {blocks : List (Row × List Row)} {messages : List MessageBlock}
    (h : readMessages r blocks = .ok messages) :
    ∀ message ∈ messages, ∀ block ∈ message.fields, block.WellFormed := by
  rw [readMessages_eq_mapM, mapM_eq_ok] at h
  intro message hmem
  obtain ⟨block, -, hmessage⟩ := forall₂_exists_of_mem_right h hmem
  obtain ⟨declared, -, hmessage⟩ := bind_eq_ok.mp hmessage
  obtain ⟨fields, hfields, hpure⟩ := bind_eq_ok.mp hmessage
  cases hpure
  exact readFields_wellFormed (by simp) hfields

theorem read_wellFormed {rules : RuleSet} {sheet : Sheet} {messages : List MessageBlock}
    (h : read rules sheet = .ok messages) :
    ∀ message ∈ messages, ∀ block ∈ message.fields, block.WellFormed := by
  obtain ⟨r, -, h⟩ := bind_eq_ok.mp h
  unfold readRows at h
  split at h
  split at h
  next => cases h
  next => exact readMessages_wellFormed h

end MessagesSheet

/-! ## The whole workbook -/

/-- Checks the release that a workbook declares, if any, against the requested one. -/
def checkRelease (rules : RuleSet) (version : Version) : Option Version → Except Fault Unit
  | some found => if found ≠ version then .error (versionFault rules found version) else .ok ()
  | none => .ok ()

/-- Reads the two sheets of a workbook. -/
def readSheets (rules : RuleSet) (book : Workbook) (declared : Option Version) :
    Reported Draft := do
  let typesSheet ← Reported.ofExcept (book.sheet rules.typesSheet)
  let types ← TypesSheet.read rules typesSheet
  let messagesSheet ← Reported.ofExcept (book.sheet rules.messagesSheet)
  let messages ← Reported.ofExcept (MessagesSheet.read rules messagesSheet)
  Reported.note (.progress (.drafted types.length messages.length rules.text))
  return ⟨types, messages, declared⟩

section Steps

variable {rules : RuleSet} {version : Version} {book : Workbook} {draft : Draft}
  {declared : Option Version}

/-- Whether a release was declared or not, the same steps follow. -/
theorem ofWorkbook_eq : ofWorkbook rules version book =
    (Reported.ofExcept (declaredVersion? rules book) >>= fun declared =>
      Reported.ofExcept (checkRelease rules version declared) >>= fun _ =>
        readSheets rules book declared) := by
  unfold ofWorkbook
  congr 1
  funext declared
  cases declared with
  | none => rfl
  | some found =>
    dsimp only [checkRelease]
    split
    next => rfl
    next => rfl

theorem checkRelease_eq_ok : checkRelease rules version declared = .ok () ↔
    ∀ found, declared = some found → found = version := by
  cases declared with
  | none => simp [checkRelease]
  | some found => simp [checkRelease]

theorem readSheets_eq_ok : (readSheets rules book declared).outcome = .ok draft ↔
    declared = draft.declaredVersion ∧
      (∃ sheet, book.sheet rules.typesSheet = .ok sheet ∧
        (TypesSheet.read rules sheet).outcome = .ok draft.types) ∧
      ∃ sheet, book.sheet rules.messagesSheet = .ok sheet ∧
        MessagesSheet.read rules sheet = .ok draft.messages := by
  constructor
  · intro h
    obtain ⟨typesSheet, htypesSheet, h⟩ := Reported.outcome_bind_eq_ok.mp h
    obtain ⟨types, htypes, h⟩ := Reported.outcome_bind_eq_ok.mp h
    obtain ⟨messagesSheet, hmessagesSheet, h⟩ := Reported.outcome_bind_eq_ok.mp h
    obtain ⟨messages, hmessages, h⟩ := Reported.outcome_bind_eq_ok.mp h
    obtain ⟨_, -, hpure⟩ := Reported.outcome_bind_eq_ok.mp h
    cases hpure
    exact ⟨rfl, ⟨typesSheet, htypesSheet, htypes⟩, messagesSheet, hmessagesSheet, hmessages⟩
  · rintro ⟨rfl, ⟨typesSheet, htypesSheet, htypes⟩, messagesSheet, hmessagesSheet, hmessages⟩
    exact Reported.outcome_bind_eq_ok.mpr ⟨_, htypesSheet,
      Reported.outcome_bind_eq_ok.mpr ⟨_, htypes,
      Reported.outcome_bind_eq_ok.mpr ⟨_, hmessagesSheet,
      Reported.outcome_bind_eq_ok.mpr ⟨_, hmessages, rfl⟩⟩⟩⟩

/-- Of what is noted on the way, only the Types sheet is warned of. -/
theorem warnings_readSheets (h : (readSheets rules book declared).outcome = .ok draft) :
    ∃ sheet, (TypesSheet.read rules sheet).outcome = .ok draft.types ∧
      (readSheets rules book declared).warnings = (TypesSheet.read rules sheet).warnings := by
  obtain ⟨rfl, ⟨typesSheet, htypesSheet, htypes⟩, messagesSheet, hmessagesSheet, hmessages⟩ :=
    readSheets_eq_ok.mp h
  have hquiet : ∀ {α : Type} (x : Except Fault α), (Reported.ofExcept x).warnings = [] :=
    fun _ => rfl
  refine ⟨typesSheet, htypes, ?_⟩
  rw [readSheets, Reported.warnings_bind htypesSheet, Reported.warnings_bind htypes,
    Reported.warnings_bind hmessagesSheet, Reported.warnings_bind hmessages, hquiet, hquiet, hquiet,
    List.nil_append, List.nil_append, List.nil_append]
  exact List.append_nil _

/-- A draft is read when the declared release, if any, is the requested one, and both sheets can
be read. -/
theorem ofWorkbook_eq_ok :
    (ofWorkbook rules version book).outcome = .ok draft ↔
      declaredVersion? rules book = .ok draft.declaredVersion ∧
        (∀ found, draft.declaredVersion = some found → found = version) ∧
        (∃ sheet, book.sheet rules.typesSheet = .ok sheet ∧
          (TypesSheet.read rules sheet).outcome = .ok draft.types) ∧
        ∃ sheet, book.sheet rules.messagesSheet = .ok sheet ∧
          MessagesSheet.read rules sheet = .ok draft.messages := by
  rw [ofWorkbook_eq, Reported.outcome_bind_eq_ok]
  constructor
  · rintro ⟨declared, hdeclared, h⟩
    obtain ⟨_, hrelease, h⟩ := Reported.outcome_bind_eq_ok.mp h
    obtain ⟨rfl, hsheets⟩ := readSheets_eq_ok.mp h
    exact ⟨hdeclared, checkRelease_eq_ok.mp hrelease, hsheets⟩
  · rintro ⟨hdeclared, hrelease, hsheets⟩
    exact ⟨_, hdeclared, Reported.outcome_bind_eq_ok.mpr
      ⟨(), checkRelease_eq_ok.mpr hrelease, readSheets_eq_ok.mpr ⟨rfl, hsheets⟩⟩⟩

/-- All warnings about a workbook are issued when its Types sheet is read. -/
theorem warnings_ofWorkbook (h : (ofWorkbook rules version book).outcome = .ok draft) :
    ∃ sheet, (TypesSheet.read rules sheet).outcome = .ok draft.types ∧
      (ofWorkbook rules version book).warnings = (TypesSheet.read rules sheet).warnings := by
  rw [ofWorkbook_eq] at h ⊢
  obtain ⟨declared, hdeclared, h⟩ := Reported.outcome_bind_eq_ok.mp h
  obtain ⟨_, hrelease, h⟩ := Reported.outcome_bind_eq_ok.mp h
  rw [Reported.warnings_bind hdeclared, Reported.warnings_bind hrelease]
  exact warnings_readSheets h

end Steps

/-- Each draft that is read is well formed. -/
theorem wellFormed_of_ofWorkbook {rules : RuleSet} {version : Version} {book : Workbook}
    {draft : Draft} (h : (ofWorkbook rules version book).outcome = .ok draft) :
    draft.WellFormed := by
  obtain ⟨-, -, ⟨typesSheet, -, htypes⟩, messagesSheet, -, hmessages⟩ := ofWorkbook_eq_ok.mp h
  exact ⟨TypesSheet.read_known htypes, MessagesSheet.read_wellFormed hmessages⟩

end Draft

end FitProfile
