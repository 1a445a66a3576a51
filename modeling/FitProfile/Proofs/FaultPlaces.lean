import FitProfile.Proofs.Linking.Acceptance
import FitProfile.Proofs.Reading.Places
import FitProfile.Proofs.Wording
/-!
# FitProfile.Proofs.FaultPlaces -- the rows that faults of linking name

Linking works on a draft, which has no cells, and says in its faults where the workbook
contradicts itself. The places it names are those of the offending rows: `ofDraft_refused_at`
proves it for every workbook that is read. A fault of linking names the place of the block or the
row that is refused (`Refuses`), and that place leads back to the cells (`Layout.StandsAt`).
-/

namespace FitProfile

open FitProfile.Draft FitProfile.Outcome

namespace Layout

/-- A location that is true of the row of the Messages sheet it names. With a field, the row
states that field, and the nearest row above that opens a message states the message; without
one, the row states the message itself. -/
def Locates (l : Layout) (rules : RuleSet) (location : Location) : Prop :=
  ∃ number above row, location.row = some number ∧ l.StandsAt number above row ∧
    match location.field with
    | some field => l.cell rules row .fieldName = field ∧ ∃ head,
        l.NearestMessage rules above head ∧
          location.message = some (l.cell rules head .messageName)
    | none => location.message = some (l.cell rules row .messageName)

/-- A location in the Types sheet that names no row, or one whose type name also stands in an
earlier row below the header. -/
def RepeatsType (l : Layout) (rules : RuleSet) (location : Location) : Prop :=
  ∀ number, location.row = some number → ∃ above row, l.StandsAt number above row ∧
    ∃ earlier ∈ above, l.under rules.typesColumns earlier TypesColumn.typeName.key =
      l.under rules.typesColumns row TypesColumn.typeName.key

end Layout

namespace Draft

variable {rules : RuleSet} {version : Version} {book : Workbook} {draft : Draft}

/-- The messages of a draft are read from a sheet around its header. -/
theorem exists_messages_layout (hdraft : (ofWorkbook rules version book).outcome = .ok draft)
    {name : String} (hname : rules.messagesSheet = some name) :
    ∃ l : Layout, l.Leads ∧ book.sheets.lookup name = some l.rows ∧
      MessagesSheet.read rules (.ofCells name l.rows) = .ok draft.messages := by
  obtain ⟨-, -, -, sheet, hsheet, hread⟩ := ofWorkbook_eq_ok.mp hdraft
  rw [hname] at hsheet
  obtain ⟨cells, hcells, rfl⟩ := Workbook.sheet_eq_ok hsheet
  obtain ⟨r, hreader, -⟩ := bind_eq_ok.mp hread
  obtain ⟨l, hleads, rfl⟩ := Layout.exists_layout (header_of_ofSheet hreader)
  exact ⟨l, hleads, hcells, hread⟩

/-- The types of a draft are read from a sheet around its header. -/
theorem exists_types_layout (hdraft : (ofWorkbook rules version book).outcome = .ok draft)
    {name : String} (hname : rules.typesSheet = some name) :
    ∃ l : Layout, l.Leads ∧ book.sheets.lookup name = some l.rows ∧
      (TypesSheet.read rules (.ofCells name l.rows)).outcome = .ok draft.types := by
  obtain ⟨-, -, ⟨sheet, hsheet, hread⟩, -⟩ := ofWorkbook_eq_ok.mp hdraft
  rw [hname] at hsheet
  obtain ⟨cells, hcells, rfl⟩ := Workbook.sheet_eq_ok hsheet
  obtain ⟨r, hreader, -⟩ := TypesSheet.read_eq_ok.mp hread
  obtain ⟨l, hleads, rfl⟩ := Layout.exists_layout (header_of_ofSheet hreader)
  exact ⟨l, hleads, hcells, hread⟩

end Draft

namespace Model

variable {rules : RuleSet} {version : Version} {book : Workbook} {draft : Draft}

section Places

variable {l : Layout} {name : String}

/-- The place of a message is the row that opens it. -/
theorem locates_message (hleads : l.Leads)
    (hread : MessagesSheet.read rules (.ofCells name l.rows) = .ok draft.messages)
    {block : MessageBlock} (hblock : block ∈ draft.messages) (sheet : Option String) :
    l.Locates rules { sheet := sheet, row := some block.row, message := some block.name } := by
  obtain ⟨above, row, hstands, hname⟩ := MessagesSheet.exists_message_row hleads hread hblock
  exact ⟨_, above, row, rfl, hstands, by rw [hname]⟩

/-- The place of a field is its row, below the row of its message. -/
theorem locates_field (hleads : l.Leads)
    (hread : MessagesSheet.read rules (.ofCells name l.rows) = .ok draft.messages)
    {block : MessageBlock} (hblock : block ∈ draft.messages) {row : FieldRow}
    (hrow : row ∈ block.rows) (sheet : Option String) :
    l.Locates rules { sheet := sheet, row := some row.row, message := some block.name
                      field := some row.name } := by
  obtain ⟨above, cells, head, hstands, hfield, hnearest, hmessage⟩ :=
    MessagesSheet.exists_field_row hleads hread hblock hrow
  exact ⟨_, above, cells, rfl, hstands, hfield, head, hnearest, by rw [hmessage]⟩

/-- A type that is refused stands below another one of its name. -/
theorem repeatsType_of_repeats (hleads : l.Leads)
    (hread : (TypesSheet.read rules (.ofCells name l.rows)).outcome = .ok draft.types)
    {before after : List TypeBlock} {type : TypeBlock}
    (htypes : draft.types = before ++ type :: after)
    (hname : type.name ∈ before.map TypeBlock.name) (sheet : Option String) :
    l.RepeatsType rules { sheet := sheet, row := some type.row } := by
  rintro _ ⟨⟩
  obtain ⟨earlier, hearlier, hsame⟩ := List.mem_map.mp hname
  obtain ⟨above, row, hstands, hrow, other, hother, hotherName⟩ :=
    TypesSheet.exists_repeated_row hleads hread htypes hearlier
  exact ⟨above, row, hstands, other, hother, by rw [hotherName, hrow, hsame]⟩

end Places

/-- Linking refuses a workbook that was read with a fault in the Messages sheet or in the Types
sheet, and the location of the fault is true of the row it names. -/
theorem ofDraft_refused_at {fault : Fault} (hrules : rules ∈ RuleSet.registered)
    (hdraft : (Draft.ofWorkbook rules version book).outcome = .ok draft)
    (h : ofDraft rules version draft = .error fault) :
    fault = .tooManyDigitsToWrite ∨ ∃ cause location, fault = .integrity cause location ∧
      ((location.sheet = some "Messages" ∧ ∃ l : Layout, l.Leads ∧
          book.sheets.lookup "Messages" = some l.rows ∧ l.Locates rules location) ∨
        (location.sheet = some "Types" ∧ ∃ l : Layout, l.Leads ∧
          book.sheets.lookup "Types" = some l.rows ∧ l.RepeatsType rules location)) := by
  obtain ⟨htypesSheet, hmessagesSheet, -⟩ := RuleSet.sheets_of_registered hrules
  have hwell := wellFormed_of_ofWorkbook hdraft
  obtain ⟨m, hmleads, hmessages, hreadMessages⟩ := exists_messages_layout hdraft hmessagesSheet
  obtain ⟨t, htleads, htypes, hreadTypes⟩ := exists_types_layout hdraft htypesSheet
  have hplace : ∃ cause location, fault = .ofIntegrity cause location ∧
      (location.sheet = some "Messages" ∧ m.Locates rules location ∨
        location.sheet = some "Types" ∧ t.RepeatsType rules location) := by
    cases ofDraft_refused hwell.types (RuleSet.implicitTypes_of_registered hrules) h with
    | type repeats =>
      obtain ⟨before, type, after, hblocks, hname, rfl⟩ := repeats
      rw [List.nil_append] at hname
      exact ⟨_, _, rfl, .inr ⟨htypesSheet,
        repeatsType_of_repeats htleads hreadTypes hblocks hname _⟩⟩
    | numbering => exact ⟨_, _, rfl, .inr ⟨htypesSheet, nofun⟩⟩
    | message hblock cause =>
      exact ⟨cause, _, rfl, .inl ⟨hmessagesSheet, locates_message hmleads hreadMessages hblock _⟩⟩
    | field hblock hrow cause =>
      exact ⟨cause, _, rfl, .inl ⟨hmessagesSheet,
        locates_field hmleads hreadMessages hblock hrow _⟩⟩
    | extent hrow unsized => exact absurd (hwell.isArraySize hrow) unsized
  obtain ⟨cause, location, rfl, hlocation⟩ := hplace
  rcases Fault.ofIntegrity_cases cause location with hlong | hwritten
  · exact .inl hlong
  · refine .inr ⟨cause, location, hwritten, ?_⟩
    exact hlocation.imp (fun ⟨hsheet, hrow⟩ => ⟨hsheet, m, hmleads, hmessages, hrow⟩)
      fun ⟨hsheet, hrow⟩ => ⟨hsheet, t, htleads, htypes, hrow⟩

/-- A workbook with a subfield of an unknown type, below a blank row, a separator and a message
without faults. -/
def misspelledBook : Workbook where
  sheets :=
    [("Types",
      [["Type Name", "Base Type", "Value Name", "Value", "Comment"],
       ["mesg_num", "uint16"], ["", "", "event", "21"], ["", "", "length", "101"],
       ["event", "enum"], ["", "", "timer", "0"]]),
     ("Messages",
      [[""],
       ["Message Name", "Field Def #", "Field Name", "Field Type", "Array", "Components", "Scale",
        "Offset", "Units", "Bits", "Accumulate", "Ref Field Name", "Ref Field Value", "Comment"],
       ["length"],
       ["", "5", "total_strokes", "uint16"],
       [],
       ["event"],
       ["", "0", "event", "event"],
       ["", "3", "data", "uint32"],
       ["", "", "", "TIMER"],
       ["", "", "timer_trigger", "uint17", "", "", "", "", "", "", "", "event", "timer"]])]

/-- The row of the subfield is named, with the message above it. -/
theorem misspelledBook_refused_at : ∃ draft location,
    location = { sheet := some "Messages", row := some 9, message := some "event"
                 field := some "timer_trigger" } ∧
      RuleSet.sdk20 ∈ RuleSet.registered ∧
      (Draft.ofWorkbook .sdk20 ⟨21, 0⟩ misspelledBook).outcome = .ok draft ∧
      ofDraft .sdk20 ⟨21, 0⟩ draft = .error (.integrity (.fieldTypeUnknown "uint17") location) ∧
      ∃ l : Layout, l.Leads ∧ misspelledBook.sheets.lookup "Messages" = some l.rows ∧
        l.Locates .sdk20 location := by
  have hread : ∃ draft, (Draft.ofWorkbook .sdk20 ⟨21, 0⟩ misspelledBook).outcome = .ok draft ∧
      ofDraft .sdk20 ⟨21, 0⟩ draft = .error (.integrity (.fieldTypeUnknown "uint17")
        { sheet := some "Messages", row := some 9, message := some "event"
          field := some "timer_trigger" }) := ⟨_, rfl, rfl⟩
  obtain ⟨draft, hdraft, hrefused⟩ := hread
  have hrules : RuleSet.sdk20 ∈ RuleSet.registered := by simp [RuleSet.registered]
  refine ⟨draft, _, rfl, hrules, hdraft, hrefused, ?_⟩
  rcases ofDraft_refused_at hrules hdraft hrefused with hlong | ⟨_, _, ⟨⟩, hplace⟩
  · cases hlong
  · rcases hplace with ⟨-, hplace⟩ | ⟨hsheet, -⟩
    · exact hplace
    · exact absurd hsheet (by decide)

end Model

end FitProfile
