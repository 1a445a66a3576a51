import FitProfile.Proofs.Reading.Removal
/-!
# FitProfile.Proofs.Reading.Places -- from a draft back to the rows of its sheets

What is read from a sheet keeps the number of the row it stands in, so that a fault can name
it. The lemmas here lead from such a number back to the cells. `Layout.StandsAt` says which row
bears a number. A message of a draft then stands in a row with its name, each of its field rows
in a row with the name of the field below that one and above the next message
(`MessagesSheet.exists_message_row`, `exists_field_row`), and the types stand one below the other
(`TypesSheet.exists_repeated_row`).
-/

namespace FitProfile

open FitProfile.Draft FitProfile.Outcome

/-! ## Blocks among the rows they are cut from -/

section Cutting

variable {α : Type} {isHead : α → Bool} {rows : List α}

/-- The rows above a block are those in front of the first one and those of the blocks before
it. -/
theorem eq_append_of_cutBlocks {before after : List (α × List α)} {block : α × List α}
    (h : (cutBlocks isHead rows).2 = before ++ block :: after) :
    rows = (cutBlocks isHead rows).1 ++ before.flatMap blockRows ++
      block.1 :: (block.2 ++ after.flatMap blockRows) := by
  conv_lhs => rw [← cutBlocks_append isHead rows, h]
  simp [blockRows]

/-- Below the first row of a block there is no head. -/
theorem not_isHead_of_mem_block {block : α × List α} (h : block ∈ (cutBlocks isHead rows).2)
    {row : α} (hrow : row ∈ block.2) : isHead row = false := by
  induction rows with
  | nil => cases h
  | cons first rest ih =>
    by_cases hfirst : isHead first = true
    · simp only [cutBlocks, hfirst, if_true] at h
      rcases List.mem_cons.mp h with rfl | h
      · exact not_isHead_of_mem_lead hrow
      · exact ih h
    · simp only [cutBlocks, hfirst, Bool.false_eq_true, if_false] at h
      exact ih h

end Cutting

/-! ## Rows and their numbers -/

namespace Layout

variable {l : Layout} {rules : RuleSet} {name : String}

/-- A row below the header, the rows between both, and its number in the sheet: that of the rows
above it. -/
structure StandsAt (l : Layout) (number : Int) (above : List (List String)) (row : List String) :
    Prop where
  rows : ∃ after, l.rows = l.above ++ l.header :: above ++ row :: after
  number : number = (l.above ++ l.header :: above).length

theorem map_cells_numbered (n : Nat) (below : List (List String)) :
    (numbered n below).map Row.cells = below := by
  induction below generalizing n with
  | nil => rfl
  | cons row rest ih => rw [numbered, List.map_cons, ih]

/-- A numbered row stands between the rows it is numbered with. -/
theorem index_of_numbered_eq_append {n : Nat} {below : List (List String)} {above after : List Row}
    {row : Row} (h : numbered n below = above ++ row :: after) :
    below = above.map Row.cells ++ row.cells :: after.map Row.cells ∧
      row.index = n + above.length := by
  constructor
  · rw [← map_cells_numbered n below, h, List.map_append, List.map_cons]
  · induction above generalizing n below with
    | nil =>
      cases below with
      | nil => cases h
      | cons first rest =>
        cases h
        rfl
    | cons first above ih =>
      cases below with
      | nil => cases h
      | cons row' rest =>
        rw [numbered, List.cons_append, List.cons.injEq] at h
        rw [ih h.2, List.length_cons]
        omega

/-- The rows below the header stand where they are numbered. -/
theorem standsAt_of_numbered {above after : List Row} {row : Row}
    (h : numbered (l.above.length + 1) l.below = above ++ row :: after) :
    l.StandsAt row.index (above.map Row.cells) row.cells := by
  obtain ⟨hbelow, hindex⟩ := index_of_numbered_eq_append h
  refine ⟨⟨after.map Row.cells, ?_⟩, ?_⟩
  · rw [rows, hbelow, List.append_assoc, List.cons_append]
  · rw [hindex]
    simp only [List.length_append, List.length_cons, List.length_map]
    omega

/-- A sheet with a header row has a layout around it. -/
theorem exists_layout {cells : List (List String)} {header : Row}
    (h : (Sheet.ofCells name cells).header = .ok header) : ∃ l : Layout, l.Leads ∧ cells = l.rows := by
  unfold Sheet.header at h
  split at h
  next row hfind =>
    obtain ⟨hrow, above, after, hrows, habove⟩ := List.find?_eq_some_iff_append.mp hfind
    have hnumbered := mapIdx_eq_numbered cells 0
    simp only [Nat.zero_add] at hnumbered
    rw [Sheet.ofCells, hnumbered] at hrows
    refine ⟨⟨above.map Row.cells, row.cells, after.map Row.cells⟩, ⟨?_, ?_⟩,
      (index_of_numbered_eq_append hrows).1⟩
    · intro _ hmem
      obtain ⟨blank, hblank, rfl⟩ := List.mem_map.mp hmem
      simpa [Row.isBlank] using habove blank hblank
    · simpa [Row.isBlank] using hrow
  next => cases h

end Layout

/-- A sheet of a workbook is made of the rows that stand under its name. -/
theorem Workbook.sheet_eq_ok {book : Workbook} {name : String} {sheet : Sheet}
    (h : book.sheet (some name) = .ok sheet) :
    ∃ cells, book.sheets.lookup name = some cells ∧ sheet = .ofCells name cells := by
  simp only [Workbook.sheet, Workbook.sheet?, Option.bind_some] at h
  split at h
  next found hfound =>
    cases h
    obtain ⟨cells, hcells, rfl⟩ := Option.map_eq_some_iff.mp hfound
    exact ⟨cells, hcells, rfl⟩
  next => cases h

/-! ## Rows below a header -/

namespace Sheet

/-- The rows below a header, with the blank ones among them. -/
def below (sheet : Sheet) (header : Row) : List Row :=
  sheet.rows.filter fun row => decide (header.index < row.index)

theorem rowsBelow_eq_filter (sheet : Sheet) (header : Row) :
    sheet.rowsBelow header = (sheet.below header).filter fun row => !row.isBlank := by
  rw [rowsBelow, below, List.filter_filter]
  exact List.filter_congr fun row _ => Bool.and_comm ..

/-- Among the rows that are asked for, none is lost with the blank ones. -/
theorem filter_rowsBelow {p : Row → Bool} (h : ∀ row, row.isBlank = true → p row = false)
    (sheet : Sheet) (header : Row) :
    (sheet.rowsBelow header).filter p = (sheet.below header).filter p := by
  rw [rowsBelow_eq_filter, filter_filter_of_imp]
  intro row hrow
  rw [Bool.not_eq_true']
  by_contra hblank
  rw [h row (Bool.not_eq_false _ ▸ hblank)] at hrow
  cases hrow

/-- The rows of a sheet are numbered from top to bottom. -/
theorem below_ofCells_ascending (name : String) (cells : List (List String)) (header : Row) :
    ((ofCells name cells).below header).Pairwise fun a b => a.index < b.index := by
  refine List.Pairwise.filter _ (List.pairwise_iff_getElem.mpr ?_)
  intro i j hi hj hij
  simpa [ofCells] using hij

end Sheet

namespace Draft

theorem get_of_isBlank {r : SheetReader} {row : Row} (h : row.isBlank = true) (key : String) :
    r.get row key = "" := by
  unfold SheetReader.get Columns.get
  split
  next i _ =>
    rw [Row.cell, List.getD_eq_getElem?_getD]
    cases hcell : row.cells[i]? with
    | none => rfl
    | some cell => simpa using List.all_eq_true.mp h cell (List.mem_of_getElem? hcell)
  next => rfl

theorem TypesSheet.readRows_rowsBelow (r : SheetReader) (sheet : Sheet) (header : Row) :
    readRows r (sheet.rowsBelow header) = readRows r (sheet.below header) := by
  rw [← readRows_filter, ← readRows_filter (sheet.below header), Sheet.filter_rowsBelow]
  intro row hblank
  simp [isSignificant, isTypeRow, isValueRow, get_of_isBlank hblank]

theorem MessagesSheet.readRows_rowsBelow (r : SheetReader) (sheet : Sheet) (header : Row) :
    readRows r (sheet.rowsBelow header) = readRows r (sheet.below header) := by
  rw [← readRows_filter, ← readRows_filter (sheet.below header), Sheet.filter_rowsBelow]
  intro row hblank
  simp [isSignificant, isMessageRow, isFieldRow, get_of_isBlank hblank]

/-- A sheet that can be opened has a header row. -/
theorem header_of_ofSheet {sheet : Sheet} {labels : List (String × String)} {required : List String}
    {hexValues : Bool} {r : SheetReader}
    (h : SheetReader.ofSheet sheet labels required hexValues = .ok r) :
    sheet.header = .ok r.header := by
  obtain ⟨header, hheader, h⟩ := bind_eq_ok.mp h
  obtain ⟨columns, -, hpure⟩ := bind_eq_ok.mp h
  cases hpure
  exact hheader

/-! ## The Messages sheet -/

namespace MessagesSheet

open Layout SheetReader

variable {r : SheetReader} {message : String}

/-- A field that stands in a row: with its number and its name. -/
structure StandsIn (r : SheetReader) (row : Row) (field : FieldRow) : Prop where
  place : field.row = row.index
  name : field.name = r.get row MessagesColumn.fieldName.key

theorem standsIn_of_readField {row : Row} {number : Option Int} {spec : FieldSpec}
    (h : readField r message row = .ok (number, spec)) (n : Int) : StandsIn r row ⟨spec, n⟩ :=
  ⟨(statesField_of_readField h).place, (statesField_of_readField h).name⟩

/-- What holds of each field in one of the rows, and of those of the block above them, holds of
all fields that are read. -/
theorem Reads.forall_field {Q : FieldRow → Prop} {current : Option FieldBlock} {rows : List Row}
    {blocks : List FieldBlock} (h : Reads r message current rows blocks)
    (hcurrent : ∀ block ∈ current, ∀ field ∈ block.main :: block.subfields, Q field)
    (hrows : ∀ row ∈ rows, ∀ field, StandsIn r row field → Q field) :
    ∀ block ∈ blocks, ∀ field ∈ block.main :: block.subfields, Q field := by
  induction h with
  | done current => simpa using hcurrent
  | @opens row n spec rest blocks hfield _ ih =>
    obtain ⟨hrow, hrest⟩ := List.forall_mem_cons.mp hrows
    refine ih ?_ hrest
    rintro _ ⟨⟩ field hmem
    obtain rfl := List.mem_singleton.mp hmem
    exact hrow _ (standsIn_of_readField hfield n)
  | @joins block row number spec rest blocks hfield _ _ _ ih =>
    obtain ⟨hrow, hrest⟩ := List.forall_mem_cons.mp hrows
    refine ih ?_ hrest
    rintro _ ⟨⟩ field hmem
    rw [withSubfield, ← List.cons_append] at hmem
    rcases List.mem_append.mp hmem with hmem | hmem
    · exact hcurrent block rfl field hmem
    · obtain rfl := List.mem_singleton.mp hmem
      exact hrow _ (standsIn_of_readField hfield block.main.number)
  | @next block row n spec rest others hfield _ _ ih =>
    obtain ⟨hrow, hrest⟩ := List.forall_mem_cons.mp hrows
    refine List.forall_mem_cons.mpr ⟨hcurrent block rfl, ih ?_ hrest⟩
    rintro _ ⟨⟩ field hmem
    obtain rfl := List.mem_singleton.mp hmem
    exact hrow _ (standsIn_of_readField hfield n)

/-- The field rows of a message that is read stand in its rows. -/
theorem exists_row_of_mem_rows {head : Row} {rows : List Row} {result : MessageBlock}
    (h : readMessage r (head, rows) = .ok result) {field : FieldRow} (hmem : field ∈ result.rows) :
    ∃ row ∈ rows, StandsIn r row field := by
  obtain ⟨-, -, -, hreads⟩ := readMessage_eq_ok.mp h
  have hall : ∀ block ∈ result.fields, ∀ field ∈ block.main :: block.subfields,
      ∃ row ∈ rows, StandsIn r row field :=
    hreads.forall_field (by simp) fun row hrow _ hstands =>
      ⟨row, (List.mem_filter.mp hrow).1, hstands⟩
  obtain ⟨block, hblock, hfield⟩ := List.mem_flatMap.mp hmem
  exact hall block hblock field hfield

/-- A message is read from a row that opens it and the rows below, none of which opens another
one. -/
theorem exists_block_of_mem {rows : List Row} {messages : List MessageBlock} {result : MessageBlock}
    (h : readRows r rows = .ok messages) (hmem : result ∈ messages) :
    ∃ above head inner below, rows = above ++ head :: (inner ++ below) ∧
      isMessageRow r head = true ∧ (∀ row ∈ inner, isMessageRow r row = false) ∧
      readMessage r (head, inner) = .ok result := by
  obtain ⟨⟨head, inner⟩, hblock, hread⟩ :=
    forall₂_exists_of_mem_right (readRows_eq_ok.mp h).2 hmem
  obtain ⟨before, after, hcut⟩ := List.mem_iff_append.mp hblock
  exact ⟨_, head, inner, _, eq_append_of_cutBlocks hcut, isHead_of_mem_cutBlocks hblock,
    fun row => not_isHead_of_mem_block hblock, hread⟩

variable {rules : RuleSet} {name : String} {l : Layout}

/-- What a Messages sheet is read to is what the rows below its header are read to. Blank rows
make no difference. -/
theorem readRows_of_read (hleads : l.Leads) {messages : List MessageBlock}
    (h : read rules (.ofCells name l.rows) = .ok messages) :
    readRows (l.reader rules.messagesColumns name rules.hexValues)
      (numbered (l.above.length + 1) l.below) = .ok messages := by
  have hmissing := missing?_of_read hleads h
  rw [read_ofCells hleads, hmissing] at h
  dsimp only at h
  rwa [← readRows_filter, isSignificant_reader, rowsBelow_ofCells, filter_hasEntry_not_blank,
    ← isSignificant_reader, readRows_filter] at h

end MessagesSheet

end Draft

namespace Layout

/-- The nearest row that opens a message among those above a row. -/
def NearestMessage (l : Layout) (rules : RuleSet) (above : List (List String))
    (head : List String) : Prop :=
  ∃ outer between, above = outer ++ head :: between ∧ l.cell rules head .messageName ≠ "" ∧
    ∀ row ∈ between, l.cell rules row .messageName = ""

end Layout

namespace Draft.MessagesSheet

open Layout SheetReader

variable {rules : RuleSet} {name : String} {l : Layout}

/-- A message that is read stands in a row with its name. -/
theorem exists_message_row (hleads : l.Leads) {messages : List MessageBlock}
    (h : read rules (.ofCells name l.rows) = .ok messages) {message : MessageBlock}
    (hmem : message ∈ messages) : ∃ above row, l.StandsAt message.row above row ∧
      l.cell rules row .messageName = message.name := by
  obtain ⟨above, head, inner, below, hrows, -, -, hread⟩ :=
    exists_block_of_mem (readRows_of_read hleads h) hmem
  obtain ⟨hname, -, hplace, -⟩ := readMessage_eq_ok.mp hread
  refine ⟨above.map Row.cells, head.cells, ?_, ?_⟩
  · rw [hplace]
    exact standsAt_of_numbered hrows
  · rw [hname, get_reader, cell]

/-- A field row that is read stands in a row with its name, below the row of its message. -/
theorem exists_field_row (hleads : l.Leads) {messages : List MessageBlock}
    (h : read rules (.ofCells name l.rows) = .ok messages) {message : MessageBlock}
    (hmem : message ∈ messages) {field : FieldRow} (hfield : field ∈ message.rows) :
    ∃ above row head, l.StandsAt field.row above row ∧
      l.cell rules row .fieldName = field.name ∧ l.NearestMessage rules above head ∧
      l.cell rules head .messageName = message.name := by
  obtain ⟨above, head, inner, below, hrows, hhead, hinner, hread⟩ :=
    exists_block_of_mem (readRows_of_read hleads h) hmem
  obtain ⟨hname, -⟩ := readMessage_eq_ok.mp hread
  obtain ⟨row, hrow, hstands⟩ := exists_row_of_mem_rows hread hfield
  obtain ⟨between, rest, rfl⟩ := List.append_of_mem hrow
  have hsplit : numbered (l.above.length + 1) l.below =
      (above ++ head :: between) ++ row :: (rest ++ below) := by
    rw [hrows]
    simp
  refine ⟨(above ++ head :: between).map Row.cells, row.cells, head.cells, ?_, ?_, ?_, ?_⟩
  · rw [hstands.place]
    exact standsAt_of_numbered hsplit
  · rw [hstands.name, get_reader, cell]
  · refine ⟨above.map Row.cells, between.map Row.cells, by simp, ?_, ?_⟩
    · rw [isMessageRow, get_reader, bne_iff_ne] at hhead
      exact hhead
    · intro _ hcells
      obtain ⟨other, hother, rfl⟩ := List.mem_map.mp hcells
      have hnone := hinner other (List.mem_append_left _ hother)
      rwa [isMessageRow, get_reader, bne_eq_false_iff_eq] at hnone
  · rw [hname, get_reader, cell]

end Draft.MessagesSheet

/-! ## The Types sheet -/

namespace Draft.TypesSheet

open Layout SheetReader

variable {rules : RuleSet} {name : String} {l : Layout}

/-- A Types sheet with all required labels is read as the rows below its header are. Blank rows
make no difference. -/
theorem read_ofCells_eq_ok (hleads : l.Leads) {types : List TypeBlock} :
    (read rules (.ofCells name l.rows)).outcome = .ok types ↔
      Columns.missing? l.headerRow rules.requiredTypesColumns rules.typesColumns = none ∧
        (readRows (l.reader rules.typesColumns name rules.hexValues)
          (numbered (l.above.length + 1) l.below)).outcome = .ok types := by
  have hblank : readRows (l.reader rules.typesColumns name rules.hexValues)
      ((Sheet.ofCells name l.rows).rowsBelow l.headerRow) =
      readRows (l.reader rules.typesColumns name rules.hexValues)
        (numbered (l.above.length + 1) l.below) := by
    rw [← readRows_filter, isSignificant_reader, rowsBelow_ofCells, filter_hasEntry_not_blank,
      ← isSignificant_reader, readRows_filter]
  rw [← hblank, read_eq_ok]
  unfold reader
  rw [hleads.ofSheet_ofCells]
  cases Columns.missing? l.headerRow rules.requiredTypesColumns rules.typesColumns with
  | some entry => simp
  | none => simp [Layout.reader]

/-- The types that are read before a type stand above it, each in a row with its name. -/
theorem exists_repeated_row (hleads : l.Leads) {types before after : List TypeBlock}
    {type : TypeBlock} (h : (read rules (.ofCells name l.rows)).outcome = .ok types)
    (htypes : types = before ++ type :: after) {earlier : TypeBlock} (hearlier : earlier ∈ before) :
    ∃ above row, l.StandsAt type.row above row ∧
      l.under rules.typesColumns row TypesColumn.typeName.key = type.name ∧
      ∃ other ∈ above, l.under rules.typesColumns other TypesColumn.typeName.key = earlier.name := by
  have hall := (readRows_eq_ok.mp ((read_ofCells_eq_ok hleads).mp h).2).2
  rw [htypes] at hall
  obtain ⟨cutBefore, ⟨head, rows⟩, cutAfter, hcut, hbefore, hread, -⟩ := forall₂_split hall.flip
  obtain ⟨-, values, -, rfl⟩ := readType_eq_ok.mp hread
  obtain ⟨⟨other, others⟩, hother, hotherRead⟩ := forall₂_exists_of_mem hbefore hearlier
  obtain ⟨-, otherValues, -, rfl⟩ := readType_eq_ok.mp hotherRead
  have hstands := standsAt_of_numbered (eq_append_of_cutBlocks hcut)
  refine ⟨_, head.cells, hstands, ?_, other.cells, ?_, ?_⟩
  · rw [get_reader]
  · refine List.mem_map_of_mem (List.mem_append_right _ ?_)
    exact List.mem_flatMap.mpr ⟨_, hother, List.mem_cons_self⟩
  · rw [get_reader]

end Draft.TypesSheet

end FitProfile
