import FitProfile.Proofs.Drafting
import FitProfile.Proofs.Reading.Layout
import FitProfile.Proofs.Wording
/-!
# FitProfile.Proofs.Reading.Refusal -- how reading a workbook can fail

A workbook that cannot be read is refused with a fault of the input or of its integrity, which
names the place. There are five ways past that, all of them numbers with more digits than are
read or written: in a version text, in an array specification, in a value, in the requested
release and in a row number. `Overlong` lists them, and `ofWorkbook_ends` proves that there is
no other.
-/

namespace FitProfile

open FitProfile.Draft FitProfile.Number FitProfile.Outcome

/-- A fault of the input or of its integrity. -/
inductive Fault.IsLocated : Fault → Prop where
  | input (cause : InputCause) (location : Location) : IsLocated (.input cause location)
  | integrity (cause : IntegrityCause) (location : Location) : IsLocated (.integrity cause location)

/-! ## Computations that fail in two ways -/

/-- A computation that fails with located faults, or else with faults of the class `P`. -/
def Confined {α : Type} (P : Fault → Prop) (x : Except Fault α) : Prop :=
  ∀ fault, x = .error fault → fault.IsLocated ∨ P fault

namespace Confined

variable {α β : Type} {P Q : Fault → Prop} {x : Except Fault α} {f : α → Except Fault β}

theorem ok (a : α) : Confined P (.ok a) := by
  rintro fault ⟨⟩

theorem input (cause : InputCause) (location : Location) :
    Confined P (.error (.input cause location) : Except Fault α) := by
  rintro _ ⟨⟩
  exact .inl (.input cause location)

theorem escape {fault : Fault} (h : P fault) : Confined P (.error fault : Except Fault α) := by
  rintro _ ⟨⟩
  exact .inr h

/-- A located fault remains, unless its wording cannot be written. -/
theorem worded {numbers : List Int} {fault : Fault} (hlocated : fault.IsLocated)
    (h : ∀ n ∈ numbers, isWritable n = false → P .tooManyDigitsToWrite) :
    Confined P (.error (.worded numbers fault) : Except Fault α) := by
  rintro _ ⟨⟩
  rcases Fault.worded_cases numbers fault with hworded | ⟨hlong, n, hn, hwritable⟩
  · rw [hworded]
    exact .inl hlocated
  · rw [hlong]
    exact .inr (h n hn hwritable)

theorem integrity (cause : IntegrityCause) (location : Location)
    (h : ∀ n ∈ cause.numbers ++ location.numbers, isWritable n = false →
      P .tooManyDigitsToWrite) :
    Confined P (.error (.ofIntegrity cause location) : Except Fault α) :=
  .worded (.integrity cause location) h

theorem bind (hx : Confined P x) (hf : ∀ a, x = .ok a → Confined P (f a)) :
    Confined P (x >>= f) := by
  intro fault h
  rcases bind_eq_error.mp h with hfirst | ⟨a, ha, hnext⟩
  · exact hx fault hfirst
  · exact hf a ha fault hnext

theorem map {g : α → β} (hx : Confined P x) : Confined P (x.map g) :=
  fun fault h => hx fault (map_eq_error.mp h)

end Confined

namespace Reported

/-- The outcome of a chain of steps is confined when the outcome of each step is. -/
theorem confined_bind {α β : Type} {P : Fault → Prop} {x : Reported α} {f : α → Reported β}
    (hx : Confined P x.outcome) (hf : ∀ a, x.outcome = .ok a → Confined P (f a).outcome) :
    Confined P (x >>= f).outcome := by
  obtain ⟨notes, outcome⟩ := x
  cases outcome with
  | error fault =>
    rw [bind_error]
    intro other hother
    exact hx other (congrArg Except.error (Except.error.inj hother))
  | ok a =>
    rw [bind_ok]
    exact hf a rfl

end Reported

/-! ## Cells -/

/-- A cell of a row, unless it is empty. -/
theorem Row.mem_cells_of_cell_ne {row : Row} {i : Nat} (h : row.cell i ≠ "") :
    row.cell i ∈ row.cells := by
  obtain ⟨hi, hcell⟩ := getD_mem_of_ne h
  rw [Row.cell, hcell]
  exact List.getElem_mem hi

namespace SheetReader

variable {r : SheetReader} {row : Row} {P : Fault → Prop}

theorem mem_cells_of_get_ne {key : String} (h : r.get row key ≠ "") :
    r.get row key ∈ row.cells := by
  unfold get Columns.get at h ⊢
  split
  next i hi =>
    rw [hi] at h
    exact Row.mem_cells_of_cell_ne h
  next hi =>
    refine absurd ?_ h
    split
    next i hi' => exact absurd hi' (hi i)
    next => rfl

theorem confined_readInteger (key text : String) : Confined P (r.readInteger row key text) := by
  unfold readInteger
  split
  · exact .ok _
  · exact .input _ _

theorem confined_readNumber (key text : String) : Confined P (r.readNumber row key text) := by
  unfold readNumber
  split
  · exact .ok _
  · split
    · exact .ok _
    · exact .input _ _

theorem confined_readFlag (key text : String) : Confined P (r.readFlag row key text) := by
  unfold readFlag
  split
  · exact .ok _
  · split
    · exact .ok _
    · exact .input _ _

theorem readInteger_eq_ok {key text : String} {n : Int} :
    r.readInteger row key text = .ok n ↔ integerIn? r.hexValues text = some n := by
  unfold readInteger
  split
  next m h => rw [h, Except.ok.injEq, Option.some.injEq]
  next h => simp [h]

end SheetReader

/-! ## Sheets -/

theorem Columns.confined_findPlaces {P : Fault → Prop} (sheet : String) (header : Row)
    (required : List String) (labels : List (String × String)) :
    Confined P (findPlaces sheet header required labels) := by
  induction labels with
  | nil => exact .ok _
  | cons entry rest ih =>
    unfold findPlaces
    split
    · split
      · exact .input _ _
      · exact ih.bind fun _ _ => .ok _
    · exact ih.bind fun _ _ => .ok _

theorem Sheet.confined_header {P : Fault → Prop} (sheet : Sheet) : Confined P sheet.header := by
  unfold Sheet.header
  split
  · exact .ok _
  · exact .input _ _

theorem SheetReader.confined_ofSheet {P : Fault → Prop} (sheet : Sheet)
    (labels : List (String × String)) (required : List String) (hexValues : Bool) :
    Confined P (ofSheet sheet labels required hexValues) :=
  sheet.confined_header.bind fun header _ =>
    Confined.bind ((Columns.confined_findPlaces _ header required labels).bind fun _ _ => .ok _)
      fun _ _ => .ok _

/-- A reader that is opened follows the rule on hexadecimal integers. -/
theorem SheetReader.hexValues_of_ofSheet {sheet : Sheet} {labels : List (String × String)}
    {required : List String} {hexValues : Bool} {r : SheetReader}
    (h : ofSheet sheet labels required hexValues = .ok r) : r.hexValues = hexValues := by
  obtain ⟨header, -, h⟩ := bind_eq_ok.mp h
  obtain ⟨columns, -, hpure⟩ := bind_eq_ok.mp h
  cases hpure
  rfl

theorem Sheet.mem_of_mem_rowsBelow {sheet : Sheet} {header row : Row}
    (h : row ∈ sheet.rowsBelow header) : row ∈ sheet.rows := List.mem_of_mem_filter h

theorem Workbook.confined_sheet {P : Fault → Prop} (book : Workbook) (name : Option String) :
    Confined P (book.sheet name) := by
  unfold Workbook.sheet
  split
  · exact .ok _
  · exact .input _ _

namespace Draft

variable {P : Fault → Prop} {r : SheetReader}

/-! ## The Types sheet -/

namespace TypesSheet

/-- A value whose number and whose place can be written, unless that is among the escapes. -/
def Excused (P : Fault → Prop) (v : ValueRow) : Prop :=
  ∀ n ∈ [v.value, v.row + 1], isWritable n = false → P .tooManyDigitsToWrite

/-- Rows that state excused values only. -/
def RowsExcused (P : Fault → Prop) (hexValues : Bool) (rows : List Row) : Prop :=
  ∀ row ∈ rows, (isWritable (row.index + 1) = false → P .tooManyDigitsToWrite) ∧
    ∀ cell ∈ row.cells, ∀ n, SheetReader.integerIn? hexValues cell = some n →
      isWritable n = false → P .tooManyDigitsToWrite

theorem confined_readValue (row : Row) : Confined P (readValue r row) := by
  simp only [readValue]
  split
  · exact .input _ _
  · exact (r.confined_readInteger _ _).bind fun _ _ => .ok _

theorem excused_of_readValue {row : Row} (hrow : RowsExcused P r.hexValues [row]) {v : ValueRow}
    (h : readValue r row = .ok v) : Excused P v := by
  obtain ⟨hplace, hcells⟩ := hrow row (by simp)
  simp only [readValue] at h
  split at h
  next => exact absurd h throw_ne_ok
  next hgiven =>
    obtain ⟨n, hn, hpure⟩ := bind_eq_ok.mp h
    cases hpure
    -- the number stands in a cell of the row, as the cell is not empty
    have hcell : r.get row TypesColumn.value.key ∈ row.cells := by
      refine SheetReader.mem_cells_of_get_ne ?_
      intro hempty
      rw [hempty] at hgiven
      exact hgiven rfl
    intro m hm hlong
    simp only [List.mem_cons, List.not_mem_nil, or_false] at hm
    rcases hm with rfl | rfl
    · exact hcells _ hcell _ (SheetReader.readInteger_eq_ok.mp hn) hlong
    · exact hplace hlong

theorem confined_compareWith (type : String) {value : ValueRow} {known : List ValueRow}
    (hvalue : Excused P value) (hknown : ∀ v ∈ known, Excused P v) :
    Confined P (compareWith r type value known).outcome := by
  induction known with
  | nil => exact .ok _
  | cons earlier rest ih =>
    have hrest := ih fun v hv => hknown v (by simp [hv])
    unfold compareWith
    split
    next => exact .integrity _ _ hvalue
    next =>
      split
      next =>
        dsimp only
        split
        next => exact Reported.confined_bind (.ok _) fun _ _ => hrest
        next hlong =>
          refine .escape ?_
          rw [DuplicateName.isWritable, Bool.and_eq_true, not_and_or] at hlong
          rcases hlong with hlong | hlong
          · exact hknown earlier (by simp) _ (by simp) (Bool.eq_false_iff.mpr hlong)
          · exact hvalue _ (by simp) (Bool.eq_false_iff.mpr hlong)
      next => exact hrest

theorem confined_readValues (type : String) {known : List ValueRow} {rows : List Row}
    (hknown : ∀ v ∈ known, Excused P v) (hrows : RowsExcused P r.hexValues rows) :
    Confined P (readValues r type known rows).outcome := by
  induction rows generalizing known with
  | nil => exact .ok _
  | cons row rest ih =>
    have hrest : RowsExcused P r.hexValues rest := fun other hother =>
      hrows other (by simp [hother])
    unfold readValues
    split
    next =>
      refine Reported.confined_bind (confined_readValue row) fun v hv => ?_
      have hexcused : Excused P v := excused_of_readValue
        (fun other hother => hrows other (by simp [List.mem_singleton.mp hother])) hv
      refine Reported.confined_bind (confined_compareWith type hexcused hknown) fun _ _ => ?_
      -- the value that was read joins those that the next ones are compared with
      refine ih ?_ hrest
      intro w hw
      rcases List.mem_append.mp hw with hw | hw
      · exact hknown w hw
      · rwa [List.mem_singleton.mp hw]
    next => exact ih hknown hrest

theorem confined_readType {block : Row × List Row} (hrows : RowsExcused P r.hexValues block.2) :
    Confined P (readType r block).outcome := by
  simp only [readType]
  split
  next =>
    refine Reported.confined_bind (.input _ _) fun _ h => ?_
    cases h
  next =>
    exact Reported.confined_bind (confined_readValues _ (by simp) hrows) fun _ _ => .ok _

theorem confined_readTypes {blocks : List (Row × List Row)}
    (hblocks : ∀ block ∈ blocks, RowsExcused P r.hexValues block.2) :
    Confined P (readTypes r blocks).outcome := by
  induction blocks with
  | nil => exact .ok _
  | cons block rest ih =>
    refine Reported.confined_bind (confined_readType (hblocks block (by simp))) fun _ _ => ?_
    refine Reported.confined_bind (ih fun other hother => hblocks other (by simp [hother]))
      fun _ _ => .ok _

theorem confined_readRows {rows : List Row} (hrows : RowsExcused P r.hexValues rows) :
    Confined P (readRows r rows).outcome := by
  unfold readRows
  split
  next lead blocks hcut =>
    split
    · exact .input _ _
    · refine confined_readTypes fun block hblock row hrow => hrows row ?_
      rw [← cutBlocks_append (isTypeRow r) rows, hcut]
      exact List.mem_append_right _
        (List.mem_flatMap.mpr ⟨block, hblock, List.mem_cons_of_mem _ hrow⟩)

theorem confined_read {rules : RuleSet} {sheet : Sheet}
    (hrows : RowsExcused P rules.hexValues sheet.rows) :
    Confined P (read rules sheet).outcome := by
  refine Reported.confined_bind (SheetReader.confined_ofSheet _ _ _ _) fun r hr => ?_
  refine confined_readRows fun row hrow => ?_
  rw [SheetReader.hexValues_of_ofSheet hr]
  exact hrows row (Sheet.mem_of_mem_rowsBelow hrow)

end TypesSheet

/-! ## The Messages sheet -/

namespace MessagesSheet

/-- An array specification with `n` digits, which are more than are read. -/
def ExtentTooLong (text : String) (n : Nat) : Prop :=
  ∃ inside, insideBrackets? text.toList = some inside ∧ inside.all Text.isDecimalDigit = true ∧
    inside.length = n ∧ digitLimit < n

/-- Cells in which too long array specifications, if any, are among the escapes. -/
def RowsExcused (P : Fault → Prop) (rows : List Row) : Prop :=
  ∀ row ∈ rows, ∀ cell ∈ row.cells, ∀ n, ExtentTooLong cell n → P (.tooManyDigitsToRead n)

theorem confined_readExtent (row : Row) {text : String}
    (h : ∀ n, ExtentTooLong text n → P (.tooManyDigitsToRead n)) :
    Confined P (readExtent r row text) := by
  simp only [readExtent]
  split
  next => exact .ok _
  next =>
    split
    next => exact .input _ _
    next => exact .ok _
    next inside _ hinside =>
      split
      next => exact .input _ _
      next hdigits =>
        split
        next hlong =>
          refine .escape (h _ ⟨inside, hinside, ?_, rfl, hlong⟩)
          rw [Bool.not_eq_true, Bool.or_eq_false_iff, Bool.not_eq_false'] at hdigits
          exact hdigits.2
        next => exact .ok _

theorem confined_spread (row : Row) (key : String) (count : Int) (text : String) :
    Confined P (spread r row key count text) := by
  unfold spread
  split
  · exact .ok _
  · exact .ok _
  · split
    · exact .ok _
    · exact .input _ _

theorem confined_readComponent (row : Row) (texts : ComponentTexts) :
    Confined P (readComponent r row texts) := by
  simp only [readComponent]
  split
  · exact .input _ _
  · refine (r.confined_readNumber _ _).bind fun _ _ => ?_
    refine (r.confined_readNumber _ _).bind fun _ _ => ?_
    refine (r.confined_readInteger _ _).bind fun _ _ => ?_
    exact (r.confined_readFlag _ _).bind fun _ _ => .ok _

theorem confined_readEach (row : Row) (texts : List ComponentTexts) :
    Confined P (readEach r row texts) := by
  induction texts with
  | nil => exact .ok _
  | cons first rest ih =>
    exact (confined_readComponent row first).bind fun _ _ => ih.bind fun _ _ => .ok _

theorem confined_readComponents (row : Row) (names : List String) :
    Confined P (readComponents r row names) := by
  refine (confined_spread _ _ _ _).bind fun _ _ => ?_
  refine (confined_spread _ _ _ _).bind fun _ _ => ?_
  refine (confined_spread _ _ _ _).bind fun _ _ => ?_
  refine (confined_spread _ _ _ _).bind fun _ _ => ?_
  refine (confined_spread _ _ _ _).bind fun _ _ => ?_
  exact confined_readEach row _

theorem confined_readScaling (row : Row) : Confined P (readScaling r row) := by
  refine (r.confined_readNumber _ _).bind fun _ _ => ?_
  refine (r.confined_readNumber _ _).bind fun _ _ => ?_
  exact (r.confined_readFlag _ _).bind fun _ _ => .ok _

theorem confined_readContents (row : Row) : Confined P (readContents r row) := by
  unfold readContents
  split
  · exact (confined_readScaling row).bind fun _ _ => .ok _
  · exact (confined_readComponents row _).bind fun _ _ => .ok _

theorem confined_readNumber (row : Row) : Confined P (readNumber r row) := by
  simp only [readNumber]
  split
  · exact .ok _
  · exact (r.confined_readInteger _ _).map

theorem confined_readField (message : String) {row : Row} (hrow : RowsExcused P [row]) :
    Confined P (readField r message row) := by
  have hextent : Confined P (readExtent r row (r.get row MessagesColumn.array.key)) := by
    by_cases hempty : r.get row MessagesColumn.array.key = ""
    · rw [hempty]
      exact .ok _
    · exact confined_readExtent row
        (hrow row (by simp) _ (SheetReader.mem_cells_of_get_ne hempty))
  by_cases hhead : PassesHead r row
  · rw [readField_of_passesHead hhead]
    refine (confined_readContents row).bind fun _ _ => ?_
    refine (confined_readNumber row).bind fun _ _ => ?_
    exact hextent.bind fun _ _ => .ok _
  · have hrefused : ∃ cause location, readField r message row = .error (.input cause location) :=
      readField_of_not_passesHead hhead
    obtain ⟨cause, location, hfault⟩ := hrefused
    rw [hfault]
    exact .input cause location

theorem confined_readFields (message : String) {current : Option FieldBlock} {rows : List Row}
    (hrows : RowsExcused P rows) : Confined P (readFields r message current rows) := by
  induction rows generalizing current with
  | nil => exact .ok _
  | cons row rest ih =>
    have hrest : RowsExcused P rest := fun other hother => hrows other (by simp [hother])
    have hrow : RowsExcused P [row] := fun other hother =>
      hrows other (by simp [List.mem_singleton.mp hother])
    unfold readFields
    refine (confined_readField message hrow).bind fun field _ => ?_
    obtain ⟨number, spec⟩ := field
    -- the cases follow the rule for subfields
    cases number with
    | none =>
      cases current with
      | none => exact .input _ _
      | some block =>
        dsimp only
        split
        · exact ih hrest
        · exact .input _ _
    | some n =>
      cases current with
      | none => exact ih hrest
      | some block =>
        dsimp only
        split
        · exact ih hrest
        · exact (ih hrest).bind fun _ _ => .ok _

theorem confined_readMessage {block : Row × List Row} (hrows : RowsExcused P block.2) :
    Confined P (readMessage r block) := by
  refine (confined_readNumber block.1).bind fun _ _ => ?_
  exact (confined_readFields _ fun row hrow => hrows row (List.mem_of_mem_filter hrow)).bind
    fun _ _ => .ok _

theorem confined_readMessages {blocks : List (Row × List Row)}
    (hblocks : ∀ block ∈ blocks, RowsExcused P block.2) :
    Confined P (readMessages r blocks) := by
  induction blocks with
  | nil => exact .ok _
  | cons block rest ih =>
    refine (confined_readMessage (hblocks block (by simp))).bind fun _ _ => ?_
    exact (ih fun other hother => hblocks other (by simp [hother])).bind fun _ _ => .ok _

theorem confined_readRows {rows : List Row} (hrows : RowsExcused P rows) :
    Confined P (readRows r rows) := by
  unfold readRows
  split
  next lead blocks hcut =>
    split
    · exact .input _ _
    · refine confined_readMessages fun block hblock row hrow => hrows row ?_
      rw [← cutBlocks_append (isMessageRow r) rows, hcut]
      exact List.mem_append_right _
        (List.mem_flatMap.mpr ⟨block, hblock, List.mem_cons_of_mem _ hrow⟩)

theorem confined_read {rules : RuleSet} {sheet : Sheet} (hrows : RowsExcused P sheet.rows) :
    Confined P (read rules sheet) :=
  (SheetReader.confined_ofSheet _ _ _ _).bind fun _ _ =>
    confined_readRows fun row hrow => hrows row (Sheet.mem_of_mem_rowsBelow hrow)

end MessagesSheet

/-! ## The whole workbook -/

/-- The faults that a number with too many digits raises when a workbook is read, and the
number at which each of them arises. -/
inductive Overlong (rules : RuleSet) (version : Version) (book : Workbook) : Fault → Prop where
  /-- A version text in the sheet for the release. -/
  | release {name : String} {sheet : Sheet} {row : Row} {cell : String} {n : Nat}
      (named : rules.versionSheet = some name) (found : book.sheet (some name) = .ok sheet)
      (mem : row ∈ sheet.rows) (cellMem : cell ∈ row.cells)
      (long : Version.read cell = .tooManyDigits n) :
      Overlong rules version book (.tooManyDigitsToRead n)
  /-- The requested release, where the workbook declares another one. -/
  | requested {declared : Version} {n : Int}
      (found : declaredVersion? rules book = .ok (some declared)) (differs : declared ≠ version)
      (mem : n ∈ [version.major, version.minor]) (long : isWritable n = false) :
      Overlong rules version book .tooManyDigitsToWrite
  /-- A value in the Types sheet. -/
  | value {sheet : Sheet} {row : Row} {cell : String} {n : Int}
      (found : book.sheet rules.typesSheet = .ok sheet) (mem : row ∈ sheet.rows)
      (cellMem : cell ∈ row.cells)
      (stated : SheetReader.integerIn? rules.hexValues cell = some n)
      (long : isWritable n = false) : Overlong rules version book .tooManyDigitsToWrite
  /-- The number of a row of the Types sheet. -/
  | place {sheet : Sheet} {row : Row} (found : book.sheet rules.typesSheet = .ok sheet)
      (mem : row ∈ sheet.rows) (long : isWritable (row.index + 1) = false) :
      Overlong rules version book .tooManyDigitsToWrite
  /-- An array specification in the Messages sheet. -/
  | extent {sheet : Sheet} {row : Row} {cell : String} {n : Nat}
      (found : book.sheet rules.messagesSheet = .ok sheet) (mem : row ∈ sheet.rows)
      (cellMem : cell ∈ row.cells) (long : MessagesSheet.ExtentTooLong cell n) :
      Overlong rules version book (.tooManyDigitsToRead n)

variable {rules : RuleSet} {version : Version} {book : Workbook}

theorem confined_firstVersion? {cells : List String}
    (h : ∀ cell ∈ cells, ∀ n, Version.read cell = .tooManyDigits n →
      P (.tooManyDigitsToRead n)) : Confined P (firstVersion? cells) := by
  induction cells with
  | nil => exact .ok _
  | cons cell rest ih =>
    unfold firstVersion?
    split
    next => exact .ok _
    next n hn => exact .escape (h cell (by simp) n hn)
    next => exact ih fun other hother => h other (by simp [hother])

theorem confined_declaredVersion? (rules : RuleSet) (version : Version) (book : Workbook) :
    Confined (Overlong rules version book) (declaredVersion? rules book) := by
  unfold declaredVersion?
  split
  next => exact .ok _
  next name hname =>
    split
    next => exact .ok _
    next =>
      refine (book.confined_sheet (some name)).bind fun sheet hsheet => ?_
      have hfirst : Confined (Overlong rules version book)
          (firstVersion? (sheet.rows.flatMap Row.cells)) := by
        refine confined_firstVersion? fun cell hcell n hn => ?_
        obtain ⟨row, hrow, hmem⟩ := List.mem_flatMap.mp hcell
        exact .release hname hsheet hrow hmem hn
      refine hfirst.bind fun found _ => ?_
      cases found with
      | none => exact .input _ _
      | some found => exact .ok _

theorem confined_versionFault {found : Version}
    (hfound : declaredVersion? rules book = .ok (some found)) (hdiffers : found ≠ version) :
    Confined (Overlong rules version book)
      (.error (versionFault rules found version) : Except Fault Unit) :=
  .worded (.input _ _) fun _ hn hlong => .requested hfound hdiffers hn hlong

theorem confined_checkRelease {declared : Option Version}
    (h : declaredVersion? rules book = .ok declared) :
    Confined (Overlong rules version book) (checkRelease rules version declared) := by
  cases declared with
  | none => exact .ok _
  | some found =>
    dsimp only [checkRelease]
    split
    next hdiffers => exact confined_versionFault h hdiffers
    next => exact .ok _

theorem confined_readSheets (rules : RuleSet) (version : Version) (book : Workbook)
    (declared : Option Version) :
    Confined (Overlong rules version book) (readSheets rules book declared).outcome := by
  refine Reported.confined_bind (book.confined_sheet _) fun typesSheet htypes => ?_
  refine Reported.confined_bind (TypesSheet.confined_read fun row hrow =>
    ⟨fun hlong => .place htypes hrow hlong,
      fun cell hcell n hn hlong => .value htypes hrow hcell hn hlong⟩) fun types _ => ?_
  refine Reported.confined_bind (book.confined_sheet _) fun messagesSheet hmessages => ?_
  refine Reported.confined_bind (MessagesSheet.confined_read fun row hrow cell hcell n hn =>
    .extent hmessages hrow hcell hn) fun messages _ => ?_
  exact .ok _

theorem confined_ofWorkbook (rules : RuleSet) (version : Version) (book : Workbook) :
    Confined (Overlong rules version book) (ofWorkbook rules version book).outcome := by
  rw [ofWorkbook_eq]
  refine Reported.confined_bind (confined_declaredVersion? rules version book) fun declared hd => ?_
  refine Reported.confined_bind (confined_checkRelease hd) fun _ _ => ?_
  exact confined_readSheets rules version book declared

/-- Whatever workbook is read, there are three ends: a draft, a fault of the input or of its
integrity, and a number with too many digits. -/
theorem ofWorkbook_ends (rules : RuleSet) (version : Version) (book : Workbook) :
    (∃ draft, (ofWorkbook rules version book).outcome = .ok draft) ∨
      ∃ fault, (ofWorkbook rules version book).outcome = .error fault ∧
        (fault.IsLocated ∨ Overlong rules version book fault) := by
  cases h : (ofWorkbook rules version book).outcome with
  | ok draft => exact .inl ⟨draft, rfl⟩
  | error fault => exact .inr ⟨fault, rfl, confined_ofWorkbook rules version book fault h⟩

/-! ## A number that escapes -/

/-- A run of digits that is longer than the limit is a too long array specification. -/
theorem MessagesSheet.readExtent_tooLong (r : SheetReader) (row : Row) {text : String}
    {digits : List Char} (hinside : insideBrackets? text.toList = some digits)
    (hdigits : digits.all Text.isDecimalDigit = true) (hlong : digitLimit < digits.length) :
    readExtent r row text = .error (.tooManyDigitsToRead digits.length) := by
  have hne : text.toList.isEmpty = false := by
    cases hchars : text.toList with
    | nil =>
      rw [hchars] at hinside
      cases hinside
    | cons _ _ => rfl
  have hnonempty : digits.isEmpty = false := by
    cases digits with
    | nil => cases hlong
    | cons _ _ => rfl
  simp only [readExtent, hne, Bool.false_eq_true, if_false, hinside]
  split
  next hnone => cases hnone
  next hsymbol =>
    cases hsymbol
    simp [digitLimit] at hlong
  next hsome =>
    cases hsome
    simp [hnonempty, hdigits, hlong]

/-- An array specification of `n` ones. -/
def onesExtent (n : Nat) : String := String.ofList ('[' :: (List.replicate n '1' ++ [']']))

theorem readExtent_onesExtent (r : SheetReader) (row : Row) {n : Nat} (h : digitLimit < n) :
    MessagesSheet.readExtent r row (onesExtent n) = .error (.tooManyDigitsToRead n) := by
  have hblank : Text.isBlank '1' = false := by decide
  have hdigit : Text.isDecimalDigit '1' = true := by decide
  have hinside : MessagesSheet.insideBrackets? (onesExtent n).toList =
      some (List.replicate n '1') := by
    simp [onesExtent, MessagesSheet.insideBrackets?, Text.trimBy, hblank]
  simpa using MessagesSheet.readExtent_tooLong r row hinside (by simp [hdigit]) (by simpa using h)

/-- A field row that is refused for its array specification alone. -/
theorem MessagesSheet.readField_extent_fault {r : SheetReader} {message : String} {row : Row}
    {fault : Fault} (hhead : PassesHead r row)
    (hcontents : ∃ contents, readContents r row = .ok contents)
    (hnumber : ∃ number, readNumber r row = .ok number)
    (hextent : readExtent r row (r.get row MessagesColumn.array.key) = .error fault) :
    readField r message row = .error fault := by
  obtain ⟨contents, hcontents⟩ := hcontents
  obtain ⟨number, hnumber⟩ := hnumber
  rw [readField_of_passesHead hhead, hcontents, hnumber, hextent]
  rfl

/-- A workbook with one field, an array with the given specification. -/
def extentBook (text : String) : Workbook where
  sheets :=
    [("Types", [["Type Name", "Base Type", "Value Name", "Value", "Comment"]]),
     ("Messages",
      [["Message Name", "Field Def #", "Field Name", "Field Type", "Array", "Components", "Scale",
        "Offset", "Units", "Bits", "Accumulate", "Ref Field Name", "Ref Field Value", "Comment"],
       ["event"],
       ["", "3", "data", "byte", text]])]

theorem ofWorkbook_extentBook {text : String} {fault : Fault}
    (h : ∀ r row, MessagesSheet.readExtent r row text = .error fault) :
    (ofWorkbook .sdk20 ⟨20, 14⟩ (extentBook text)).outcome = .error fault := by
  have hthree : ∀ (r : SheetReader) (row : Row), r.hexValues = true →
      r.get row MessagesColumn.fieldNumber.key = "3" →
        MessagesSheet.readNumber r row = .ok (some 3) := by
    intro r row hhex htext
    have hvalue : SheetReader.integerIn? true "3" = some 3 := by decide
    simp [MessagesSheet.readNumber, SheetReader.readInteger, htext, hhex, hvalue, Except.map]
  have hread : ∃ sheet, (extentBook text).sheet (some "Messages") = .ok sheet ∧
      MessagesSheet.read .sdk20 sheet = .error fault := by
    -- the sheet is opened, and the one field of its one message is the first step that fails
    refine ⟨_, rfl, bind_eq_error.mpr (.inr ⟨_, rfl, ?_⟩)⟩
    refine bind_eq_error.mpr (.inl ?_)
    refine bind_eq_error.mpr (.inr ⟨_, rfl, ?_⟩)
    refine bind_eq_error.mpr (.inl ?_)
    refine bind_eq_error.mpr (.inl ?_)
    apply MessagesSheet.readField_extent_fault
    · exact ⟨(by decide : "data" ≠ ""), (by decide : "byte" ≠ ""), rfl⟩
    · exact ⟨_, rfl⟩
    · exact ⟨some 3, hthree _ _ rfl rfl⟩
    · exact h _ _
  obtain ⟨sheet, hsheet, hfault⟩ := hread
  have htypes : ∃ types, (extentBook text).sheet (some "Types") = .ok types ∧
      TypesSheet.read .sdk20 types = ⟨[], .ok []⟩ := ⟨_, rfl, rfl⟩
  obtain ⟨types, htypesSheet, htypes⟩ := htypes
  have hdeclared : declaredVersion? .sdk20 (extentBook text) = .ok none := rfl
  have hnamed : RuleSet.sdk20.typesSheet = some "Types" := rfl
  have hnamed' : RuleSet.sdk20.messagesSheet = some "Messages" := rfl
  simp only [ofWorkbook, hdeclared, hnamed, hnamed', htypesSheet, htypes, hsheet, hfault,
    Reported.ofExcept, Reported.bind_ok, Reported.bind_error, Reported.pure_eq]

/-- One digit too many: the fault does not name the cell. -/
theorem extentBook_not_located :
    RuleSet.select RuleSet.registered ⟨20, 14⟩ = .ok .sdk20 ∧
      (ofWorkbook .sdk20 ⟨20, 14⟩ (extentBook (onesExtent 4301))).outcome =
        .error (.tooManyDigitsToRead 4301) ∧
      ¬ (Fault.tooManyDigitsToRead 4301).IsLocated :=
  ⟨rfl, ofWorkbook_extentBook fun r row => readExtent_onesExtent r row (by decide), nofun⟩

end Draft

end FitProfile
