import FitProfile.Proofs.Reading.Correspondence
import FitProfile.RuleSet.Registry
import Mathlib.Data.List.Find
import Mathlib.Data.List.GetD
/-!
# FitProfile.Proofs.Reading.Layout -- a sheet around its header row

A `Layout` holds the rows of a sheet apart: those above the header row, the header row, and those
below. What is read below is what `Layout.under` finds in the column of each label, so opening a
sheet is settled here once: which required label the header lacks (`Columns.missing?`), or the
reader with the columns of all labels (`Leads.ofSheet_ofCells`) and the rows it reads
(`rowsBelow_ofCells`).
-/

namespace FitProfile

open FitProfile.Draft FitProfile.Outcome

/-! ## Layouts -/

/-- The rows of a sheet around its header row. -/
structure Layout where
  above : List (List String)
  header : List String
  below : List (List String)

/-- Whether a header cell bears one of the labels that are read. -/
def IsMapped (labels : List (String × String)) (cell : String) : Prop :=
  cell ≠ "" ∧ ∃ entry ∈ labels, headerKey cell = headerKey entry.2

instance (labels : List (String × String)) (cell : String) : Decidable (IsMapped labels cell) :=
  inferInstanceAs (Decidable (_ ∧ _))

namespace Layout

/-- All rows of the sheet. -/
def rows (l : Layout) : List (List String) := l.above ++ l.header :: l.below

/-- The header row in its place. -/
def headerRow (l : Layout) : Row := ⟨l.above.length, l.header⟩

/-- The cell of a row in the column of a key, empty where the header lacks its label. -/
def under (l : Layout) (labels : List (String × String)) (row : List String) (key : String) :
    String :=
  match (labels.lookup key).bind (Columns.place? l.headerRow) with
  | some i => row.getD i ""
  | none => ""

/-- The header row is the first one that is not blank. -/
structure Leads (l : Layout) : Prop where
  above : ∀ row ∈ l.above, ∀ cell ∈ row, cell = ""
  header : ∃ cell ∈ l.header, cell ≠ ""

/-- The header row is the first one that is not blank, it bears a label that is read, and it
bears none of them twice. -/
structure Fits (labels : List (String × String)) (l : Layout) : Prop where
  above : ∀ row ∈ l.above, ∀ cell ∈ row, cell = ""
  mapped : ∃ cell ∈ l.header, IsMapped labels cell
  unique : l.header.Pairwise fun cell other =>
    IsMapped labels cell → IsMapped labels other → headerKey cell ≠ headerKey other

theorem Fits.leads {labels : List (String × String)} {l : Layout} (h : l.Fits labels) :
    l.Leads where
  above := h.above
  header := by
    obtain ⟨cell, hmem, hne, -⟩ := h.mapped
    exact ⟨cell, hmem, hne⟩

instance (labels : List (String × String)) (l : Layout) : Decidable (l.Fits labels) :=
  decidable_of_iff
    ((∀ row ∈ l.above, ∀ cell ∈ row, cell = "") ∧ (∃ cell ∈ l.header, IsMapped labels cell) ∧
      l.header.Pairwise fun cell other =>
        IsMapped labels cell → IsMapped labels other → headerKey cell ≠ headerKey other)
    ⟨fun ⟨above, mapped, unique⟩ => ⟨above, mapped, unique⟩,
      fun h => ⟨h.above, h.mapped, h.unique⟩⟩

end Layout

/-! ## Where a label stands -/

section Cells

theorem getD_mem_of_ne {row : List String} {i : Nat} (h : row.getD i "" ≠ "") :
    ∃ hi : i < row.length, row.getD i "" = row[i] := by
  by_cases hi : i < row.length
  · exact ⟨hi, List.getD_eq_getElem _ _ hi⟩
  · exact absurd (List.getD_eq_default _ _ (Nat.le_of_not_lt hi)) h

theorem getD_eq_empty {row : List String} (h : ∀ cell ∈ row, cell = "") (i : Nat) :
    row.getD i "" = "" := by
  by_contra hne
  obtain ⟨hi, heq⟩ := getD_mem_of_ne hne
  exact hne (heq.trans (h _ (List.getElem_mem hi)))

variable {labels : List (String × String)} {l : Layout}

/-- No label that is read stands in two places of the header. -/
theorem Layout.Fits.place_unique (h : l.Fits labels) {i j : Nat}
    (hi : IsMapped labels (l.header.getD i "")) (hj : IsMapped labels (l.header.getD j ""))
    (heq : headerKey (l.header.getD i "") = headerKey (l.header.getD j "")) : i = j := by
  obtain ⟨hilt, hicell⟩ := getD_mem_of_ne hi.1
  obtain ⟨hjlt, hjcell⟩ := getD_mem_of_ne hj.1
  have hpairs := List.pairwise_iff_getElem.mp h.unique
  rw [hicell] at hi heq
  rw [hjcell] at hj heq
  rcases Nat.lt_trichotomy i j with hlt | heqij | hlt
  · exact absurd heq (hpairs i j hilt hjlt hlt hi hj)
  · exact heqij
  · exact absurd heq.symm (hpairs j i hjlt hilt hlt hj hi)

/-- The place of a label that is read is the one place in the header that bears it. -/
theorem Layout.Fits.place?_eq_some (h : l.Fits labels) {key label : String}
    (hlabel : (key, label) ∈ labels) {i : Nat} :
    Columns.place? l.headerRow label = some i ↔
      l.header.getD i "" ≠ "" ∧ headerKey (l.header.getD i "") = headerKey label := by
  have hmapped : ∀ j, l.header.getD j "" ≠ "" →
      headerKey (l.header.getD j "") = headerKey label → IsMapped labels (l.header.getD j "") :=
    fun j hne hkey => ⟨hne, _, hlabel, hkey⟩
  have hplace : Columns.place? l.headerRow label = l.header.findIdx? fun cell =>
      cell != "" && headerKey cell == headerKey label := rfl
  rw [hplace, List.findIdx?_eq_some_iff_getElem]
  simp only [Bool.and_eq_true, bne_iff_ne, ne_eq, beq_iff_eq]
  constructor
  · rintro ⟨hi, hcell, -⟩
    rw [List.getD_eq_getElem _ _ hi]
    exact hcell
  · rintro ⟨hne, hkey⟩
    obtain ⟨hi, hcell⟩ := getD_mem_of_ne hne
    refine ⟨hi, hcell ▸ ⟨hne, hkey⟩, fun j hji hother => ?_⟩
    -- an earlier place would bear the label as well
    rw [← List.getD_eq_getElem _ "" (Nat.lt_trans hji hi)] at hother
    exact Nat.ne_of_lt hji (h.place_unique (hmapped j hother.1 hother.2) (hmapped i hne hkey)
      (hother.2.trans hkey.symm))

end Cells

/-! ## Rows in their places -/

/-- Rows with their places, counted from `n`. -/
def numbered (n : Nat) : List (List String) → List Row
  | [] => []
  | row :: rest => ⟨n, row⟩ :: numbered (n + 1) rest

namespace Layout

variable {labels : List (String × String)} {keys : List String} {σ : Int → Int}
variable {l l' : Layout}

theorem numbered_append (n : Nat) (before after : List (List String)) :
    numbered n (before ++ after) = numbered n before ++ numbered (n + before.length) after := by
  induction before generalizing n with
  | nil => rfl
  | cons row rest ih =>
    rw [List.cons_append, numbered, numbered, ih, List.length_cons, List.cons_append]
    congr 3
    omega

theorem mem_numbered {n : Nat} {below : List (List String)} {row : Row}
    (h : row ∈ numbered n below) :
    row.cells ∈ below ∧ n ≤ row.index ∧ row.index < n + below.length := by
  induction below generalizing n with
  | nil => cases h
  | cons first rest ih =>
    rw [List.length_cons]
    rcases List.mem_cons.mp h with rfl | h
    · exact ⟨List.mem_cons_self, Nat.le_refl _, by simp⟩
    · obtain ⟨hmem, hlower, hupper⟩ := ih h
      exact ⟨List.mem_cons_of_mem _ hmem, by omega, by omega⟩

theorem forall₂_numbered {R : List String → List String → Prop} {below below' : List (List String)}
    (h : List.Forall₂ R below below') (n : Nat) :
    List.Forall₂ (fun row row' : Row => row'.index = row.index ∧ R row.cells row'.cells)
      (numbered n below) (numbered n below') := by
  induction h generalizing n with
  | nil => exact .nil
  | cons hrow _ ih => exact .cons ⟨rfl, hrow⟩ (ih (n + 1))

theorem mapIdx_eq_numbered (rows : List (List String)) (n : Nat) :
    rows.mapIdx (fun i row => (⟨n + i, row⟩ : Row)) = numbered n rows := by
  induction rows generalizing n with
  | nil => rfl
  | cons row rest ih =>
    rw [List.mapIdx_cons, numbered, ← ih (n + 1)]
    simp [Nat.add_comm, Nat.add_left_comm]

theorem ofCells_rows (name : String) : (Sheet.ofCells name l.rows).rows =
    numbered 0 l.above ++ l.headerRow :: numbered (l.above.length + 1) l.below := by
  have hnumbered := mapIdx_eq_numbered l.rows 0
  simp only [Nat.zero_add] at hnumbered
  rw [Sheet.ofCells, hnumbered, rows, numbered_append, numbered, Nat.zero_add]
  rfl

/-! ### Rows with an entry -/

/-- Whether a row has an entry under one of the keys. -/
def hasEntry (l : Layout) (labels : List (String × String)) (keys : List String) (row : Row) :
    Bool :=
  keys.any fun key => l.under labels row.cells key != ""

theorem hasEntry_eq_false {row : Row} (h : ∀ key ∈ keys, l.under labels row.cells key = "") :
    l.hasEntry labels keys row = false := by
  simpa [hasEntry] using h

/-- Rows with an entry are not blank, so leaving out the blank ones leaves out no entry. -/
theorem filter_hasEntry_not_blank (rows : List Row) :
    (rows.filter fun row => !row.isBlank).filter (l.hasEntry labels keys) =
      rows.filter (l.hasEntry labels keys) := by
  refine filter_filter_of_imp (fun row hrow => ?_) rows
  by_contra hblank
  have hcells : ∀ cell ∈ row.cells, cell = "" := by
    simpa [Row.isBlank] using hblank
  obtain ⟨key, -, hkey⟩ := List.any_eq_true.mp hrow
  refine absurd (bne_iff_ne.mp hkey) (not_not_intro ?_)
  unfold under
  split
  · exact getD_eq_empty hcells _
  · rfl

/-- Rows with the same cells under all keys, the one where the other moves to. -/
structure SameRow (labels : List (String × String)) (σ : Int → Int) (l l' : Layout)
    (row row' : Row) : Prop where
  index : (row'.index : Int) = σ row.index
  cells : ∀ key, l'.under labels row'.cells key = l.under labels row.cells key

theorem forall₂_filter_hasEntry {rows rows' : List Row}
    (h : List.Forall₂ (SameRow labels σ l l') rows rows') :
    List.Forall₂ (SameRow labels σ l l') (rows.filter (l.hasEntry labels keys))
      (rows'.filter (l'.hasEntry labels keys)) :=
  List.rel_filter (fun _ _ hrow => by simp only [hasEntry, hrow.cells]) h

end Layout

/-! ## Opening a sheet -/

namespace Columns

/-- The first required label that a header lacks. -/
def missing? (header : Row) (required : List String) (labels : List (String × String)) :
    Option (String × String) :=
  labels.find? fun entry => (place? header entry.2).isNone && required.contains entry.1

theorem findPlaces_eq (sheet : String) (header : Row) (required : List String)
    (labels : List (String × String)) :
    findPlaces sheet header required labels = match missing? header required labels with
      | some entry => .error (.input (.columnMissing entry.2)
          { sheet := some sheet, row := some header.index, column := some entry.2 })
      | none => .ok (labels.map fun entry => (entry.1, place? header entry.2)) := by
  induction labels with
  | nil => rfl
  | cons entry rest ih =>
    obtain ⟨key, label⟩ := entry
    have hcons : missing? header required ((key, label) :: rest) =
        if (place? header label).isNone && required.contains key then some (key, label)
        else missing? header required rest := by
      unfold missing?
      rw [List.find?_cons]
      split
      next heq => rw [if_pos heq]
      next hne => rw [if_neg (Bool.eq_false_iff.mp hne)]
    rw [hcons, findPlaces, ih]
    cases hplace : place? header label with
    | some i =>
      rw [Option.isNone_some, Bool.false_and, if_neg Bool.false_ne_true]
      cases missing? header required rest with
      | none =>
        rw [List.map_cons, hplace]
        rfl
      | some missing => rfl
    | none =>
      cases required.contains key with
      | true => rfl
      | false =>
        rw [Bool.and_false, if_neg Bool.false_ne_true]
        cases missing? header required rest with
        | none =>
          rw [List.map_cons, hplace]
          rfl
        | some missing => rfl

/-- The place under a key is the place of its label. -/
theorem lookup_places (header : Row) (labels : List (String × String)) (key : String) :
    (labels.map fun entry => (entry.1, place? header entry.2)).lookup key =
      (labels.lookup key).map (place? header) := by
  induction labels with
  | nil => rfl
  | cons entry rest ih =>
    rw [List.map_cons, List.lookup_cons, List.lookup_cons, ih]
    split <;> rfl

end Columns

namespace Layout

variable {labels : List (String × String)} {l : Layout}

/-- The reader of a layout all of whose required labels are there. -/
def reader (l : Layout) (labels : List (String × String)) (name : String) (hexValues : Bool) :
    SheetReader :=
  ⟨name, l.headerRow, ⟨labels, labels.map fun entry =>
    (entry.1, Columns.place? l.headerRow entry.2)⟩, hexValues⟩

theorem agrees_reader (l l' : Layout) (labels : List (String × String)) (name : String)
    (hexValues : Bool) : (l.reader labels name hexValues).Agrees (l'.reader labels name hexValues) :=
  ⟨rfl, rfl, rfl⟩

theorem get_reader (name : String) (hexValues : Bool) (row : Row) (key : String) :
    (l.reader labels name hexValues).get row key = l.under labels row.cells key := by
  unfold SheetReader.get Columns.get under
  simp only [reader, Columns.lookup_places]
  cases labels.lookup key with
  | none => rfl
  | some label =>
    simp only [Option.map_some, Option.bind_some]
    cases Columns.place? l.headerRow label <;> rfl

theorem Leads.headerRow_not_blank (h : l.Leads) : l.headerRow.isBlank = false := by
  obtain ⟨cell, hmem, hne⟩ := h.header
  rw [Row.isBlank, List.all_eq_false]
  exact ⟨cell, hmem, by simpa using hne⟩

theorem Leads.header_ofCells (h : l.Leads) (name : String) :
    (Sheet.ofCells name l.rows).header = .ok l.headerRow := by
  have habove : (numbered 0 l.above).find? (fun row => !row.isBlank) = none := by
    rw [List.find?_eq_none]
    intro row hrow
    obtain ⟨hmem, -⟩ := mem_numbered hrow
    have hblank : row.isBlank = true := by
      rw [Row.isBlank, List.all_eq_true]
      exact fun cell hcell => beq_iff_eq.mpr (h.above _ hmem cell hcell)
    simp [hblank]
  simp only [Sheet.header, ofCells_rows, List.find?_append, habove, Option.none_or,
    List.find?_cons, h.headerRow_not_blank, Bool.not_false]

theorem rowsBelow_ofCells (name : String) : (Sheet.ofCells name l.rows).rowsBelow l.headerRow =
    (numbered (l.above.length + 1) l.below).filter fun row => !row.isBlank := by
  have habove : ∀ row ∈ numbered 0 l.above, ¬ l.headerRow.index < row.index := by
    intro row hrow
    obtain ⟨-, -, hupper⟩ := mem_numbered hrow
    simp only [headerRow]
    omega
  have hbelow : ∀ row ∈ numbered (l.above.length + 1) l.below, l.headerRow.index < row.index := by
    intro row hrow
    obtain ⟨-, hlower, -⟩ := mem_numbered hrow
    simp only [headerRow]
    omega
  have hfirst : (numbered 0 l.above).filter
      (fun row => decide (l.headerRow.index < row.index) && !row.isBlank) = [] :=
    List.filter_eq_nil_iff.mpr fun row hrow => by simp [habove row hrow]
  rw [Sheet.rowsBelow, ofCells_rows, List.filter_append, hfirst, List.nil_append,
    List.filter_cons_of_neg (by simp)]
  exact List.filter_congr fun row hrow => by simp [hbelow row hrow]

/-- What opening a laid out sheet gives. -/
theorem Leads.ofSheet_ofCells (h : l.Leads) (labels : List (String × String)) (name : String)
    (required : List String) (hexValues : Bool) :
    SheetReader.ofSheet (.ofCells name l.rows) labels required hexValues =
      match Columns.missing? l.headerRow required labels with
      | some entry => .error (.input (.columnMissing entry.2)
          { sheet := some name, row := some l.above.length, column := some entry.2 })
      | none => .ok (l.reader labels name hexValues) := by
  simp only [SheetReader.ofSheet, h.header_ofCells, Columns.ofHeader, bind, Except.bind,
    Columns.findPlaces_eq]
  cases Columns.missing? l.headerRow required labels <;> rfl

end Layout

/-! ## Registered rules -/

namespace RuleSet

variable {rules : RuleSet}

/-- The sheets of registered rules. The release stands on none of those that are read by rows. -/
theorem sheets_of_registered (h : rules ∈ registered) :
    rules.typesSheet = some "Types" ∧ rules.messagesSheet = some "Messages" ∧
      rules.versionSheet ≠ some "Types" ∧ rules.versionSheet ≠ some "Messages" := by
  simp only [registered, List.mem_cons, List.not_mem_nil, or_false] at h
  rcases h with rfl | rfl <;> decide

/-- The types that registered rules imply have base types. -/
theorem implicitTypes_of_registered (h : rules ∈ registered) :
    ∀ entry ∈ rules.implicitTypes, (BaseType.ofName? entry.2).isSome := by
  simp only [registered, List.mem_cons, List.not_mem_nil, or_false] at h
  rcases h with rfl | rfl <;> decide

end RuleSet

/-! ## Rows that are read -/

namespace Draft

/-- The keys of which a row of the Types sheet needs one to have an entry. -/
def TypesSheet.entryKeys : List String := [TypesColumn.typeName.key, TypesColumn.valueName.key]

/-- The keys of which a row of the Messages sheet needs one to have an entry. -/
def MessagesSheet.entryKeys : List String :=
  [MessagesColumn.messageName.key, MessagesColumn.fieldNumber.key, MessagesColumn.fieldName.key]

variable {rules : RuleSet} {name : String} {l : Layout}

theorem TypesSheet.isSignificant_reader :
    isSignificant (l.reader rules.typesColumns name rules.hexValues) =
      l.hasEntry rules.typesColumns entryKeys := by
  funext row
  simp [isSignificant, isTypeRow, isValueRow, Layout.get_reader, Layout.hasEntry, entryKeys]

theorem MessagesSheet.isSignificant_reader :
    isSignificant (l.reader rules.messagesColumns name rules.hexValues) =
      l.hasEntry rules.messagesColumns entryKeys := by
  funext row
  simp [isSignificant, isMessageRow, isFieldRow, Layout.get_reader, Layout.hasEntry, entryKeys]

end Draft

end FitProfile
