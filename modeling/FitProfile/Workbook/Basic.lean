import FitProfile.Fault
/-!
# FitProfile.Workbook.Basic -- rows, sheets and workbooks of text cells

A workbook is a list of named sheets, a sheet a list of rows, a row a list of cells of
varying number. Cells beyond the end of a row read as empty.
-/

namespace FitProfile

/-- A row with its place in the sheet, counted from zero. -/
structure Row where
  index : Nat
  cells : List String
  deriving DecidableEq, Repr

namespace Row

/-- The cell at a place, empty beyond the end of the row. -/
def cell (row : Row) (i : Nat) : String := row.cells.getD i ""

/-- The cell at an optional place: none reads as empty, and a negative place counts from
the end of the row; there is no cell before the first one. -/
def cellAt? (row : Row) : Option Int → Option String
  | none => some ""
  | some i =>
    if 0 ≤ i then some (row.cell i.toNat)
    else if i.natAbs ≤ row.cells.length then row.cells[row.cells.length - i.natAbs]?
    else none

/-- Whether all cells are empty. -/
def isBlank (row : Row) : Bool := row.cells.all fun c => c == ""

/-- Cells with a number in front, which may be any one. -/
def describe (number : Int) (cells : List String) : String :=
  "<Row #" ++ Number.decimal number ++ ": " ++ (Literal.list (cells.map .text)).written ++ ">"

/-- A short description for logs. -/
def summary (row : Row) : String := describe row.index row.cells

end Row

/-- A sheet of a workbook. -/
structure Sheet where
  name : String
  rows : List Row
  deriving DecidableEq, Repr

namespace Sheet

/-- A sheet from the cells of its rows. -/
def ofCells (name : String) (cells : List (List String)) : Sheet :=
  ⟨name, cells.mapIdx fun i row => ⟨i, row⟩⟩

/-- The first row that is not blank. -/
def header (sheet : Sheet) : Except Fault Row :=
  match sheet.rows.find? fun row => !row.isBlank with
  | some row => .ok row
  | none => .error (.input .sheetEmpty { sheet := some sheet.name })

/-- The rows below a header that are not blank. -/
def rowsBelow (sheet : Sheet) (header : Row) : List Row :=
  sheet.rows.filter fun row => decide (header.index < row.index) && !row.isBlank

end Sheet

/-- A workbook: named sheets in order, each name once. -/
structure Workbook where
  sheets : List (String × List (List String))
  deriving DecidableEq, Repr

namespace Workbook

/-- Puts the rows of a sheet in place: those of an earlier sheet of the same name are
replaced where it stands. -/
def put (name : String) (rows : List (List String)) :
    List (String × List (List String)) → List (String × List (List String))
  | [] => [(name, rows)]
  | (other, kept) :: rest =>
    if other = name then (other, rows) :: rest else (other, kept) :: put name rows rest

/-- A workbook from sheets whose names may repeat: the last rows of a name win, at the
place of the first. -/
def ofSheets (sheets : List (String × List (List String))) : Workbook :=
  ⟨sheets.foldl (fun kept sheet => put sheet.1 sheet.2 kept) []⟩

/-- The names of the sheets in order. -/
def sheetNames (book : Workbook) : List String := book.sheets.map Prod.fst

/-- Whether there is a sheet of a name. -/
def hasSheet (book : Workbook) (name : String) : Bool := (book.sheets.lookup name).isSome

/-- The sheet of a name. -/
def sheet? (book : Workbook) (name : String) : Option Sheet :=
  (book.sheets.lookup name).map (.ofCells name)

/-- The sheet of a name; where the name is left out there is none. -/
def sheet (book : Workbook) (name : Option String) : Except Fault Sheet :=
  match name.bind book.sheet? with
  | some sheet => .ok sheet
  | none => .error (.input (.sheetMissing name) { sheet := name })

end Workbook

end FitProfile
