import FitProfile.Text.Blank
import FitProfile.Text.LetterCase
import FitProfile.Workbook.Basic
/-!
# FitProfile.Draft.Columns -- finding columns by their labels

A sheet is read by the labels in its header row, never by the places of its columns. A
label is compared by its words, without colons at its end and without regard to letter
case. Of two header cells with the same label the first counts.
-/

namespace FitProfile

/-- A text without the characters `c` at its end. -/
def Text.dropAtEnd (c : Char) (cs : List Char) : List Char :=
  (cs.reverse.dropWhile (· == c)).reverse

/-- A label in the form in which labels are compared. -/
def headerKey (label : String) : String :=
  String.ofList (Text.lowerChars (Text.dropAtEnd ':' (Text.collapse label).toList))

/-- The columns of a sheet: the label and the place of each column name. -/
structure Columns where
  labels : List (String × String)
  places : List (String × Option Nat)
  deriving DecidableEq, Repr

namespace Columns

/-- The place of a label in a header row. -/
def place? (header : Row) (label : String) : Option Nat :=
  header.cells.findIdx? fun cell => cell != "" && headerKey cell == headerKey label

/-- The places of labels in a header row; the first required label that has none is a
fault. -/
def findPlaces (sheet : String) (header : Row) (required : List String) :
    List (String × String) → Except Fault (List (String × Option Nat))
  | [] => .ok []
  | (key, label) :: rest =>
    match place? header label with
    | none =>
      if required.contains key then
        .error (.input (.columnMissing label)
          { sheet := some sheet, row := some header.index, column := some label })
      else do
        let places ← findPlaces sheet header required rest
        return (key, none) :: places
    | some i => do
      let places ← findPlaces sheet header required rest
      return (key, some i) :: places

/-- The columns under a header row. -/
def ofHeader (sheet : String) (header : Row) (required : List String)
    (labels : List (String × String)) : Except Fault Columns := do
  let places ← findPlaces sheet header required labels
  return ⟨labels, places⟩

/-- The cell of a row in a column; empty where the sheet lacks the column. -/
def get (columns : Columns) (row : Row) (key : String) : String :=
  match columns.places.lookup key with
  | some (some i) => row.cell i
  | _ => ""

/-- The label of a column; a column without label goes by its name. -/
def label (columns : Columns) (key : String) : String := (columns.labels.lookup key).getD key

end Columns

end FitProfile
