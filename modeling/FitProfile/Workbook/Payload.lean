import FitProfile.Workbook.Basic
import FitProfile.Workbook.Cell
/-!
# FitProfile.Workbook.Payload -- the contents of a workbook file

A payload is either a workbook in one of the two file formats, given by its cells, or
bytes that are no workbook. Bytes are told apart by how they start: those that bear the
mark of a format are unreadable as that format, all others are of no known format.

Unpacking the two formats is the work of openpyxl and xlrd, which lie outside of this
library. What they make of a file that they can read is a `book`, sheet by sheet in its
order, with each cell as the kind of value that they hand over (`Cell.stored`). Of bytes
that bear a mark and are no workbook it is assumed that they end in one of the faults that
are caught where these readers are called, and so in an unreadable workbook.
-/

namespace FitProfile

/-- The contents of a file. -/
inductive Payload where
  | book (format : Format) (sheets : List (String × List (List Cell)))
  | bytes (data : List UInt8)
  deriving DecidableEq, Repr

namespace Format

/-- The bytes that a file of a format starts with. -/
def mark : Format → List UInt8
  | .xlsx => [0x50, 0x4b, 0x03, 0x04]
  | .xls => [0xd0, 0xcf, 0x11, 0xe0, 0xa1, 0xb1, 0x1a, 0xe1]

end Format

namespace Workbook

/-- A workbook of text cells from sheets of cells. -/
def ofCells (sheets : List (String × List (List Cell))) : Workbook :=
  .ofSheets (sheets.map fun sheet => (sheet.1, sheet.2.map fun row => row.map Cell.asText))

end Workbook

namespace Payload

/-- Whether there is nothing in the file. -/
def isEmpty : Payload → Bool
  | .book _ _ => false
  | .bytes data => data.isEmpty

/-- A workbook of text cells from a file. -/
def toWorkbook : Payload → Except Fault Workbook
  | .book format sheets =>
    .ok (.ofCells (sheets.map fun sheet =>
      (sheet.1, sheet.2.map fun row => row.map fun cell => cell.stored format)))
  | .bytes data =>
    let cause : InputCause :=
      if data.isEmpty then .dataEmpty
      else if Format.xlsx.mark.isPrefixOf data then .dataUnreadable .xlsx
      else if Format.xls.mark.isPrefixOf data then .dataUnreadable .xls
      else .dataOfNoFormat (data.take 8)
    .error (.input cause {})

end Payload

end FitProfile
