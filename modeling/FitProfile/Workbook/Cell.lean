import FitProfile.Number.Quantity
import FitProfile.Fault
/-!
# FitProfile.Workbook.Cell -- cells of a spreadsheet

A cell holds nothing, a truth value, a number, a date or time, or text. The rest of the
library reads cells as text only: numbers without fraction lose their point, truth values
become `1` and `0`, dates and times are written in ISO 8601, and text loses the white
space around it.
-/

namespace FitProfile

open FitProfile.Number

/-- A cell of a spreadsheet. -/
inductive Cell where
  | empty
  | truth (b : Bool)
  | integer (n : Int)
  | real (x : Binary64)
  | date (d : Date)
  | moment (m : Moment)
  | time (t : TimeOfDay)
  | text (s : String)
  deriving DecidableEq, Repr

namespace Cell

/-- How a cell reads. -/
def asText : Cell → String
  | .empty => ""
  | .truth b => if b then "1" else "0"
  | .integer n => Text.strip (decimal n)
  | .real x => (Quantity.ofReal x).text
  | .date d => d.text
  | .moment m => m.text
  | .time t => t.text
  | .text s => Text.strip s

/-- A cell as it comes back from a file: the newer format keeps a date as a moment at
midnight. -/
def stored (format : Format) : Cell → Cell
  | .date d => match format with
    | .xlsx => .moment ⟨d, .midnight⟩
    | .xls => .date d
  | cell => cell

end Cell

end FitProfile
