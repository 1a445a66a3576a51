import FitProfile.Calendar.IsoText
import FitProfile.Workbook.Payload
import FitProfile.Text.CommaList
/-!
# FitProfile.Workbook.Listing -- workbooks as plain text

The containers of the two file formats are unpacked outside of this library. A listing
hands over what they hold: the cells of a workbook line by line, with tabs between the
parts of a line. The word `sheet` and a name begin a sheet, the word `row` and cells give
its next row.

A cell stands there as text. Where the container holds another kind of value, the cell
begins with an equals sign, the name of the kind and a space, and then the value: numbers
in decimal, dates and times in ISO 8601. Text that begins with an equals sign itself is
given in the same way, with the kind `text`.

A text with any other line or cell, or with a row before the first sheet, is no listing.
-/

namespace FitProfile.Listing

open FitProfile.Number

/-- A line of a listing. -/
inductive Line where
  | sheet (name : String)
  | row (cells : List Cell)
  deriving DecidableEq, Repr

/-- A value of a kind. -/
def readValue? (kind value : String) : Option Cell :=
  match kind with
  | "text" => some (.text value)
  | "integer" => (integer? value).map .integer
  | "real" => (real? value).map .real
  | "truth" => (integer? value).map fun n => .truth (n != 0)
  | "date" => (Date.ofIso value).toOption.map .date
  | "time" => (TimeOfDay.ofIso value).toOption.map .time
  | "moment" => (Moment.ofIso value).toOption.map .moment
  | _ => none

/-- Reads a cell. -/
def readCell? (s : String) : Option Cell :=
  match s.toList with
  | '=' :: rest =>
    readValue? (String.ofList (rest.takeWhile (· != ' ')))
      (String.ofList ((rest.dropWhile (· != ' ')).drop 1))
  | _ => some (.text s)

/-- Reads a line. -/
def readLine? (cs : List Char) : Option Line :=
  match (Text.splitAtChar '\t' cs).map String.ofList with
  | ["sheet", name] => some (.sheet name)
  | "row" :: cells => (cells.mapM readCell?).map .row
  | _ => none

/-- The rows above the first sheet, and the sheets with their rows. -/
def gather : List Line → List (List Cell) × List (String × List (List Cell))
  | [] => ([], [])
  | .row cells :: rest => (cells :: (gather rest).1, (gather rest).2)
  | .sheet name :: rest => ([], (name, (gather rest).1) :: (gather rest).2)

/-- The lines of a text; a line feed at the end begins no further line. -/
def textLines (s : String) : List (List Char) :=
  let lines := Text.splitAtChar '\n' s.toList
  if lines.getLast? = some [] then lines.dropLast else lines

/-- Reads a listing as a workbook in the newer format. -/
def read? (s : String) : Option Payload := do
  let lines ← (textLines s).mapM readLine?
  match gather lines with
  | ([], sheet :: sheets) => some (.book .xlsx (sheet :: sheets))
  | _ => none

end FitProfile.Listing
