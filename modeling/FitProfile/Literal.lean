import FitProfile.Number.Quantity
import FitProfile.Text.Quoted
import FitProfile.Calendar.LiteralText
/-!
# FitProfile.Literal -- literal values of generated sources and messages

Values as the generated modules and the error texts write them: nothing, truth values,
numbers, quoted text, dates and times, lists, and tables of literals by their names.
-/

namespace FitProfile

open FitProfile.Number

/-- A literal value. -/
inductive Literal where
  | nothing
  | truth (b : Bool)
  | integer (n : Int)
  | real (x : Binary64)
  | text (s : String)
  | date (d : Date)
  | time (t : TimeOfDay)
  | moment (m : Moment)
  | list (items : List Literal)
  | table (entries : List (String × Literal))
  deriving Inhabited

namespace Literal

/-- Text, or nothing where it is left out. -/
def ofText? (s : Option String) : Literal := s.elim .nothing .text

mutual

/-- How a literal is written, with text between quotes. -/
def written : Literal → String
  | .nothing => "None"
  | .truth true => "True"
  | .truth false => "False"
  | .integer n => decimal n
  | .real x => x.text
  | .text s => Text.quoted s
  | .date d => d.literalText
  | .time t => t.literalText
  | .moment m => m.literalText
  | .list items => "[" ++ writtenItems items ++ "]"
  | .table entries => "\x7b" ++ writtenEntries entries ++ "\x7d"

/-- Items with a comma and a space between them. -/
def writtenItems : List Literal → String
  | [] => ""
  | [item] => written item
  | item :: next :: rest => written item ++ ", " ++ writtenItems (next :: rest)

/-- Entries with a comma and a space between them, each after its name. -/
def writtenEntries : List (String × Literal) → String
  | [] => ""
  | [(name, value)] => Text.quoted name ++ ": " ++ written value
  | (name, value) :: next :: rest =>
    Text.quoted name ++ ": " ++ written value ++ ", " ++ writtenEntries (next :: rest)

end

mutual

/-- The integers in a written literal. -/
def integers : Literal → List Int
  | .integer n => [n]
  | .list items => integersOfItems items
  | .table entries => integersOfEntries entries
  | _ => []

/-- The integers in written items. -/
def integersOfItems : List Literal → List Int
  | [] => []
  | item :: rest => integers item ++ integersOfItems rest

/-- The integers in written entries. -/
def integersOfEntries : List (String × Literal) → List Int
  | [] => []
  | (_, value) :: rest => integers value ++ integersOfEntries rest

end

/-- How a literal reads on its own: text without quotes, all else as written. -/
def shown : Literal → String
  | .text s => s
  | value => value.written

/-- Whether a literal counts as given: nothing, false, zero and the empty ones do not. -/
def isGiven : Literal → Bool
  | .nothing => false
  | .truth b => b
  | .integer n => n != 0
  | .real (.finite _ 0 _) => false
  | .real _ => true
  | .text s => !s.toList.isEmpty
  | .date _ | .time _ | .moment _ => true
  | .list items => !items.isEmpty
  | .table entries => !entries.isEmpty

/-- The name of the kind of a literal. -/
def kindName : Literal → String
  | .nothing => "NoneType"
  | .truth _ => "bool"
  | .integer _ => "int"
  | .real _ => "float"
  | .text _ => "str"
  | .date _ => "date"
  | .time _ => "time"
  | .moment _ => "datetime"
  | .list _ => "list"
  | .table _ => "dict"

end Literal

end FitProfile
