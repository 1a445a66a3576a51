import FitProfile.Draft.Columns
import FitProfile.Number.Quantity
import FitProfile.RuleSet.Basic
/-!
# FitProfile.Draft.SheetReader -- reading the cells of one sheet

A sheet reader knows the header of its sheet. It reads integers, numbers and flags from
cells and says in every fault where the cell stands.

An integer is decimal; where the rule set allows it, a cell that starts with `0x` or
`-0x` is hexadecimal. An empty number cell holds no number. A flag is empty, `0` or `1`.
-/

namespace FitProfile

open FitProfile.Number

/-- A sheet with its columns found. -/
structure SheetReader where
  sheet : String
  header : Row
  columns : Columns
  hexValues : Bool
  deriving DecidableEq, Repr

namespace SheetReader

/-- Opens a sheet with given column labels. -/
def ofSheet (sheet : Sheet) (labels : List (String × String)) (required : List String)
    (hexValues : Bool) : Except Fault SheetReader := do
  let header ← sheet.header
  let columns ← Columns.ofHeader sheet.name header required labels
  return ⟨sheet.name, header, columns, hexValues⟩

/-- The cell of a row in a column. -/
def get (r : SheetReader) (row : Row) (key : String) : String := r.columns.get row key

/-- A fault in a cell of a row. -/
def fault (r : SheetReader) (row : Row) (key : String) (cause : InputCause) : Fault :=
  .input cause
    { sheet := some r.sheet, row := some row.index, column := some (r.columns.label key) }

/-- A fault in a cell of a row of a message. -/
def messageFault (r : SheetReader) (row : Row) (key message : String) (cause : InputCause) :
    Fault :=
  .input cause
    { sheet := some r.sheet, row := some row.index, column := some (r.columns.label key)
      message := some message }

/-- A fault in a cell of a row of a field of a message. -/
def fieldFault (r : SheetReader) (row : Row) (key message field : String) (cause : InputCause) :
    Fault :=
  .input cause
    { sheet := some r.sheet, row := some row.index, column := some (r.columns.label key)
      message := some message, field := some field }

/-- Whether a text starts with a hexadecimal mark. -/
def hasHexMark (s : String) : Bool :=
  match s.toList with
  | '0' :: 'x' :: _ => true
  | '0' :: 'X' :: _ => true
  | '-' :: '0' :: 'x' :: _ => true
  | '-' :: '0' :: 'X' :: _ => true
  | _ => false

/-- The integer in a text, hexadecimal ones being allowed or not. -/
def integerIn? (hexValues : Bool) (text : String) : Option Int :=
  if hexValues && hasHexMark text then hexadecimal? text else integer? text

/-- Reads an integer. -/
def readInteger (r : SheetReader) (row : Row) (key text : String) : Except Fault Int :=
  match integerIn? r.hexValues text with
  | some n => .ok n
  | none => .error (r.fault row key (.invalidInteger text))

/-- Reads a number, if there is one. -/
def readNumber (r : SheetReader) (row : Row) (key text : String) :
    Except Fault (Option Quantity) :=
  if text.toList.isEmpty then .ok none
  else match Quantity.ofText? text with
    | some q => .ok (some q)
    | none => .error (r.fault row key (.invalidNumber text))

/-- Reads a flag. -/
def readFlag (r : SheetReader) (row : Row) (key text : String) : Except Fault Bool :=
  if text = "" ∨ text = "0" then .ok false
  else if text = "1" then .ok true
  else .error (r.fault row key (.invalidFlag text))

/-- A scale of one is no scale. -/
def asScale : Option Quantity → Option Quantity
  | some q => if q.sameValue (.whole 1) then none else some q
  | none => none

/-- An offset of zero is no offset. -/
def asOffset : Option Quantity → Option Quantity
  | some q => if q.sameValue (.whole 0) then none else some q
  | none => none

/-- An empty text stands for no text. -/
def nonEmpty? (s : String) : Option String := if s.toList.isEmpty then none else some s

end SheetReader

end FitProfile
