import FitProfile.Draft.Basic
import FitProfile.Draft.Blocks
import FitProfile.Draft.SheetReader
import FitProfile.Reported
/-!
# FitProfile.Draft.TypesSheet -- reading the Types sheet

A row with a type name opens a type. A row with a value name adds a value to the type
above it; any other row is a comment. A type must have a known base type, and a value
must stand below a type and hold an integer that the type does not yet have. A value name
that the type already has is noted as a warning, once for each earlier value of that
name.
-/

namespace FitProfile.Draft

open FitProfile.Number

namespace TypesSheet

/-- Rows that open a type. -/
def isTypeRow (r : SheetReader) (row : Row) : Bool :=
  r.get row TypesColumn.typeName.key != ""

/-- Rows that hold a value, if they do not open a type. -/
def isValueRow (r : SheetReader) (row : Row) : Bool :=
  r.get row TypesColumn.valueName.key != ""

/-- Reads the value in a row. -/
def readValue (r : SheetReader) (row : Row) : Except Fault ValueRow := do
  let name := r.get row TypesColumn.valueName.key
  let text := r.get row TypesColumn.value.key
  if text.toList.isEmpty then
    throw (r.fault row TypesColumn.value.key (.valueMissing name))
  let value ← r.readInteger row TypesColumn.value.key text
  return ⟨name, value, r.get row TypesColumn.comment.key, row.index⟩

/-- Compares a value with the earlier values of its type, in order: an equal number ends
the work, an equal name is noted. -/
def compareWith (r : SheetReader) (type : String) (value : ValueRow) :
    List ValueRow → Reported Unit
  | [] => pure ()
  | earlier :: rest =>
    if earlier.value = value.value then
      .ofExcept (.error (.ofIntegrity (.duplicateValue value.value type earlier.name)
        { sheet := some r.sheet, row := some value.row }))
    else if earlier.name = value.name then
      let warning : DuplicateName := ⟨value.name, type, earlier.value, value.value⟩
      if warning.isWritable then do
        Reported.note (.warning warning)
        compareWith r type value rest
      else .ofExcept (.error .tooManyDigitsToWrite)
    else compareWith r type value rest

/-- Reads the values in the rows of a type that already has the values `known`. -/
def readValues (r : SheetReader) (type : String) (known : List ValueRow) :
    List Row → Reported (List ValueRow)
  | [] => pure known
  | row :: rest =>
    if isValueRow r row then do
      let value ← Reported.ofExcept (readValue r row)
      compareWith r type value known
      readValues r type (known ++ [value]) rest
    else readValues r type known rest

/-- Reads a type: the row that opens it and the rows below. -/
def readType (r : SheetReader) (block : Row × List Row) : Reported TypeBlock := do
  let (head, rows) := block
  let name := r.get head TypesColumn.typeName.key
  let baseType := r.get head TypesColumn.baseType.key
  if (BaseType.ofName? baseType).isNone then
    Reported.ofExcept
      (.error (r.fault head TypesColumn.baseType.key (.baseTypeUnknown baseType name)))
  let values ← readValues r name [] rows
  return ⟨name, baseType, r.get head TypesColumn.comment.key, head.index, values⟩

/-- Reads types one after the other. -/
def readTypes (r : SheetReader) : List (Row × List Row) → Reported (List TypeBlock)
  | [] => pure []
  | block :: rest => do
    let type ← readType r block
    let types ← readTypes r rest
    return type :: types

/-- Reads rows, of which those in front of the first type must not hold values. -/
def readRows (r : SheetReader) (rows : List Row) : Reported (List TypeBlock) :=
  let (lead, blocks) := cutBlocks (isTypeRow r) rows
  match lead.find? (isValueRow r) with
  | some row =>
    .ofExcept (.error (r.fault row TypesColumn.valueName.key
      (.valueOutsideType (r.get row TypesColumn.valueName.key))))
  | none => readTypes r blocks

/-- Opens the sheet. -/
def reader (rules : RuleSet) (sheet : Sheet) : Except Fault SheetReader :=
  SheetReader.ofSheet sheet rules.typesColumns rules.requiredTypesColumns rules.hexValues

/-- Reads the sheet. -/
def read (rules : RuleSet) (sheet : Sheet) : Reported (List TypeBlock) := do
  let r ← Reported.ofExcept (reader rules sheet)
  readRows r (sheet.rowsBelow r.header)

end TypesSheet

end FitProfile.Draft
