import FitProfile.Number.Quantity
import FitProfile.Version
import FitProfile.BaseType
/-!
# FitProfile.Draft.Basic -- a profile as the sheets state it

A draft holds what the rows of a workbook say, cell by cell: types with their values,
messages with their fields, components and reference conditions. Types, components and
references are still plain names. A field block is a main field with the subfields that
follow it.
-/

namespace FitProfile

open FitProfile.Number

/-- The number of elements of an array field: a count, or a symbol. Where fields are made
by hand they may state a truth value, which counts as one or zero, a double precision
number, or anything else, which is kept as it is written. -/
inductive Extent where
  | count (n : Int)
  | symbol (s : String)
  | truth (b : Bool)
  | real (x : Binary64)
  | other (written : String)
  deriving DecidableEq, Repr

namespace Extent

/-- The array takes the rest of the message. -/
def remaining : Extent := .symbol "N"

end Extent

namespace Draft

/-- A named value of a type. -/
structure ValueRow where
  name : String
  value : Int
  comment : String
  row : Int
  deriving DecidableEq, Repr

/-- A type with its values. -/
structure TypeBlock where
  name : String
  baseType : String
  comment : String
  row : Int
  values : List ValueRow
  deriving DecidableEq, Repr

/-- One component of a field that carries several values in its bits. -/
structure ComponentEntry where
  name : String
  scale : Option Quantity
  offset : Option Quantity
  units : Option String
  bits : Int
  accumulate : Bool
  deriving DecidableEq, Repr

/-- What a field row says, apart from the number of the field. -/
structure FieldSpec where
  row : Int
  name : String
  typeName : String
  extent : Option Extent
  components : List ComponentEntry
  scale : Option Quantity
  offset : Option Quantity
  units : Option String
  accumulate : Bool
  refNames : List String
  refValues : List String
  comment : Option String
  deriving DecidableEq, Repr

/-- A field with its number. -/
structure FieldRow extends FieldSpec where
  number : Int
  deriving DecidableEq, Repr

/-- A main field and the subfields that stand in for it under conditions. -/
structure FieldBlock where
  main : FieldRow
  subfields : List FieldRow
  deriving DecidableEq, Repr

/-- A message with its fields. The number in its own row is optional. -/
structure MessageBlock where
  name : String
  declaredNumber : Option Int
  row : Int
  fields : List FieldBlock
  deriving DecidableEq, Repr

namespace FieldSpec

/-- Whether a field names reference fields. -/
def hasReference (field : FieldSpec) : Bool := !field.refNames.isEmpty

end FieldSpec

namespace FieldRow

/-- A short description for logs. -/
def summary (field : FieldRow) : String :=
  "<RawField: " ++ field.name ++ " (#" ++ decimal field.number ++ ") -- type: " ++
    field.typeName ++ ">"

end FieldRow

namespace TypeBlock

/-- A short description for logs. -/
def summary (type : TypeBlock) : String :=
  "<RawType: " ++ type.name ++ " (" ++ type.baseType ++ "), " ++ decimal type.values.length ++
    " values>"

end TypeBlock

namespace MessageBlock

/-- A short description for logs. -/
def summary (message : MessageBlock) : String :=
  "<RawMessage: " ++ message.name ++ ", " ++ decimal message.fields.length ++ " fields>"

end MessageBlock

end Draft

/-- A profile as the sheets state it. -/
structure Draft where
  types : List Draft.TypeBlock
  messages : List Draft.MessageBlock
  declaredVersion : Option Version
  deriving DecidableEq, Repr

end FitProfile
