import FitProfile.Model.Basic
/-!
# FitProfile.Model.Summary -- short descriptions of the parts of a model

Each part of a model has a description of one line, for logs.
-/

namespace FitProfile

open FitProfile.Number

namespace TypeValue

/-- A short description for logs. -/
def summary (value : TypeValue) : String :=
  "<TypeValue: " ++ value.name ++ " = " ++ decimal value.value ++ ">"

end TypeValue

namespace TypeDef

/-- A short description for logs. -/
def summary (type : TypeDef) : String :=
  "<TypeDef: " ++ type.name ++ " (" ++ type.base.name ++ "), " ++ decimal type.values.length ++
    " values>"

end TypeDef

namespace Slice

/-- A short description for logs. -/
def summary (slice : Slice) : String :=
  "<ComponentSlice: " ++ slice.name ++ " (#" ++ decimal slice.number ++ ") bits " ++
    decimal slice.bitOffset ++ ".." ++ decimal (slice.bitOffset + slice.bits - 1) ++ ">"

end Slice

namespace Shape

/-- The name of a shape. -/
def kindName : Shape → String
  | .plain => "plain"
  | .array _ => "array"
  | .packed _ _ => "component"
  | .unknown kind => kind.shown

/-- The name of a shape in descriptions. -/
def title : Shape → String
  | .plain => "PlainField"
  | .array _ => "ArrayField"
  | .packed _ _ => "ComponentField"
  | .unknown kind => kind.shown

end Shape

/-- A short description of a field. -/
def fieldSummary (title : String) (field : SingleField) : String :=
  "<" ++ title ++ ": " ++ field.name ++ " (#" ++ decimal field.number ++ ") -- type: " ++
    field.type.name ++ ">"

namespace Field

/-- A short description for logs. -/
def summary : Field → String
  | .single field => fieldSummary field.shape.title field
  | .dynamic standard _ => fieldSummary "DynamicField" standard.lead

/-- A short description of a variant, for logs. -/
def variantSummary (field : Field) (conditions : List Condition) : String :=
  "<SubField: " ++ field.name ++ " when " ++
    ", ".intercalate (conditions.map fun c =>
      c.name ++ " in (" ++ ", ".intercalate (c.values.map Prod.fst) ++ ")") ++ ">"

end Field

namespace Message

/-- A short description for logs. -/
def summary (message : Message) : String :=
  "<MessageDef: " ++ message.name ++ " (#" ++ decimal message.number ++ "), " ++
    decimal message.fields.length ++ " fields>"

end Message

end FitProfile
