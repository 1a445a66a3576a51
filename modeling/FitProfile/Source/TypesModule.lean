import FitProfile.Source.Header
import FitProfile.Model.Basic
/-!
# FitProfile.Source.TypesModule -- the module of the types

The module of the types is a dictionary with an entry for each type of the model, in the
order of the model, and in it the values of the type in their order. A comment stands
behind its value on the same line.
-/

namespace FitProfile.Source

open FitProfile.Number

/-- The expression of a base type. -/
def baseExpression (b : BaseType) : String := "BASE_TYPES[0x" ++ b.identifierDigits 2 ++ "]"

/-- The line of a value. -/
def valueLine (v : TypeValue) : String :=
  decimal v.value ++ ": " ++ Text.quoted v.name ++ "," ++
    (match v.comment with
      | some comment => if comment.toList.isEmpty then "" else "  # " ++ Text.collapse comment
      | none => "")

/-- The entry of a type. -/
def typeEntry (t : TypeDef) : List String :=
  block (Text.quoted t.name ++ ": FieldType(")
    ([keyword "name" (Text.quoted t.name) "",
      keyword "base_type" (baseExpression t.base) t.base.name] ++
     (if t.values.isEmpty then [] else block "values=\x7b" (t.values.map valueLine) "\x7d,"))
    "),"

/-- The integers in the module. -/
def typesIntegers (model : Model) : List Int :=
  [model.version.major, model.version.minor] ++
    model.types.flatMap fun t => t.values.map TypeValue.value

/-- The lines of the module. -/
def typesLines (model : Model) (moment : Option Moment) : List String :=
  header .types model.version moment ++
  ["from " ++ recordsModule ++ " import BASE_TYPES, FieldType", "", ""] ++
  block "FIELD_TYPES = \x7b" (model.types.flatMap typeEntry) "\x7d"

end FitProfile.Source
