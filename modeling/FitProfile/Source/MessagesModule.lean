import FitProfile.Source.TypesModule
import FitProfile.Order.Insertion
import FitProfile.Fault
/-!
# FitProfile.Source.MessagesModule -- the module of the messages

The module of the messages is a dictionary with an entry for each message of the model,
in the order of the model, and in it the fields by ascending number. A dynamic field is
written as its default with the variants as subfields; the conditions of a variant are
written value by value.

A field can be written when its type is a base type or a type of the model, its shape is
known, and it is not a dynamic field inside another one. Its integers are checked as they
come up, so of several faults the one that comes first in the text is named.
-/

namespace FitProfile.Source

open FitProfile.Number

/-- The last of several types of one name, which is the one that the name stands for. -/
def lastNamed? (types : List TypeDef) (name : String) : Option TypeDef :=
  types.reverse.find? fun t => t.name == name

/-- The expression of a type and the remark behind it. -/
def typeExpression (types : List TypeDef) : FieldType → Except Fault (String × String)
  | .base b => .ok (baseExpression b, b.name)
  | .declared t =>
    if lastNamed? types t.name = some t then .ok ("FIELD_TYPES[" ++ Text.quoted t.name ++ "]", "")
    else .error (.rendering (.typeNotInModel t.name))
  | .foreign name => .error (.rendering (.typeNotInModel name))
  | .invalid value => .error (.rendering (.notAType value))

/-- The lines of a scaling: its parts as far as they are given. -/
def scalingLines (s : Scaling) : List String :=
  (s.scale.map fun q => keyword "scale" q.text "").toList ++
  (s.offset.map fun q => keyword "offset" q.text "").toList ++
  (s.units.map fun u => keyword "units" (Text.quoted u) "").toList ++
  (if s.accumulate then [keyword "accumulate" "True" ""] else [])

/-- The integers in the lines of a scaling. -/
def scalingIntegers (s : Scaling) : List Int :=
  (s.scale.toList ++ s.offset.toList).filterMap fun
    | .whole n => some n
    | .real _ => none

/-- How an extent is written. -/
def extentText : Option Extent → String
  | none => Literal.nothing.written
  | some (.count n) => decimal n
  | some (.symbol s) => Text.quoted s
  | some (.truth b) => (Literal.truth b).written
  | some (.real x) => x.text
  | some (.other written) => written

/-- The line of an extent. -/
def extentLine (extent : Option Extent) : String := keyword "array" (extentText extent) ""

/-- The integers in the line of an extent. -/
def extentIntegers : Option Extent → List Int
  | some (.count n) => [n]
  | _ => []

/-- The entry of a slice. -/
def sliceEntry (s : Slice) : List String :=
  block "ComponentField("
    ([keyword "name" (Text.quoted s.name) "", keyword "def_num" (decimal s.number) ""] ++
     scalingLines s.scaling ++
     [keyword "bits" (decimal s.bits) "", keyword "bit_offset" (decimal s.bitOffset) ""])
    "),"

/-- The integers in the entry of a slice. -/
def sliceIntegers (s : Slice) : List Int :=
  s.number :: scalingIntegers s.scaling ++ [s.bits, s.bitOffset]

/-- The lines of a shape. -/
def shapeLines (field : SingleField) : Except Fault (List String) :=
  match field.shape with
  | .plain => .ok []
  | .array extent => do
    Fault.writable (extentIntegers extent)
    return [extentLine extent]
  | .packed extent slices => do
    Fault.writable (extentIntegers extent ++ slices.flatMap sliceIntegers)
    return (if extent.isSome then [extentLine extent] else []) ++
      block "components=(" (slices.flatMap sliceEntry) "),"
  | .unknown kind => .error (.rendering (.fieldKindUnknown kind field.name))

/-- The lines of a field that is not dynamic. -/
def singleLines (types : List TypeDef) (field : SingleField) : Except Fault (List String) := do
  let (expression, comment) ← typeExpression types field.type
  Fault.writable (field.number :: scalingIntegers field.scaling)
  let shape ← shapeLines field
  return [keyword "name" (Text.quoted field.name) "", keyword "type" expression comment,
      keyword "def_num" (decimal field.number) ""] ++
    scalingLines field.scaling ++ shape

/-- The lines of a default or of a variant, which must not be dynamic. -/
def innerLines (types : List TypeDef) : Field → Except Fault (List String)
  | .single field => singleLines types field
  | .dynamic standard _ => do
    let _ ← typeExpression types standard.lead.type
    Fault.writable [standard.lead.number]
    throw .nestedDynamicField

/-- The entry of one value of a condition. -/
def referenceEntry (c : Condition) (value : String × Int) : List String :=
  block "ReferenceField("
    [keyword "name" (Text.quoted c.name) "", keyword "def_num" (decimal c.number) "",
     keyword "value" (Text.quoted value.1) "", keyword "raw_value" (decimal value.2) ""]
    "),"

/-- The entries of the conditions of a variant, value by value. -/
def conditionEntries (conditions : List Condition) : List String :=
  conditions.flatMap fun c => c.values.flatMap (referenceEntry c)

/-- The integers in the entries of the conditions of a variant. -/
def conditionIntegers (conditions : List Condition) : List Int :=
  conditions.flatMap fun c => c.values.flatMap fun value => [c.number, value.2]

/-- The entry of a variant. -/
def variantEntry (types : List TypeDef) (variant : Field × List Condition) :
    Except Fault (List String) := do
  let lines ← innerLines types variant.1
  Fault.writable (conditionIntegers variant.2)
  return block "SubField("
    (lines ++ block "ref_fields=(" (conditionEntries variant.2) "),") "),"

/-- The entries of variants. -/
def variantEntries (types : List TypeDef) :
    List (Field × List Condition) → Except Fault (List String)
  | [] => .ok []
  | variant :: rest => do
    let entry ← variantEntry types variant
    let entries ← variantEntries types rest
    return entry ++ entries

/-- The lines of a field. -/
def fieldLines (types : List TypeDef) : Field → Except Fault (List String)
  | .single field =>
    match field.shape with
    | .unknown kind => .error (.rendering (.fieldKindUnknown kind field.name))
    | _ => singleLines types field
  | .dynamic standard variants => do
    let lines ← innerLines types standard
    let entries ← variantEntries types variants
    return lines ++ block "subfields=(" entries "),"

/-- The entry of a field. -/
def fieldEntry (types : List TypeDef) (field : Field) : Except Fault (List String) := do
  Fault.writable [field.number]
  let lines ← fieldLines types field
  return block (decimal field.number ++ ": Field(") lines "),"

/-- The entries of fields. -/
def fieldEntries (types : List TypeDef) : List Field → Except Fault (List String)
  | [] => .ok []
  | field :: rest => do
    let entry ← fieldEntry types field
    let entries ← fieldEntries types rest
    return entry ++ entries

/-- The entry of a message. -/
def messageEntry (types : List TypeDef) (message : Message) : Except Fault (List String) := do
  Fault.writable [message.number]
  let fields := Order.sortBy (fun a b => decide (a.number ≤ b.number)) message.fields
  let entries ← fieldEntries types fields
  return block (decimal message.number ++ ": MessageType(")
    ([keyword "name" (Text.quoted message.name) "",
      keyword "mesg_num" (decimal message.number) ""] ++
     block "fields=\x7b" entries "\x7d,")
    "),"

/-- The entries of messages. -/
def messageEntries (types : List TypeDef) : List Message → Except Fault (List String)
  | [] => .ok []
  | message :: rest => do
    let entry ← messageEntry types message
    let entries ← messageEntries types rest
    return entry ++ entries

/-- The lines of the module. -/
def messagesLines (model : Model) (moment : Option Moment) : Except Fault (List String) := do
  let entries ← messageEntries model.types model.messages
  return header .messages model.version moment ++
    ["from " ++ recordsModule ++
       " import BASE_TYPES, ComponentField, Field, MessageType, ReferenceField, SubField",
     "", "from ." ++ Module.types.name ++ " import FIELD_TYPES", "", ""] ++
    block "MESSAGE_TYPES = \x7b" entries "\x7d"

end FitProfile.Source
