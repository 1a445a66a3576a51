import FitProfile.Model.TypeTable
import FitProfile.Number.IntegerText
/-!
# FitProfile.Model.References -- linking the fields of one message

Names in a message refer to its main fields: the components of a packed field name the
fields that its bits carry, and the conditions of a subfield name the fields whose values
select it. This module holds what linking needs to know of the message, and reads the
values of reference fields.

The value of a reference field is the name of a value of its type, or an integer in the
range of its base type.
-/

namespace FitProfile

open FitProfile.Draft

/-- A message under link: the types of the model and the sheet that faults name. -/
structure LinkContext where
  sheet : Option String
  types : List TypeDef
  message : MessageBlock

namespace LinkContext

/-- A contradiction in the message itself. -/
def messageFault (c : LinkContext) (cause : IntegrityCause) : Fault :=
  .ofIntegrity cause
    { sheet := c.sheet, row := some c.message.row, message := some c.message.name }

/-- Where a field of the message stands. -/
def fieldLocation (c : LinkContext) (field : FieldRow) : Location :=
  { sheet := c.sheet, row := some field.row, message := some c.message.name
    field := some field.name }

/-- A contradiction in a field of the message. -/
def fieldFault (c : LinkContext) (field : FieldRow) (cause : IntegrityCause) : Fault :=
  .ofIntegrity cause (c.fieldLocation field)

/-- The main field of a name. -/
def main? (c : LinkContext) (name : String) : Option FieldRow :=
  (c.message.fields.find? fun block => block.main.name == name).map FieldBlock.main

/-- The number that a text stands for as a value of a type, by the names of the values
alone. -/
def namedValue? : FieldType → String → Option Int
  | .declared type, text => type.valueOf? text
  | _, _ => none

/-- The number that a text stands for as a value of a reference field. -/
def referenceValue (c : LinkContext) (sub reference : FieldRow) (text : String) :
    Except Fault Int :=
  match TypeTable.lookup? c.types reference.typeName with
  | none => .error (c.fieldFault sub (.referenceTypeUnknown reference.name reference.typeName))
  | some type =>
    match namedValue? type text with
    | some value => .ok value
    | none =>
      match type.base?.bind fun base => base.range?.map fun range => (base, range) with
      | none => .error (c.fieldFault sub (.referenceNotMatchable reference.name type.name))
      | some (base, low, high) =>
        match Number.literal? text with
        | none =>
          .error (c.fieldFault sub (.referenceValueInvalid text reference.name type.name))
        | some value =>
          if low ≤ value ∧ value ≤ high then .ok value
          else .error (c.fieldFault sub
            (.referenceValueOutOfRange text reference.name base.name))

/-- Adds a value to the condition on a reference field, or opens a new condition at the
end; `none` when the condition already has that number. -/
def addValue? (name : String) (number : Int) (text : String) (value : Int) :
    List Condition → Option (List Condition)
  | [] => some [⟨name, number, [(text, value)]⟩]
  | condition :: rest =>
    if condition.name = name then
      if condition.values.any fun v => v.2 == value then none
      else some ({ condition with values := condition.values ++ [(text, value)] } :: rest)
    else (addValue? name number text value rest).map (condition :: ·)

/-- Links the reference columns of a subfield, pair by pair. -/
def linkConditions (c : LinkContext) (sub : FieldRow) (conditions : List Condition) :
    List (String × String) → Except Fault (List Condition)
  | [] => .ok conditions
  | (name, text) :: rest =>
    match c.main? name with
    | none => .error (c.fieldFault sub (.referenceUnknown name))
    | some reference =>
      if reference.number = sub.number then
        .error (c.fieldFault sub (.referenceToItself name))
      else do
        let value ← c.referenceValue sub reference text
        match addValue? name reference.number text value conditions with
        | none => throw (c.fieldFault sub (.duplicateReferenceValue text name))
        | some conditions => linkConditions c sub conditions rest

end LinkContext

end FitProfile
