import FitProfile.Draft.Basic
import FitProfile.Literal
/-!
# FitProfile.Model.Basic -- a profile with its references linked

A model has types, messages by ascending number, and the message numbers that no message
uses. A field has one of four shapes. It is plain, an array, or packed: its bits carry
the slices of other fields. A dynamic field has a default and variants, each of which
stands in for the default while reference fields hold certain values.

Models can also be made by hand. So a field may refer to a type that is not the model's
or to no type at all, its shape may be unknown, and dynamic fields may be nested; none of
this arises from linking a draft.
-/

namespace FitProfile

open FitProfile.Number

/-- A named value of a type. -/
structure TypeValue where
  name : String
  value : Int
  comment : Option String
  deriving DecidableEq, Repr

/-- A type of the profile over a base type. -/
structure TypeDef where
  name : String
  base : BaseType
  values : List TypeValue
  comment : Option String
  row : Option Int
  deriving DecidableEq, Repr

/-- What a field refers to as its type. -/
inductive FieldType where
  /-- A base type. -/
  | base (b : BaseType)
  /-- A type that the model declares. -/
  | declared (t : TypeDef)
  /-- A type that the model does not declare, even if it declares one of that name. -/
  | foreign (name : String)
  /-- No type. -/
  | invalid (value : Literal)
  deriving Inhabited

/-- How a stored number relates to the quantity it stands for. -/
structure Scaling where
  scale : Option Quantity
  offset : Option Quantity
  units : Option String
  accumulate : Bool
  deriving DecidableEq, Repr, Inhabited

/-- Bits of a packed field that carry another field. -/
structure Slice where
  name : String
  number : Int
  bits : Int
  bitOffset : Int
  scaling : Scaling
  deriving DecidableEq, Repr

/-- The shape of a field that is not dynamic. -/
inductive Shape where
  | plain
  | array (extent : Option Extent)
  | packed (extent : Option Extent) (slices : List Slice)
  | unknown (kind : Literal)
  deriving Inhabited

/-- A field that is not dynamic. -/
structure SingleField where
  number : Int
  name : String
  type : FieldType
  scaling : Scaling
  comment : Option String
  shape : Shape
  deriving Inhabited

/-- Values of a reference field, each by its text and as a number. -/
structure Condition where
  name : String
  number : Int
  values : List (String × Int)
  deriving DecidableEq, Repr

/-- A field of a message. -/
inductive Field where
  | single (field : SingleField)
  | dynamic (standard : Field) (variants : List (Field × List Condition))
  deriving Inhabited

/-- A message with its fields. -/
structure Message where
  name : String
  number : Int
  fields : List Field
  row : Int

/-- A profile with its references linked. -/
structure Model where
  version : Version
  types : List TypeDef
  messages : List Message
  unmatched : List String

namespace TypeDef

/-- Types with named values. -/
def isEnumerated (type : TypeDef) : Bool := !type.values.isEmpty

/-- The first value of a name. -/
def valueOf? (type : TypeDef) (name : String) : Option Int :=
  (type.values.find? fun v => v.name == name).map TypeValue.value

/-- The first name of a value. -/
def nameOf? (type : TypeDef) (value : Int) : Option String :=
  (type.values.find? fun v => v.value == value).map TypeValue.name

end TypeDef

namespace FieldType

/-- The base type behind a type. -/
def base? : FieldType → Option BaseType
  | .base b => some b
  | .declared t => some t.base
  | _ => none

/-- The name of a type. -/
def name : FieldType → String
  | .base b => b.name
  | .declared t => t.name
  | .foreign name => name
  | .invalid value => value.shown

end FieldType

namespace Field

/-- The field that gives a field its number, name and type: the innermost default. -/
def lead : Field → SingleField
  | .single field => field
  | .dynamic standard _ => standard.lead

/-- The number of a field. -/
def number (field : Field) : Int := field.lead.number

/-- The name of a field. -/
def name (field : Field) : String := field.lead.name

end Field

namespace Message

/-- The first field of a number. -/
def field? (message : Message) (number : Int) : Option Field :=
  message.fields.find? fun f => f.number == number

end Message

namespace Model

/-- The first type of a name. -/
def type? (model : Model) (name : String) : Option TypeDef :=
  model.types.find? fun t => t.name == name

/-- The first message of a name. -/
def message? (model : Model) (name : String) : Option Message :=
  model.messages.find? fun m => m.name == name

/-- A reference to one of several types by its place: where a later type has the same
name, that one is the model's and the reference leads to a foreign type. -/
def typeAt? : List TypeDef → Nat → Option FieldType
  | [], _ => none
  | type :: rest, 0 =>
    if rest.any fun later => later.name == type.name then some (.foreign type.name)
    else some (.declared type)
  | _ :: rest, i + 1 => typeAt? rest i

end Model

end FitProfile
