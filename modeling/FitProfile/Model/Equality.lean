import FitProfile.Model.Basic
/-!
# FitProfile.Model.Equality -- when two records are the same

Two records are the same when all their parts are; types are compared by what they hold.
Numbers are compared by value, and what is no number equals nothing. Records in a list
that two records share are not looked into again: a part of a record is the same as
itself, whatever it holds. `shared` says that the two records are one and the same.
-/

namespace FitProfile

open FitProfile.Number

/-- Optional quantities of the same value. -/
def sameQuantity : Option Quantity → Option Quantity → Bool
  | none, none => true
  | some a, some b => a.sameValue b
  | _, _ => false

namespace Scaling

/-- Scalings with the same parts. -/
def same (a b : Scaling) : Bool :=
  sameQuantity a.scale b.scale && sameQuantity a.offset b.offset && a.units == b.units &&
    a.accumulate == b.accumulate

end Scaling

namespace Slice

/-- Slices with the same parts. -/
def same (a b : Slice) : Bool :=
  a.name == b.name && a.number == b.number && a.bits == b.bits && a.bitOffset == b.bitOffset &&
    a.scaling.same b.scaling

/-- Lists of slices with the same parts. -/
def sameAll : List Slice → List Slice → Bool
  | [], [] => true
  | a :: as, b :: bs => a.same b && sameAll as bs
  | _, _ => false

end Slice

namespace FieldType

/-- References to the same type. -/
def same : FieldType → FieldType → Bool
  | .base a, .base b => a == b
  | .declared a, .declared b => a == b
  | .foreign a, .foreign b => a == b
  | .invalid a, .invalid b => a.written == b.written
  | _, _ => false

end FieldType

namespace Shape

/-- Shapes with the same parts. -/
def same (shared : Bool) : Shape → Shape → Bool
  | .plain, .plain => true
  | .array a, .array b => a == b
  | .packed a slices, .packed b others => a == b && (shared || Slice.sameAll slices others)
  | .unknown a, .unknown b => a.written == b.written
  | _, _ => false

end Shape

namespace SingleField

/-- Fields with the same parts. -/
def same (shared : Bool) (a b : SingleField) : Bool :=
  a.number == b.number && a.name == b.name && a.type.same b.type && a.scaling.same b.scaling &&
    a.comment == b.comment && a.shape.same shared b.shape

end SingleField

namespace Field

mutual

/-- Fields with the same parts. -/
def same (shared : Bool) : Field → Field → Bool
  | .single a, .single b => a.same shared b
  | .dynamic a variants, .dynamic b others =>
    same shared a b && (shared || sameVariants variants others)
  | _, _ => false

/-- Variants with the same fields and conditions. -/
def sameVariants : List (Field × List Condition) → List (Field × List Condition) → Bool
  | [], [] => true
  | (a, conditions) :: rest, (b, others) :: more =>
    same false a b && conditions == others && sameVariants rest more
  | _, _ => false

end

/-- Lists of fields with the same parts. -/
def sameAll : List Field → List Field → Bool
  | [], [] => true
  | a :: as, b :: bs => a.same false b && sameAll as bs
  | _, _ => false

end Field

namespace Message

/-- Messages with the same parts. -/
def same (shared : Bool) (a b : Message) : Bool :=
  a.name == b.name && a.number == b.number && (shared || Field.sameAll a.fields b.fields) &&
    a.row == b.row

end Message

namespace Model

/-- Whether two names stand for the same type. -/
def sameType (model : Model) (a b : String) : Bool := model.type? a == model.type? b

/-- Whether two names stand for the same message. -/
def sameMessage (model : Model) (a b : String) : Bool :=
  match model.message? a, model.message? b with
  | some x, some y => x.same (a == b) y
  | none, none => true
  | _, _ => false

/-- The field of a number in the message of a name. -/
def field? (model : Model) (message : String) (number : Int) : Option Field :=
  (model.message? message).bind fun m => m.field? number

/-- Whether two numbers stand for the same field, each in a message. -/
def sameField (model : Model) (a : String) (m : Int) (b : String) (n : Int) : Bool :=
  match model.field? a m, model.field? b n with
  | some x, some y => x.same (a == b && m == n) y
  | none, none => true
  | _, _ => false

end Model

end FitProfile
