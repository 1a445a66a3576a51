import FitProfile.Model.References
import FitProfile.Model.Slices
/-!
# FitProfile.Model.Fields -- linking fields

A field row becomes a plain, array or packed field. The slices of a packed field follow
one another from bit zero, in the order of the components. A main field with subfields
becomes a dynamic field; no value of a reference field may select two of its variants.
-/

namespace FitProfile

open FitProfile.Draft

namespace LinkContext

/-- Links the components of a field; `bitOffset` is the first free bit. -/
def linkComponents (c : LinkContext) (carrier : FieldRow) (bitOffset : Int) :
    List ComponentEntry → Except Fault (List Slice)
  | [] => .ok []
  | component :: rest =>
    match c.main? component.name with
    | none => .error (c.fieldFault carrier (.componentUnknown component.name))
    | some target =>
      if target.number = carrier.number then
        .error (c.fieldFault carrier (.componentOfItself component.name))
      else if component.bits ≤ 0 then
        .error (c.fieldFault carrier
          (.componentBitsNotPositive component.name component.bits))
      else do
        let slices ← linkComponents c carrier (bitOffset + component.bits) rest
        return { name := component.name, number := target.number, bits := component.bits
                 bitOffset := bitOffset
                 scaling := ⟨component.scale, component.offset, component.units,
                   component.accumulate⟩ } :: slices

/-- The slices of a field with components. -/
def linkSlices (c : LinkContext) (field : FieldRow) (type : FieldType) :
    Except Fault (List Slice) :=
  match type.base?.filter BaseType.isInteger with
  | none => .error (c.fieldFault field (.componentsOnNonInteger type.name))
  | some base => do
    let slices ← c.linkComponents field 0 field.components
    match Slice.check (Extent.width base field.extent) [] slices with
    | .ok () => return slices
    | .error fault => throw (fault.toFault field.name (c.fieldLocation field))

/-- The shape of a field. -/
def linkShape (c : LinkContext) (field : FieldRow) (type : FieldType) : Except Fault Shape :=
  if !field.components.isEmpty then (c.linkSlices field type).map (.packed field.extent)
  else match field.extent with
    | some extent => .ok (.array (some extent))
    | none => .ok .plain

/-- Links a field without regard to its reference columns. -/
def linkSingle (c : LinkContext) (field : FieldRow) : Except Fault SingleField :=
  match TypeTable.lookup? c.types field.typeName with
  | none => .error (c.fieldFault field (.fieldTypeUnknown field.typeName))
  | some type => do
    let shape ← c.linkShape field type
    return { number := field.number, name := field.name, type := type
             scaling := ⟨field.scale, field.offset, field.units, field.accumulate⟩
             comment := field.comment, shape := shape }

/-- A linked subfield with the row it comes from. -/
structure Variant where
  row : FieldRow
  field : SingleField
  conditions : List Condition

/-- Links a subfield. -/
def linkSubfield (c : LinkContext) (sub : FieldRow) : Except Fault Variant := do
  let field ← c.linkSingle sub
  let conditions ← c.linkConditions sub [] (sub.refNames.zip sub.refValues)
  return ⟨sub, field, conditions⟩

/-- Links subfields one after the other. -/
def linkSubfields (c : LinkContext) : List FieldRow → Except Fault (List Variant)
  | [] => .ok []
  | sub :: rest => do
    let variant ← c.linkSubfield sub
    let variants ← linkSubfields c rest
    return variant :: variants

/-- A value of a reference field that selects a variant. -/
structure Claim where
  row : FieldRow
  reference : String
  number : Int
  text : String
  value : Int

/-- The values that select a variant, condition by condition. -/
def Variant.claims (variant : Variant) : List Claim :=
  variant.conditions.flatMap fun condition =>
    condition.values.map fun v => ⟨variant.row, condition.name, condition.number, v.1, v.2⟩

/-- Checks that no claim repeats one of the claims `taken` before it. -/
def checkClaims (c : LinkContext) (taken : List Claim) : List Claim → Except Fault Unit
  | [] => .ok ()
  | claim :: rest =>
    match taken.find? fun t => t.number == claim.number && t.value == claim.value with
    | some earlier =>
      .error (c.fieldFault claim.row
        (.subfieldsClash earlier.row.name claim.row.name claim.reference claim.text))
    | none => checkClaims c (taken ++ [claim]) rest

/-- Links a main field with its subfields. -/
def linkBlock (c : LinkContext) (block : FieldBlock) : Except Fault Field := do
  if block.main.hasReference then
    throw (c.fieldFault block.main .referenceOnMainField)
  let field ← c.linkSingle block.main
  if block.subfields.isEmpty then return .single field
  let variants ← c.linkSubfields block.subfields
  c.checkClaims [] (variants.flatMap Variant.claims)
  return .dynamic (.single field) (variants.map fun v => (.single v.field, v.conditions))

/-- Links main fields one after the other. -/
def linkBlocks (c : LinkContext) : List FieldBlock → Except Fault (List Field)
  | [] => .ok []
  | block :: rest => do
    let field ← c.linkBlock block
    let fields ← linkBlocks c rest
    return field :: fields

/-- Checks that no main field has the number or the name of one of the fields `known`
before it. -/
def checkBlocks (c : LinkContext) (known : List FieldRow) : List FieldBlock → Except Fault Unit
  | [] => .ok ()
  | block :: rest =>
    match known.find? fun f => f.number == block.main.number with
    | some owner =>
      .error (c.fieldFault block.main (.duplicateFieldNumber block.main.number owner.name))
    | none =>
      if known.any fun f => f.name == block.main.name then
        .error (c.fieldFault block.main (.duplicateFieldName block.main.name))
      else checkBlocks c (known ++ [block.main]) rest

/-- The main fields of a message by ascending number. -/
def orderedBlocks (c : LinkContext) : List FieldBlock :=
  Order.sortBy (fun a b => decide (a.main.number ≤ b.main.number)) c.message.fields

/-- Links the fields of the message. -/
def linkFields (c : LinkContext) : Except Fault (List Field) := c.linkBlocks c.orderedBlocks

end LinkContext

end FitProfile
