import FitProfile.Model.OfDraft
import Mathlib.Algebra.Ring.Int.Defs
/-!
# FitProfile.Proofs.Linking.Consistent -- drafts without a contradiction

A draft is consistent when its names mean something and nothing is said twice. This is
stated here row by row, without the order in which linking looks at the rows and without
the faults it names: what a type name stands for, which numbers a reference column
selects, and what each type, message, field and subfield must then fulfil.
-/

namespace FitProfile

open FitProfile.Draft

/-! ## What type names stand for -/

/-- What a type name stands for: a base type, and the numbers that have names. -/
structure Meaning where
  base : BaseType
  values : List (String × Int)
  deriving DecidableEq, Repr

namespace Meaning

/-- The number that a text stands for: the first value of that name, or else an integer
in the range of the base type, if that has one. -/
def read? (m : Meaning) (text : String) : Option Int :=
  (m.values.lookup text).or <| m.base.range?.bind fun range =>
    (Number.literal? text).filter fun n => range.1 ≤ n ∧ n ≤ range.2

end Meaning

namespace Draft

/-- What a declared or an implicit type stands for; a declaration comes first. -/
def declared? (rules : RuleSet) (draft : Draft) (name : String) : Option Meaning :=
  match draft.types.find? fun t => t.name == name with
  | some block => (BaseType.ofName? block.baseType).map fun base =>
      ⟨base, block.values.map fun v => (v.name, v.value)⟩
  | none => (rules.implicitTypes.lookup name).bind fun base =>
      (BaseType.ofName? base).map fun base => ⟨base, []⟩

/-- What a type name stands for: a declared type, an implicit one, or a base type. -/
def meaning? (rules : RuleSet) (draft : Draft) (name : String) : Option Meaning :=
  (draft.declared? rules name).or ((BaseType.ofName? name).map fun base => ⟨base, []⟩)

/-- What the type that numbers the messages stands for. -/
def numbering? (rules : RuleSet) (draft : Draft) : Option Meaning :=
  rules.messageNumberType.bind (draft.declared? rules)

/-- The number of a message name: the first value of that name. -/
def messageNumber? (rules : RuleSet) (draft : Draft) (message : String) : Option Int :=
  (draft.numbering? rules).bind fun m => m.values.lookup message

end Draft

/-! ## Fields and their references -/

namespace Width

/-- Whether a width leaves room for the bits below `total`. -/
def Admits : Width → Int → Prop
  | .unbounded, _ => True
  | .bits n, total => total ≤ n
  | .real x, total => x.isLessThan total = false
  | .unmeasured _, _ => False

end Width

namespace Extent

/-- What an array column can hold: nothing, a count, or the mark of an array that takes
the rest of the message. -/
def IsArraySize : Option Extent → Prop
  | none => True
  | some (.count _) => True
  | some extent => extent = .remaining

end Extent

namespace Draft

/-- The pairs of a reference field and a value that select a subfield. -/
def FieldRow.references (row : FieldRow) : List (String × String) := row.refNames.zip row.refValues

/-- The bits that the components of a field take together. -/
def FieldRow.componentBits (row : FieldRow) : Int := (row.components.map ComponentEntry.bits).sum

namespace MessageBlock

/-- All field rows of a message: each main field with its subfields. -/
def rows (message : MessageBlock) : List FieldRow :=
  message.fields.flatMap fun block => block.main :: block.subfields

/-- The first main field of a name. -/
def main? (message : MessageBlock) (name : String) : Option FieldRow :=
  (message.fields.find? fun block => block.main.name == name).map FieldBlock.main

/-- What a reference selects by: the number of the reference field, and the number that
the text stands for there. -/
def selector? (meaning : String → Option Meaning) (message : MessageBlock)
    (reference : String × String) : Option (Int × Int) := do
  let target ← message.main? reference.1
  let type ← meaning target.typeName
  let value ← type.read? reference.2
  return (target.number, value)

/-- The components of a field fit: the field is stored as integers, each component names
another main field and takes at least one bit, and together they have room. -/
structure Packs (meaning : String → Option Meaning) (message : MessageBlock) (row : FieldRow) :
    Prop where
  carrier : ∃ type, meaning row.typeName = some type ∧ type.base.isInteger = true ∧
    (Extent.width type.base row.extent).Admits row.componentBits
  targets : ∀ entry ∈ row.components,
    ∃ target, message.main? entry.name = some target ∧ target.number ≠ row.number
  positive : ∀ entry ∈ row.components, 0 < entry.bits

/-- Each reference of a subfield names another main field and a value it can hold. -/
def Selects (meaning : String → Option Meaning) (message : MessageBlock) (sub : FieldRow) : Prop :=
  ∀ reference ∈ sub.references,
    ∃ selector, message.selector? meaning reference = some selector ∧ selector.1 ≠ sub.number

/-- A message whose fields contradict neither each other nor the types; `meaning` says
what the type names stand for. -/
structure Consistent (meaning : String → Option Meaning) (message : MessageBlock) : Prop where
  numbers : (message.fields.map fun block => block.main.number).Nodup
  names : (message.fields.map fun block => block.main.name).Nodup
  unconditional : ∀ block ∈ message.fields, block.main.refNames = []
  typed : ∀ row ∈ message.rows, (meaning row.typeName).isSome
  packed : ∀ row ∈ message.rows, row.components ≠ [] → message.Packs meaning row
  selected : ∀ block ∈ message.fields, ∀ sub ∈ block.subfields, message.Selects meaning sub
  exclusive : ∀ block ∈ message.fields, (block.subfields.flatMap fun sub =>
    sub.references.map (message.selector? meaning)).Nodup

end MessageBlock

/-- A draft whose rows contradict neither each other nor the rule set. -/
structure Consistent (rules : RuleSet) (draft : Draft) : Prop where
  types : (draft.types.map TypeBlock.name).Nodup
  numbering : (draft.numbering? rules).isSome
  messages : (draft.messages.map MessageBlock.name).Nodup
  numbered : ∀ message ∈ draft.messages, ∃ number,
    draft.messageNumber? rules message.name = some number ∧
      ∀ declared, message.declaredNumber = some declared → declared = number
  numbers : (draft.messages.map fun message => draft.messageNumber? rules message.name).Nodup
  fields : ∀ message ∈ draft.messages, message.Consistent (draft.meaning? rules)

end Draft

end FitProfile
