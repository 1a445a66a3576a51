import FitProfile.Model.Basic
import FitProfile.RuleSet.Basic
import FitProfile.Order.Insertion
import FitProfile.Fault
/-!
# FitProfile.Model.TypeTable -- the types of a model

The types of a model are the declared ones in the order of the workbook, then those of
the implicit types of the rule set that the workbook does not declare, by name. No two
types share a name. Where a type of the model has the name of a base type, it stands in
front of it.
-/

namespace FitProfile

namespace TypeTable

/-- The type of a name in a table. -/
def find? (types : List TypeDef) (name : String) : Option TypeDef :=
  types.find? fun t => t.name == name

/-- What a type name refers to: a type of the table, or else a base type. -/
def lookup? (types : List TypeDef) (name : String) : Option FieldType :=
  match find? types name with
  | some type => some (.declared type)
  | none => (BaseType.ofName? name).map .base

/-- The base type of a name. -/
def baseNamed (name : String) : Except Fault BaseType :=
  match BaseType.ofName? name with
  | some base => .ok base
  | none => .error (.baseTypeNotDefined name)

/-- A declared type. -/
def ofBlock (block : Draft.TypeBlock) : Except Fault TypeDef := do
  let base ← baseNamed block.baseType
  return { name := block.name, base := base
           values := block.values.map fun v =>
             ⟨v.name, v.value, if v.comment.toList.isEmpty then none else some v.comment⟩
           comment := if block.comment.toList.isEmpty then none else some block.comment
           row := some block.row }

/-- Adds declared types to the types `known`. -/
def addDeclared (sheet : Option String) (known : List TypeDef) :
    List Draft.TypeBlock → Except Fault (List TypeDef)
  | [] => .ok known
  | block :: rest =>
    if (find? known block.name).isSome then
      .error (.ofIntegrity (.duplicateType block.name)
        { sheet := sheet, row := some block.row })
    else do
      let type ← ofBlock block
      addDeclared sheet (known ++ [type]) rest

/-- Adds implicit types that are not among the types `known`. -/
def addImplicit (known : List TypeDef) : List (String × String) → Except Fault (List TypeDef)
  | [] => .ok known
  | (name, baseName) :: rest =>
    if (find? known name).isSome then addImplicit known rest
    else do
      let base ← baseNamed baseName
      addImplicit (known ++ [⟨name, base, [], none, none⟩]) rest

/-- The types of a model. -/
def ofDraft (rules : RuleSet) (blocks : List Draft.TypeBlock) : Except Fault (List TypeDef) := do
  let declared ← addDeclared rules.typesSheet [] blocks
  addImplicit declared (Order.sortBy (fun a b => decide (a.1 ≤ b.1)) rules.implicitTypes)

end TypeTable

end FitProfile
