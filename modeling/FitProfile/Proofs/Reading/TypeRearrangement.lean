import FitProfile.Proofs.Linking.TypePlaces
import FitProfile.Proofs.Reading.Places
/-!
# FitProfile.Proofs.Reading.TypeRearrangement -- types of the Types sheet in another order

The Types sheet is read row by row, and a value belongs to the type above it. So a type with all
rows up to the next one is a block that can be moved: `typeOf?` reads the type of a block by
itself, with no regard to its place. `readsType_of_read` proves that a sheet is read to the types
of its blocks, and `exists_read_rearranged` that it is still read when the blocks are moved.
-/

namespace FitProfile

open FitProfile.Draft FitProfile.Outcome

namespace Layout

/-- Rows of the Types sheet that open a type. -/
def isType (l : Layout) (rules : RuleSet) (row : List String) : Bool :=
  l.under rules.typesColumns row TypesColumn.typeName.key != ""

/-- The blocks of the Types sheet: each row that opens a type, with the rows up to the next
one. -/
def typeBlocks (l : Layout) (rules : RuleSet) : List (List String × List (List String)) :=
  (cutBlocks (l.isType rules) l.below).2

/-- The reader of a Types sheet around the header row. -/
def typesReader (l : Layout) (rules : RuleSet) (name : String) : SheetReader :=
  l.reader rules.typesColumns name rules.hexValues

/-- The type that the rows of a block state by themselves, without its place. -/
def typeOf? (l : Layout) (rules : RuleSet) (name : String)
    (block : List String × List (List String)) : Option TypeDef :=
  (TypesSheet.readType (l.typesReader rules name)
    (Prod.map (Row.mk 0) (List.map (Row.mk 0)) block)).outcome.toOption.bind TypeTable.stated?

end Layout

namespace Draft.TypesSheet

open Layout SheetReader

variable {rules : RuleSet} {name : String} {l : Layout}

/-- The rows below the header are read to the same types with and without their places. -/
theorem corresponds_readRows_placeless (rules : RuleSet) (name : String) (l : Layout) :
    Corresponds (fun _ => 0) (List.map (TypeBlock.moved fun _ => 0))
      (readRows (l.typesReader rules name) (numbered (l.above.length + 1) l.below)).outcome
      (readRows (l.typesReader rules name) l.placeless).outcome := by
  refine (corresponds_readRows (Layout.agrees_reader ..) ?_).outcome
  refine List.rel_filter (fun row row' hrow => ?_)
    ((forall₂_numbered_placeless l rules.typesColumns _ l.below).imp fun row row' hrow => ?_)
  · simp only [isSignificant, SaysSame.isTypeRow hrow, SaysSame.isValueRow hrow]
  · exact ⟨hrow.index, fun key => by simp only [get_reader, hrow.cells]⟩

theorem isTypeRow_placeless :
    isTypeRow (l.typesReader rules name) ∘ Row.mk 0 = l.isType rules := by
  funext row
  simp [isTypeRow, typesReader, get_reader, Layout.isType]

theorem cutBlocks_placeless (below : List (List String)) :
    cutBlocks (isTypeRow (l.typesReader rules name)) (below.map (Row.mk 0)) =
      ((cutBlocks (l.isType rules) below).1.map (Row.mk 0),
        (cutBlocks (l.isType rules) below).2.map (Prod.map (Row.mk 0) (List.map (Row.mk 0)))) := by
  rw [cutBlocks_map, isTypeRow_placeless]

/-- A block is read to a type by itself, but for the places. -/
def ReadsType (l : Layout) (rules : RuleSet) (name : String)
    (block : List String × List (List String)) (type : TypeBlock) : Prop :=
  (readType (l.typesReader rules name)
    (Prod.map (Row.mk 0) (List.map (Row.mk 0)) block)).outcome = .ok (type.moved fun _ => 0)

section Blocks

variable {block : List String × List (List String)} {type : TypeBlock}

theorem ReadsType.name_eq (h : ReadsType l rules name block type) :
    type.name = l.under rules.typesColumns block.1 TypesColumn.typeName.key := by
  obtain ⟨-, values, -, htype⟩ := readType_eq_ok.mp h
  have hname := congrArg TypeBlock.name htype
  rw [typesReader, get_reader] at hname
  exact hname

theorem ReadsType.typeOf?_eq (h : ReadsType l rules name block type) :
    l.typeOf? rules name block = TypeTable.stated? type := by
  rw [← TypeTable.stated?_moved (fun _ => 0), typeOf?, h]
  rfl

/-- A block that is read to a type states a type of its name. -/
theorem ReadsType.exists_typeOf? (h : ReadsType l rules name block type) :
    ∃ stated, l.typeOf? rules name block = some stated ∧
      stated.name = l.under rules.typesColumns block.1 TypesColumn.typeName.key := by
  obtain ⟨hknown, values, -, htype⟩ := readType_eq_ok.mp h
  have hbase : type.baseType =
      (l.typesReader rules name).get ⟨0, block.1⟩ TypesColumn.baseType.key :=
    congrArg TypeBlock.baseType htype
  change (BaseType.ofName? ((l.typesReader rules name).get ⟨0, block.1⟩ _)).isSome at hknown
  rw [← hbase] at hknown
  obtain ⟨stated, hstated⟩ := TypeTable.ofBlock_of_known hknown
  refine ⟨stated.content, ?_, ?_⟩
  · rw [h.typeOf?_eq, TypeTable.stated?, hstated]
    rfl
  · rw [← h.name_eq, ← (TypeTable.ofBlock_eq_ok hstated).1]
    rfl

theorem filterMap_typeOf? {blocks : List (List String × List (List String))}
    {types : List TypeBlock} (h : List.Forall₂ (ReadsType l rules name) blocks types) :
    blocks.filterMap (l.typeOf? rules name) = types.filterMap TypeTable.stated? := by
  induction h with
  | nil => rfl
  | cons hblock _ ih => rw [List.filterMap_cons, List.filterMap_cons, hblock.typeOf?_eq, ih]

end Blocks

/-- The rows of a sheet without their places are read when no value stands in front of the first
type and each block is read by itself. -/
theorem readRows_placeless_eq_ok {types : List TypeBlock} :
    (readRows (l.typesReader rules name) l.placeless).outcome =
        .ok (types.map (TypeBlock.moved fun _ => 0)) ↔
      (∀ row ∈ (cutBlocks (l.isType rules) l.below).1,
        isValueRow (l.typesReader rules name) ⟨0, row⟩ = false) ∧
        List.Forall₂ (ReadsType l rules name) (l.typeBlocks rules) types := by
  rw [readRows_eq_ok, placeless, cutBlocks_placeless, List.forall₂_map_left_iff,
    List.forall₂_map_right_iff, List.forall_mem_map]
  rfl

theorem readRows_placeless_of_read (hleads : l.Leads) {types : List TypeBlock}
    (h : (read rules (.ofCells name l.rows)).outcome = .ok types) :
    (readRows (l.typesReader rules name) l.placeless).outcome =
      .ok (types.map (TypeBlock.moved fun _ => 0)) := by
  have hread := corresponds_readRows_placeless rules name l
  rw [typesReader, ((read_ofCells_eq_ok hleads).mp h).2] at hread
  exact hread.eq_ok

/-- A sheet is read to the types of its blocks. -/
theorem readsType_of_read (hleads : l.Leads) {types : List TypeBlock}
    (h : (read rules (.ofCells name l.rows)).outcome = .ok types) :
    List.Forall₂ (ReadsType l rules name) (l.typeBlocks rules) types :=
  (readRows_placeless_eq_ok.mp (readRows_placeless_of_read hleads h)).2

/-- With its blocks moved, a sheet is still read. -/
theorem exists_read_rearranged (hleads : l.Leads) {below : List (List String)}
    (hlead : (cutBlocks (l.isType rules) below).1 = (cutBlocks (l.isType rules) l.below).1)
    (hblocks : (l.typeBlocks rules).Perm (typeBlocks { l with below := below } rules))
    {types : List TypeBlock} (h : (read rules (.ofCells name l.rows)).outcome = .ok types) :
    ∃ types', (read rules (.ofCells name { l with below := below }.rows)).outcome = .ok types' := by
  obtain ⟨hmissing, -⟩ := (read_ofCells_eq_ok hleads).mp h
  obtain ⟨hnone, hall⟩ := readRows_placeless_eq_ok.mp (readRows_placeless_of_read hleads h)
  obtain ⟨types', hall', -⟩ := List.perm_comp_forall₂ hblocks.symm hall
  have hleads' : Leads { l with below := below } := ⟨hleads.above, hleads.header⟩
  rw [← hlead] at hnone
  have hread := corresponds_readRows_placeless rules name { l with below := below }
  rw [readRows_placeless_eq_ok.mpr ⟨hnone, hall'⟩] at hread
  obtain ⟨placed, hplaced, -⟩ := hread.exists_eq_ok
  exact ⟨placed, (read_ofCells_eq_ok hleads').mpr ⟨hmissing, hplaced⟩⟩

end Draft.TypesSheet

end FitProfile
