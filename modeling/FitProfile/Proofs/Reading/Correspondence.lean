import FitProfile.Draft.MessagesSheet
import FitProfile.Draft.TypesSheet
import FitProfile.Proofs.Outcome
import Mathlib.Data.List.Forall2
/-!
# FitProfile.Proofs.Reading.Correspondence -- two sheets that say the same

A sheet is read by its columns, and a row enters the result only through its cells in those
columns and through its number. So two sheets whose rows agree in these cells are read
alike: the same blocks come out, or the same fault, and only the row numbers differ, as the
numbers of the rows do. `Corresponds` says this of two outcomes, and every reader carries
rows that say the same to outcomes that correspond.

Rows that open no block and hold no entry are left out of the comparison, since both sheets
skip them.
-/

namespace FitProfile

open FitProfile.Draft FitProfile.Number

/-! ## Moving rows -/

/-- A location after its row has moved. -/
def Location.moved (σ : Int → Int) (location : Location) : Location :=
  { location with row := location.row.map σ }

/-- Faults that are the same but for the rows they name. A contradiction is compared as it
is raised, since a number that is too long to write may be the number of the row. -/
inductive Fault.Moved (σ : Int → Int) : Fault → Fault → Prop where
  | input (cause : InputCause) (location : Location) :
    Moved σ (.input cause location) (.input cause (location.moved σ))
  | ofIntegrity (cause : IntegrityCause) (location : Location) :
    Moved σ (.ofIntegrity cause location) (.ofIntegrity cause (location.moved σ))
  | tooManyDigitsToRead (count : Nat) :
    Moved σ (.tooManyDigitsToRead count) (.tooManyDigitsToRead count)
  | tooManyDigitsToWrite : Moved σ .tooManyDigitsToWrite .tooManyDigitsToWrite

namespace Draft

/-- A value whose row has moved. -/
def ValueRow.moved (σ : Int → Int) (value : ValueRow) : ValueRow :=
  { value with row := σ value.row }

/-- A type whose rows have moved. -/
def TypeBlock.moved (σ : Int → Int) (type : TypeBlock) : TypeBlock :=
  { type with row := σ type.row, values := type.values.map (ValueRow.moved σ) }

/-- What a field row says, from where the row has moved to. -/
def FieldSpec.moved (σ : Int → Int) (spec : FieldSpec) : FieldSpec :=
  { spec with row := σ spec.row }

/-- A field whose row has moved. -/
def FieldRow.moved (σ : Int → Int) (field : FieldRow) : FieldRow :=
  ⟨field.toFieldSpec.moved σ, field.number⟩

/-- A main field and its subfields, their rows moved. -/
def FieldBlock.moved (σ : Int → Int) (block : FieldBlock) : FieldBlock :=
  ⟨block.main.moved σ, block.subfields.map (FieldRow.moved σ)⟩

/-- A message whose rows have moved. -/
def MessageBlock.moved (σ : Int → Int) (message : MessageBlock) : MessageBlock :=
  { message with row := σ message.row, fields := message.fields.map (FieldBlock.moved σ) }

end Draft

/-! ## Outcomes that correspond -/

/-- Outcomes that are the same but for the rows they name; `f` moves the rows of a result. -/
inductive Corresponds {α β : Type} (σ : Int → Int) (f : α → β) :
    Except Fault α → Except Fault β → Prop where
  | ok (a : α) : Corresponds σ f (.ok a) (.ok (f a))
  | error {fault fault' : Fault} (h : fault.Moved σ fault') :
    Corresponds σ f (.error fault) (.error fault')

namespace Corresponds

variable {α β γ δ : Type} {σ : Int → Int} {f : α → β} {g : γ → δ}
variable {x : Except Fault α} {x' : Except Fault β}

theorem bind {k : α → Except Fault γ} {k' : β → Except Fault δ} (hx : Corresponds σ f x x')
    (hk : ∀ a, Corresponds σ g (k a) (k' (f a))) : Corresponds σ g (x >>= k) (x' >>= k') := by
  cases hx with
  | ok a => exact hk a
  | error h => exact .error h

theorem map {k : α → γ} {k' : β → δ} (hx : Corresponds σ f x x')
    (hk : ∀ a, k' (f a) = g (k a)) : Corresponds σ g (x.map k) (x'.map k') := by
  cases hx with
  | ok a =>
    simp only [Except.map, hk]
    exact .ok _
  | error h => exact .error h

/-- A step that is refused on both sides, or on neither. -/
theorem check {p : Prop} [Decidable p] {fault fault' : Fault} {y : Except Fault γ}
    {y' : Except Fault δ} (hfault : fault.Moved σ fault') (hy : Corresponds σ g y y') :
    Corresponds σ g (if p then .error fault else y) (if p then .error fault' else y') := by
  split
  · exact .error hfault
  · exact hy

theorem eq_ok {a : α} (h : Corresponds σ f (.ok a) x') : x' = .ok (f a) := by
  cases h
  rfl

theorem exists_eq_ok {b : β} (h : Corresponds σ f x (.ok b)) : ∃ a, x = .ok a ∧ b = f a := by
  cases h with
  | ok a => exact ⟨a, rfl, rfl⟩

end Corresponds

/-- Notes that are the same, and outcomes that correspond. -/
structure Reported.Corresponds {α β : Type} (σ : Int → Int) (f : α → β) (x : Reported α)
    (x' : Reported β) : Prop where
  notes : x'.notes = x.notes
  outcome : FitProfile.Corresponds σ f x.outcome x'.outcome

namespace Reported

variable {α β γ δ : Type} {σ : Int → Int} {f : α → β} {g : γ → δ}
variable {x : Reported α} {x' : Reported β}

theorem corresponds_ofExcept {y : Except Fault α} {y' : Except Fault β}
    (h : FitProfile.Corresponds σ f y y') :
    Reported.Corresponds σ f (ofExcept y) (ofExcept y') := ⟨rfl, h⟩

theorem corresponds_pure (a : α) : Reported.Corresponds σ f (pure a) (pure (f a)) :=
  ⟨rfl, .ok a⟩

theorem corresponds_note (n : Note) : Reported.Corresponds σ id (note n) (note n) :=
  ⟨rfl, .ok ()⟩

theorem Corresponds.bind {k : α → Reported γ} {k' : β → Reported δ}
    (hx : Reported.Corresponds σ f x x') (hk : ∀ a, Reported.Corresponds σ g (k a) (k' (f a))) :
    Reported.Corresponds σ g (x >>= k) (x' >>= k') := by
  obtain ⟨notes, outcome⟩ := x
  obtain ⟨notes', outcome'⟩ := x'
  obtain ⟨rfl, houtcome⟩ := hx
  cases houtcome with
  | ok a =>
    rw [bind_ok, bind_ok]
    exact ⟨congrArg _ (hk a).notes, (hk a).outcome⟩
  | error h => exact ⟨rfl, .error h⟩

end Reported

/-! ## Rows that say the same -/

/-- Readers of sheets of the same name and with the same labels. -/
structure SheetReader.Agrees (r r' : SheetReader) : Prop where
  sheet : r'.sheet = r.sheet
  labels : r'.columns.labels = r.columns.labels
  hexValues : r'.hexValues = r.hexValues

/-- Rows with the same cells in the columns that are read. -/
structure SheetReader.SaysSame (σ : Int → Int) (r r' : SheetReader) (row row' : Row) : Prop where
  index : (row'.index : Int) = σ row.index
  cells : ∀ key, r'.get row' key = r.get row key

namespace SheetReader

variable {σ : Int → Int} {r r' : SheetReader} {row row' : Row}

theorem Agrees.label (hr : r.Agrees r') (key : String) :
    r'.columns.label key = r.columns.label key := by
  rw [Columns.label, Columns.label, hr.labels]

section Faults

variable (hr : r.Agrees r') (hrow : SaysSame σ r r' row row')
include hr hrow

theorem moved_fault (key : String) (cause : InputCause) :
    (r.fault row key cause).Moved σ (r'.fault row' key cause) := by
  simp only [fault, hr.sheet, hr.label, hrow.index]
  exact .input cause _

theorem moved_messageFault (key message : String) (cause : InputCause) :
    (r.messageFault row key message cause).Moved σ (r'.messageFault row' key message cause) := by
  simp only [messageFault, hr.sheet, hr.label, hrow.index]
  exact .input cause _

theorem moved_fieldFault (key message field : String) (cause : InputCause) :
    (r.fieldFault row key message field cause).Moved σ
      (r'.fieldFault row' key message field cause) := by
  simp only [fieldFault, hr.sheet, hr.label, hrow.index]
  exact .input cause _

theorem corresponds_readInteger (key text : String) :
    Corresponds σ id (r.readInteger row key text) (r'.readInteger row' key text) := by
  unfold readInteger
  rw [hr.hexValues]
  split
  · exact .ok _
  · exact .error (moved_fault hr hrow ..)

theorem corresponds_readNumber (key text : String) :
    Corresponds σ id (r.readNumber row key text) (r'.readNumber row' key text) := by
  unfold readNumber
  split
  · exact .ok _
  · split
    · exact .ok _
    · exact .error (moved_fault hr hrow ..)

theorem corresponds_readFlag (key text : String) :
    Corresponds σ id (r.readFlag row key text) (r'.readFlag row' key text) := by
  unfold readFlag
  split
  · exact .ok _
  · split
    · exact .ok _
    · exact .error (moved_fault hr hrow ..)

end Faults

end SheetReader

/-! ## Cutting rows that say the same -/

section Cutting

variable {α β : Type} {R : α → β → Prop} {isHead : α → Bool} {isHead' : β → Bool}

/-- Rows that are related one by one are cut into blocks that are. -/
theorem forall₂_cutBlocks (hhead : ∀ a b, R a b → isHead' b = isHead a) {rows : List α}
    {rows' : List β} (h : List.Forall₂ R rows rows') :
    List.Forall₂ R (cutBlocks isHead rows).1 (cutBlocks isHead' rows').1 ∧
      List.Forall₂ (fun block block' => R block.1 block'.1 ∧ List.Forall₂ R block.2 block'.2)
        (cutBlocks isHead rows).2 (cutBlocks isHead' rows').2 := by
  induction h with
  | nil => exact ⟨.nil, .nil⟩
  | cons hab _ ih =>
    unfold cutBlocks
    rw [hhead _ _ hab]
    dsimp only
    split
    · exact ⟨.nil, .cons ⟨hab, ih.1⟩ ih.2⟩
    · exact ⟨.cons hab ih.1, ih.2⟩

/-- Leaving out rows that are no heads leaves them out of the blocks. -/
theorem cutBlocks_filter {p : α → Bool} (hhead : ∀ a, isHead a = true → p a = true)
    (rows : List α) :
    cutBlocks isHead (rows.filter p) = ((cutBlocks isHead rows).1.filter p,
      (cutBlocks isHead rows).2.map fun block => (block.1, block.2.filter p)) := by
  induction rows with
  | nil => rfl
  | cons row rest ih =>
    by_cases hp : p row = true
    · rw [List.filter_cons_of_pos hp]
      by_cases hrow : isHead row = true <;> simp [cutBlocks, hrow, ih, hp]
    · rw [List.filter_cons_of_neg hp]
      have hrow : isHead row = false := Bool.eq_false_iff.mpr fun h => hp (hhead _ h)
      simp [cutBlocks, hrow, ih, hp]

/-- The first of related elements that fulfil a condition are related. -/
theorem forall₂_find? {p : α → Bool} {p' : β → Bool} (hp : ∀ a b, R a b → p' b = p a)
    {list : List α} {list' : List β} (h : List.Forall₂ R list list') :
    Option.Rel R (list.find? p) (list'.find? p') := by
  induction h with
  | nil => exact .none
  | cons hab _ ih =>
    rw [List.find?_cons, List.find?_cons, hp _ _ hab]
    split
    · exact .some hab
    · exact ih

/-- What fails a condition is not needed to find or to keep what fulfils a stronger one. -/
theorem find?_filter_of_imp {p q : α → Bool} (h : ∀ a, q a = true → p a = true) (list : List α) :
    (list.filter p).find? q = list.find? q := by
  rw [List.find?_filter]
  congr 1
  funext a
  by_cases hq : q a = true <;> simp [hq, h]

theorem filter_filter_of_imp {p q : α → Bool} (h : ∀ a, q a = true → p a = true)
    (list : List α) : (list.filter p).filter q = list.filter q := by
  rw [List.filter_filter]
  congr 1
  funext a
  by_cases hq : q a = true <;> simp [hq, h]

end Cutting

namespace Draft

open SheetReader

variable {σ : Int → Int} {r r' : SheetReader} {row row' : Row}

/-! ## The Types sheet -/

namespace TypesSheet

/-- Rows that enter the result. -/
def isSignificant (r : SheetReader) (row : Row) : Bool := isTypeRow r row || isValueRow r row

theorem SaysSame.isTypeRow (hrow : SaysSame σ r r' row row') :
    TypesSheet.isTypeRow r' row' = TypesSheet.isTypeRow r row := by
  simp only [TypesSheet.isTypeRow, hrow.cells]

theorem SaysSame.isValueRow (hrow : SaysSame σ r r' row row') :
    TypesSheet.isValueRow r' row' = TypesSheet.isValueRow r row := by
  simp only [TypesSheet.isValueRow, hrow.cells]

theorem corresponds_readValue (hr : r.Agrees r') (hrow : SaysSame σ r r' row row') :
    Corresponds σ (ValueRow.moved σ) (readValue r row) (readValue r' row') := by
  simp only [readValue, hrow.cells, hrow.index]
  split
  · exact .error (moved_fault hr hrow ..)
  · exact (corresponds_readInteger hr hrow ..).bind fun value => .ok _

theorem corresponds_compareWith (hr : r.Agrees r') (type : String) (value : ValueRow)
    (known : List ValueRow) :
    Reported.Corresponds σ id (compareWith r type value known)
      (compareWith r' type (value.moved σ) (known.map (ValueRow.moved σ))) := by
  induction known with
  | nil => exact Reported.corresponds_pure ()
  | cons earlier rest ih =>
    simp only [List.map_cons, compareWith, ValueRow.moved, hr.sheet]
    split
    · exact Reported.corresponds_ofExcept (.error (.ofIntegrity _ _))
    · split
      · split
        · exact (Reported.corresponds_note _).bind fun _ => ih
        · exact Reported.corresponds_ofExcept (.error .tooManyDigitsToWrite)
      · exact ih

theorem corresponds_readValues (hr : r.Agrees r') (type : String) {rows rows' : List Row}
    (hrows : List.Forall₂ (SaysSame σ r r') rows rows') (known : List ValueRow) :
    Reported.Corresponds σ (List.map (ValueRow.moved σ)) (readValues r type known rows)
      (readValues r' type (known.map (ValueRow.moved σ)) rows') := by
  induction hrows generalizing known with
  | nil => exact Reported.corresponds_pure known
  | cons hrow _ ih =>
    simp only [readValues, SaysSame.isValueRow hrow]
    split
    · refine (Reported.corresponds_ofExcept (corresponds_readValue hr hrow)).bind fun value => ?_
      refine (corresponds_compareWith hr type value known).bind fun _ => ?_
      simpa using ih (known ++ [value])
    · exact ih known

end TypesSheet

/-- Blocks of rows that say the same. -/
def SaysSameBlock (σ : Int → Int) (r r' : SheetReader) (block block' : Row × List Row) : Prop :=
  SaysSame σ r r' block.1 block'.1 ∧ List.Forall₂ (SaysSame σ r r') block.2 block'.2

namespace TypesSheet

theorem corresponds_readType (hr : r.Agrees r') {block block' : Row × List Row}
    (hblock : SaysSameBlock σ r r' block block') :
    Reported.Corresponds σ (TypeBlock.moved σ) (readType r block) (readType r' block') := by
  obtain ⟨hhead, hrows⟩ := hblock
  simp only [readType, hhead.cells, hhead.index]
  have hvalues : Reported.Corresponds σ (TypeBlock.moved σ) (do
      let values ← readValues r (r.get block.1 TypesColumn.typeName.key) [] block.2
      return (⟨r.get block.1 TypesColumn.typeName.key, r.get block.1 TypesColumn.baseType.key,
        r.get block.1 TypesColumn.comment.key, block.1.index, values⟩ : TypeBlock)) (do
      let values ← readValues r' (r.get block.1 TypesColumn.typeName.key) [] block'.2
      return (⟨r.get block.1 TypesColumn.typeName.key, r.get block.1 TypesColumn.baseType.key,
        r.get block.1 TypesColumn.comment.key, σ block.1.index, values⟩ : TypeBlock)) :=
    (corresponds_readValues hr _ hrows []).bind fun values => Reported.corresponds_pure _
  split
  · exact (Reported.corresponds_ofExcept (f := id) (.error (moved_fault hr hhead ..))).bind
      fun _ => hvalues
  · exact hvalues

theorem corresponds_readTypes (hr : r.Agrees r') {blocks blocks' : List (Row × List Row)}
    (hblocks : List.Forall₂ (SaysSameBlock σ r r') blocks blocks') :
    Reported.Corresponds σ (List.map (TypeBlock.moved σ)) (readTypes r blocks)
      (readTypes r' blocks') := by
  induction hblocks with
  | nil => exact Reported.corresponds_pure []
  | cons hblock _ ih =>
    refine (corresponds_readType hr hblock).bind fun type => ?_
    exact ih.bind fun types => Reported.corresponds_pure (type :: types)

/-- Rows without a value name add nothing to a type. -/
theorem readValues_filter (type : String) (known : List ValueRow) {p : Row → Bool}
    (hp : ∀ row, isValueRow r row = true → p row = true) (rows : List Row) :
    readValues r type known (rows.filter p) = readValues r type known rows := by
  induction rows generalizing known with
  | nil => rfl
  | cons row rest ih =>
    by_cases hrow : p row = true
    · rw [List.filter_cons_of_pos hrow]
      simp only [readValues, ih]
    · have hvalue : isValueRow r row = false := Bool.eq_false_iff.mpr fun h => hrow (hp _ h)
      rw [List.filter_cons_of_neg hrow, ih]
      simp [readValues, hvalue]

theorem readTypes_map_filter {p : Row → Bool}
    (hp : ∀ row, isValueRow r row = true → p row = true) (blocks : List (Row × List Row)) :
    readTypes r (blocks.map fun block => (block.1, block.2.filter p)) = readTypes r blocks := by
  induction blocks with
  | nil => rfl
  | cons block rest ih =>
    rw [List.map_cons, readTypes, readTypes, ih]
    simp only [readType, readValues_filter _ _ hp]

/-- Only the rows that open a type or hold a value are read. -/
theorem readRows_filter (rows : List Row) :
    readRows r (rows.filter (isSignificant r)) = readRows r rows := by
  have hhead : ∀ row, isTypeRow r row = true → isSignificant r row = true := by
    intro row h
    simp [isSignificant, h]
  have hvalue : ∀ row, isValueRow r row = true → isSignificant r row = true := by
    intro row h
    simp [isSignificant, h]
  simp only [readRows, cutBlocks_filter hhead, find?_filter_of_imp hvalue,
    readTypes_map_filter hvalue]

/-- Rows that say the same are read alike. -/
theorem corresponds_readRows (hr : r.Agrees r') {rows rows' : List Row}
    (hrows : List.Forall₂ (SaysSame σ r r') (rows.filter (isSignificant r))
      (rows'.filter (isSignificant r'))) :
    Reported.Corresponds σ (List.map (TypeBlock.moved σ)) (readRows r rows)
      (readRows r' rows') := by
  rw [← readRows_filter rows, ← readRows_filter rows']
  obtain ⟨hlead, hblocks⟩ := forall₂_cutBlocks
    (fun _ _ hrow => SaysSame.isTypeRow hrow) hrows
  have hfind := forall₂_find? (fun _ _ hrow => SaysSame.isValueRow hrow) hlead
  simp only [readRows]
  generalize List.find? (isValueRow r) _ = found, List.find? (isValueRow r') _ = found' at hfind ⊢
  cases hfind with
  | none => exact corresponds_readTypes hr hblocks
  | some hrow =>
    simp only [hrow.cells]
    exact Reported.corresponds_ofExcept (.error (moved_fault hr hrow ..))

end TypesSheet

/-! ## The Messages sheet -/

namespace MessagesSheet

/-- Rows that enter the result. -/
def isSignificant (r : SheetReader) (row : Row) : Bool := isMessageRow r row || isFieldRow r row

theorem SaysSame.isMessageRow (hrow : SaysSame σ r r' row row') :
    MessagesSheet.isMessageRow r' row' = MessagesSheet.isMessageRow r row := by
  simp only [MessagesSheet.isMessageRow, hrow.cells]

theorem SaysSame.isFieldRow (hrow : SaysSame σ r r' row row') :
    MessagesSheet.isFieldRow r' row' = MessagesSheet.isFieldRow r row := by
  simp only [MessagesSheet.isFieldRow, hrow.cells]

section Cells

variable (hr : r.Agrees r') (hrow : SaysSame σ r r' row row')
include hr hrow

theorem corresponds_readExtent (text : String) :
    Corresponds σ id (readExtent r row text) (readExtent r' row' text) := by
  have hinvalid := moved_fault hr hrow MessagesColumn.array.key (.invalidArray text)
  unfold readExtent
  dsimp only
  split
  · exact .ok _
  · split
    · exact .error hinvalid
    · exact .ok _
    · exact .check hinvalid (.check (.tooManyDigitsToRead _) (.ok _))

theorem corresponds_spread (key : String) (count : Int) (text : String) :
    Corresponds σ id (spread r row key count text) (spread r' row' key count text) := by
  unfold spread
  split
  · exact .ok _
  · exact .ok _
  · split
    · exact .ok _
    · exact .error (moved_fault hr hrow ..)

theorem corresponds_readComponent (texts : ComponentTexts) :
    Corresponds σ id (readComponent r row texts) (readComponent r' row' texts) := by
  unfold readComponent
  split
  · exact .error (moved_fault hr hrow ..)
  · refine (corresponds_readNumber hr hrow ..).bind fun scale => ?_
    refine (corresponds_readNumber hr hrow ..).bind fun offset => ?_
    refine (corresponds_readInteger hr hrow ..).bind fun bits => ?_
    exact (corresponds_readFlag hr hrow ..).bind fun accumulate => .ok _

theorem corresponds_readEach (texts : List ComponentTexts) :
    Corresponds σ id (readEach r row texts) (readEach r' row' texts) := by
  induction texts with
  | nil => exact .ok _
  | cons first rest ih =>
    refine (corresponds_readComponent hr hrow first).bind fun component => ?_
    exact ih.bind fun components => .ok _

theorem corresponds_readComponents (names : List String) :
    Corresponds σ id (readComponents r row names) (readComponents r' row' names) := by
  simp only [readComponents, hrow.cells]
  refine (corresponds_spread hr hrow ..).bind fun scales => ?_
  refine (corresponds_spread hr hrow ..).bind fun offsets => ?_
  refine (corresponds_spread hr hrow ..).bind fun units => ?_
  refine (corresponds_spread hr hrow ..).bind fun bits => ?_
  refine (corresponds_spread hr hrow ..).bind fun accumulates => ?_
  exact corresponds_readEach hr hrow _

theorem corresponds_readScaling :
    Corresponds σ id (readScaling r row) (readScaling r' row') := by
  simp only [readScaling, hrow.cells]
  refine (corresponds_readNumber hr hrow ..).bind fun scale => ?_
  refine (corresponds_readNumber hr hrow ..).bind fun offset => ?_
  exact (corresponds_readFlag hr hrow ..).bind fun accumulate => .ok _

theorem corresponds_readContents :
    Corresponds σ id (readContents r row) (readContents r' row') := by
  simp only [readContents, hrow.cells]
  split
  · exact (corresponds_readScaling hr hrow).bind fun scaling => .ok _
  · exact (corresponds_readComponents hr hrow _).bind fun components => .ok _

theorem corresponds_readNumber :
    Corresponds σ id (readNumber r row) (readNumber r' row') := by
  simp only [readNumber, hrow.cells]
  split
  · exact .ok _
  · exact (corresponds_readInteger hr hrow ..).map fun _ => rfl

theorem corresponds_readField (message : String) :
    Corresponds σ (Prod.map id (FieldSpec.moved σ)) (readField r message row)
      (readField r' message row') := by
  simp only [readField, hrow.cells, hrow.index]
  split
  · exact .error (moved_messageFault hr hrow ..)
  split
  · exact .error (moved_fieldFault hr hrow ..)
  split
  · exact .error (moved_fieldFault hr hrow ..)
  refine (corresponds_readContents hr hrow).bind fun contents => ?_
  refine (corresponds_readNumber hr hrow).bind fun number => ?_
  exact (corresponds_readExtent hr hrow _).bind fun extent => .ok _

end Cells

/-- Each row joins the block above it or opens the next one, on both sides alike. -/
theorem corresponds_readFields (hr : r.Agrees r') (message : String) {rows rows' : List Row}
    (hrows : List.Forall₂ (SaysSame σ r r') rows rows') (current : Option FieldBlock) :
    Corresponds σ (List.map (FieldBlock.moved σ)) (readFields r message current rows)
      (readFields r' message (current.map (FieldBlock.moved σ)) rows') := by
  induction hrows generalizing current with
  | nil =>
    cases current with
    | none => exact .ok []
    | some block => exact .ok [block]
  | cons hrow _ ih =>
    refine (corresponds_readField hr hrow message).bind fun ⟨number, spec⟩ => ?_
    have hjoin : ∀ block : FieldBlock, _ := fun block => ih
      (some { block with subfields := block.subfields ++ [⟨spec, block.main.number⟩] })
    simp only [Option.map_some, FieldBlock.moved, List.map_append, List.map_cons,
      List.map_nil] at hjoin
    cases number with
    | none =>
      cases current with
      | none => exact .error (moved_messageFault hr hrow ..)
      | some block =>
        dsimp only [Prod.map, id]
        change Corresponds σ _ (if spec.hasReference then _ else _)
          (if spec.hasReference then _ else _)
        split
        · exact hjoin block
        · exact .error (moved_messageFault hr hrow ..)
    | some n =>
      have hopen := ih (some ⟨⟨spec, n⟩, []⟩)
      cases current with
      | none => exact hopen
      | some block =>
        dsimp only [Prod.map, id]
        change Corresponds σ _ (if n = block.main.number ∧ spec.hasReference then _ else _)
          (if n = block.main.number ∧ spec.hasReference then _ else _)
        split
        · exact hjoin block
        · exact hopen.bind fun blocks => .ok _

theorem corresponds_readMessage (hr : r.Agrees r') {block block' : Row × List Row}
    (hblock : SaysSameBlock σ r r' block block') :
    Corresponds σ (MessageBlock.moved σ) (readMessage r block) (readMessage r' block') := by
  obtain ⟨hhead, hrows⟩ := hblock
  simp only [readMessage, hhead.cells, hhead.index]
  refine (corresponds_readNumber hr hhead).bind fun declared => ?_
  have hfields : List.Forall₂ (SaysSame σ r r') (block.2.filter (isFieldRow r))
      (block'.2.filter (isFieldRow r')) :=
    List.rel_filter (fun _ _ hrow => by simp only [SaysSame.isFieldRow hrow]) hrows
  exact (corresponds_readFields hr _ hfields none).bind fun fields => .ok _

theorem corresponds_readMessages (hr : r.Agrees r') {blocks blocks' : List (Row × List Row)}
    (hblocks : List.Forall₂ (SaysSameBlock σ r r') blocks blocks') :
    Corresponds σ (List.map (MessageBlock.moved σ)) (readMessages r blocks)
      (readMessages r' blocks') := by
  induction hblocks with
  | nil => exact .ok []
  | cons hblock _ ih =>
    refine (corresponds_readMessage hr hblock).bind fun message => ?_
    exact ih.bind fun messages => .ok _

theorem readMessages_map_filter {p : Row → Bool}
    (hp : ∀ row, isFieldRow r row = true → p row = true) (blocks : List (Row × List Row)) :
    readMessages r (blocks.map fun block => (block.1, block.2.filter p)) =
      readMessages r blocks := by
  induction blocks with
  | nil => rfl
  | cons block rest ih =>
    rw [List.map_cons, readMessages, readMessages, ih]
    simp only [readMessage, filter_filter_of_imp hp]

/-- Only the rows that open a message or hold a field are read. -/
theorem readRows_filter (rows : List Row) :
    readRows r (rows.filter (isSignificant r)) = readRows r rows := by
  have hhead : ∀ row, isMessageRow r row = true → isSignificant r row = true := by
    intro row h
    simp [isSignificant, h]
  have hfield : ∀ row, isFieldRow r row = true → isSignificant r row = true := by
    intro row h
    simp [isSignificant, h]
  simp only [readRows, cutBlocks_filter hhead, find?_filter_of_imp hfield,
    readMessages_map_filter hfield]

/-- Rows that say the same are read alike. -/
theorem corresponds_readRows (hr : r.Agrees r') {rows rows' : List Row}
    (hrows : List.Forall₂ (SaysSame σ r r') (rows.filter (isSignificant r))
      (rows'.filter (isSignificant r'))) :
    Corresponds σ (List.map (MessageBlock.moved σ)) (readRows r rows) (readRows r' rows') := by
  rw [← readRows_filter rows, ← readRows_filter rows']
  obtain ⟨hlead, hblocks⟩ := forall₂_cutBlocks
    (fun _ _ hrow => SaysSame.isMessageRow hrow) hrows
  have hfind := forall₂_find? (fun _ _ hrow => SaysSame.isFieldRow hrow) hlead
  simp only [readRows]
  generalize List.find? (isFieldRow r) _ = found, List.find? (isFieldRow r') _ = found' at hfind ⊢
  cases hfind with
  | none => exact corresponds_readMessages hr hblocks
  | some hrow =>
    simp only [hrow.cells]
    exact .error (moved_fault hr hrow ..)

end MessagesSheet

end Draft

end FitProfile
