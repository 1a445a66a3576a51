import FitProfile.Proofs.Drafting
import FitProfile.Proofs.Linking.Reordering
import FitProfile.Proofs.Reading.Layout
/-!
# FitProfile.Proofs.Reading.Rearrangement -- rows of the Messages sheet in another order

The Messages sheet is read row by row, and what a field row becomes hangs on the main field
above it. Still the sheet is made of blocks that can be moved: a message with all the rows up to
the next one, and in it a main field with the rows up to the next main field. `Rearranged`
relates sheets whose blocks are the same but for their order, and `read_rearranged` proves that
both are read to the same messages, but for the order of messages and fields.

Main fields are told from subfields by the cells of their own row: they state a number and name
no reference field. A sheet whose main fields could also name reference fields is read in another
way, but then linking refuses it.
-/

namespace FitProfile

open FitProfile.Draft FitProfile.Outcome

/-! ## Blocks in another order -/

section Rearranged

variable {α β : Type} {isMessage isMain : α → Bool}

/-- The rows of a message with its main fields in another order, each with the rows up to the next
one. -/
structure RearrangedBlock (isMain : α → Bool) (block block' : α × List α) : Prop where
  head : block'.1 = block.1
  lead : (cutBlocks isMain block'.2).1 = (cutBlocks isMain block.2).1
  fields : (cutBlocks isMain block.2).2.Perm (cutBlocks isMain block'.2).2

/-- The rows of a sheet with its messages in another order, each with the rows up to the next one,
and the main fields of each message in another order. -/
structure Rearranged (isMessage isMain : α → Bool) (rows rows' : List α) : Prop where
  lead : (cutBlocks isMessage rows').1 = (cutBlocks isMessage rows).1
  messages : ∃ between, (cutBlocks isMessage rows).2.Perm between ∧
    List.Forall₂ (RearrangedBlock isMain) between (cutBlocks isMessage rows').2

theorem cutBlocks_map {isHead : β → Bool} (f : α → β) (rows : List α) :
    cutBlocks isHead (rows.map f) = ((cutBlocks (isHead ∘ f) rows).1.map f,
      (cutBlocks (isHead ∘ f) rows).2.map (Prod.map f (List.map f))) := by
  induction rows with
  | nil => rfl
  | cons row rest ih =>
    by_cases hrow : isHead (f row) = true <;> simp [cutBlocks, ih, hrow]

/-- Each block opens with a head. -/
theorem isHead_of_mem_cutBlocks {isHead : α → Bool} {rows : List α} {block : α × List α}
    (h : block ∈ (cutBlocks isHead rows).2) : isHead block.1 = true := by
  induction rows with
  | nil => cases h
  | cons row rest ih =>
    by_cases hrow : isHead row = true
    · simp only [cutBlocks, hrow, if_true] at h
      rcases List.mem_cons.mp h with rfl | h
      · exact hrow
      · exact ih h
    · simp only [cutBlocks, hrow, Bool.false_eq_true, if_false] at h
      exact ih h

/-- Rows stay rearranged when each of them is taken over. -/
theorem Rearranged.map {isMessage isMain : β → Bool} {f : α → β} {rows rows' : List α}
    (h : Rearranged (isMessage ∘ f) (isMain ∘ f) rows rows') :
    Rearranged isMessage isMain (rows.map f) (rows'.map f) where
  lead := by rw [cutBlocks_map, cutBlocks_map, h.lead]
  messages := by
    obtain ⟨between, hperm, hblocks⟩ := h.messages
    refine ⟨between.map (Prod.map f (List.map f)), ?_, ?_⟩
    · rw [cutBlocks_map]
      exact hperm.map _
    · rw [cutBlocks_map, List.forall₂_map_left_iff, List.forall₂_map_right_iff]
      refine hblocks.imp fun block block' hblock => ⟨congrArg f hblock.head, ?_, ?_⟩
      · simp only [Prod.map_snd, cutBlocks_map, hblock.lead]
      · simp only [Prod.map_snd, cutBlocks_map]
        exact hblock.fields.map _

end Rearranged

namespace Draft

namespace MessagesSheet

variable {r : SheetReader} {message : String}

/-! ## Main fields -/

/-- Rows that hold a main field: they state a number and name no reference field. -/
def isMainRow (r : SheetReader) (row : Row) : Bool :=
  r.get row MessagesColumn.fieldNumber.key != "" && r.get row MessagesColumn.refFieldName.key == ""

theorem isFieldRow_of_isMainRow {row : Row} (h : isMainRow r row = true) :
    isFieldRow r row = true := by
  simp only [isMainRow, Bool.and_eq_true] at h
  simp [isFieldRow, h.1]

theorem readNumber_isSome {row : Row} {number : Option Int} (h : readNumber r row = .ok number) :
    number.isSome = (r.get row MessagesColumn.fieldNumber.key != "") := by
  unfold readNumber at h
  dsimp only at h
  split at h
  next hempty =>
    cases h
    have htext : r.get row MessagesColumn.fieldNumber.key = "" := by simpa using hempty
    simp [htext]
  next hnonempty =>
    obtain ⟨n, -, rfl⟩ := map_eq_ok.mp h
    have htext : r.get row MessagesColumn.fieldNumber.key ≠ "" := by simpa using hnonempty
    simpa using htext

/-- What a field row was read to says whether the row holds a main field. -/
theorem isMainRow_eq {row : Row} {number : Option Int} {spec : FieldSpec}
    (h : readField r message row = .ok (number, spec)) :
    isMainRow r row = (number.isSome && spec.refNames.isEmpty) := by
  have hstates := statesField_of_readField h
  rw [isMainRow, readNumber_isSome hstates.number, hstates.refNames, Bool.eq_iff_iff]
  simp [Text.commaList_eq_nil]

/-! ## Reading the field rows of a message -/

/-- A block with one more subfield, under the number of its main field. -/
def withSubfield (block : FieldBlock) (spec : FieldSpec) : FieldBlock :=
  { block with subfields := block.subfields ++ [⟨spec, block.main.number⟩] }

/-- The ways in which field rows are read below the block `current`: each row opens the first
block, joins the block above it, or opens the next one. -/
inductive Reads (r : SheetReader) (message : String) :
    Option FieldBlock → List Row → List FieldBlock → Prop where
  | done (current : Option FieldBlock) : Reads r message current [] current.toList
  | opens {row : Row} {n : Int} {spec : FieldSpec} {rest : List Row} {blocks : List FieldBlock}
    (hfield : readField r message row = .ok (some n, spec))
    (h : Reads r message (some ⟨⟨spec, n⟩, []⟩) rest blocks) :
    Reads r message none (row :: rest) blocks
  | joins {block : FieldBlock} {row : Row} {number : Option Int} {spec : FieldSpec}
    {rest : List Row} {blocks : List FieldBlock}
    (hfield : readField r message row = .ok (number, spec))
    (hnumber : number = none ∨ number = some block.main.number)
    (hreference : spec.hasReference = true)
    (h : Reads r message (some (withSubfield block spec)) rest blocks) :
    Reads r message (some block) (row :: rest) blocks
  | next {block : FieldBlock} {row : Row} {n : Int} {spec : FieldSpec} {rest : List Row}
    {others : List FieldBlock}
    (hfield : readField r message row = .ok (some n, spec))
    (hother : ¬ (n = block.main.number ∧ spec.hasReference = true))
    (h : Reads r message (some ⟨⟨spec, n⟩, []⟩) rest others) :
    Reads r message (some block) (row :: rest) (block :: others)

theorem reads_of_readFields {current : Option FieldBlock} {rows : List Row}
    {blocks : List FieldBlock} (h : readFields r message current rows = .ok blocks) :
    Reads r message current rows blocks := by
  induction rows generalizing current blocks with
  | nil =>
    cases h
    exact .done current
  | cons row rest ih =>
    obtain ⟨⟨number, spec⟩, hfield, h⟩ := bind_eq_ok.mp h
    cases number with
    | none =>
      cases current with
      | none => exact absurd h throw_ne_ok
      | some block =>
        dsimp only at h
        split at h
        next hreference => exact .joins hfield (.inl rfl) hreference (ih h)
        next => exact absurd h throw_ne_ok
    | some n =>
      cases current with
      | none => exact .opens hfield (ih h)
      | some block =>
        dsimp only at h
        split at h
        next hjoins =>
          exact .joins hfield (.inr (congrArg some hjoins.1)) hjoins.2 (ih h)
        next hother =>
          obtain ⟨others, hothers, hpure⟩ := bind_eq_ok.mp h
          cases hpure
          exact .next hfield hother (ih hothers)

theorem readFields_of_reads {current : Option FieldBlock} {rows : List Row}
    {blocks : List FieldBlock} (h : Reads r message current rows blocks) :
    readFields r message current rows = .ok blocks := by
  induction h with
  | done current => rfl
  | opens hfield _ ih => exact bind_eq_ok.mpr ⟨_, hfield, ih⟩
  | @joins block row number spec rest blocks hfield hnumber hreference _ ih =>
    refine bind_eq_ok.mpr ⟨_, hfield, ?_⟩
    rcases hnumber with rfl | rfl
    · exact (if_pos hreference).trans ih
    · exact (if_pos ⟨rfl, hreference⟩).trans ih
  | @next block row n spec rest others hfield hother _ ih =>
    refine bind_eq_ok.mpr ⟨_, hfield, ?_⟩
    exact (if_neg hother).trans (bind_eq_ok.mpr ⟨others, ih, rfl⟩)

namespace Reads

variable {current : Option FieldBlock} {rows : List Row} {blocks : List FieldBlock}

/-- A block that is read keeps its main field, whatever rows follow. -/
theorem main_of_some {block : FieldBlock} (h : Reads r message (some block) rows blocks) :
    ∃ first rest, blocks = first :: rest ∧ first.main = block.main := by
  generalize hcurrent : some block = current at h
  induction h generalizing block with
  | done => exact ⟨block, [], by rw [← hcurrent]; rfl, rfl⟩
  | opens => cases hcurrent
  | joins _ _ _ _ ih =>
    cases hcurrent
    obtain ⟨first, rest, hblocks, hmain⟩ := ih rfl
    exact ⟨first, rest, hblocks, hmain⟩
  | next =>
    cases hcurrent
    exact ⟨_, _, rfl, rfl⟩

/-- Rows up to a main row and the rows from there on can be read apart. -/
theorem append (h : Reads r message current rows blocks) (hstarted : current.isSome ∨ rows ≠ [])
    {row : Row} {rest : List Row} {others : List FieldBlock} (hrow : isMainRow r row = true)
    (hrest : Reads r message none (row :: rest) others) :
    Reads r message current (rows ++ row :: rest) (blocks ++ others) := by
  induction h with
  | done current =>
    obtain ⟨block, rfl⟩ := Option.isSome_iff_exists.mp (hstarted.resolve_right fun h => h rfl)
    cases hrest with
    | opens hfield hopened =>
      -- a main row names no reference, so it does not join the block
      rw [isMainRow_eq hfield, Bool.and_eq_true] at hrow
      refine .next hfield ?_ hopened
      rintro ⟨-, hreference⟩
      rw [FieldSpec.hasReference, hrow.2] at hreference
      cases hreference
  | opens hfield _ ih => exact .opens hfield (ih (.inl rfl))
  | joins hfield hnumber hreference _ ih =>
    exact .joins hfield hnumber hreference (ih (.inl rfl))
  | next hfield hother _ ih => exact .next hfield hother (ih (.inl rfl))

end Reads

/-! ## Field blocks by themselves -/

/-- Rows of a main field and what follows it, read by themselves. -/
def ReadsBlock (r : SheetReader) (message : String) (rows : Row × List Row) (block : FieldBlock) :
    Prop :=
  Reads r message none (blockRows rows) [block]

theorem isMainRow_of_reads {row : Row} {n : Int} {spec : FieldSpec} {rest : List Row}
    {blocks : List FieldBlock} (hfield : readField r message row = .ok (some n, spec))
    (h : Reads r message (some ⟨⟨spec, n⟩, []⟩) rest blocks)
    (hmains : ∀ block ∈ blocks, block.main.refNames = []) : isMainRow r row = true := by
  obtain ⟨first, others, rfl, hmain⟩ := h.main_of_some
  have hrefs : spec.refNames = [] := by
    have := hmains first List.mem_cons_self
    rwa [hmain] at this
  simp [isMainRow_eq hfield, hrefs]

/-- Where no main field names a reference, each main row opens a block, and the rows of the block
are read by themselves. -/
theorem Reads.split {current : Option FieldBlock} {rows : List Row} {blocks : List FieldBlock}
    (h : Reads r message current rows blocks)
    (hmains : ∀ block ∈ blocks, block.main.refNames = []) :
    ∃ (first : Option FieldBlock) (rest : List FieldBlock), blocks = first.toList ++ rest ∧
      first.isSome = current.isSome ∧
      Reads r message current (cutBlocks (isMainRow r) rows).1 first.toList ∧
      List.Forall₂ (ReadsBlock r message) (cutBlocks (isMainRow r) rows).2 rest := by
  induction h with
  | done current => exact ⟨current, [], by simp, rfl, .done current, .nil⟩
  | opens hfield h ih =>
    have hrow := isMainRow_of_reads hfield h hmains
    obtain ⟨first, others, rfl, hfirst, hlead, hrest⟩ := ih hmains
    obtain ⟨block, rfl⟩ := Option.isSome_iff_exists.mp hfirst
    simp only [cutBlocks, hrow, if_true]
    exact ⟨none, block :: others, rfl, rfl, .done none, .cons (.opens hfield hlead) hrest⟩
  | @joins block row _ _ _ _ hfield hnumber hreference _ ih =>
    -- a row that joins names a reference, so it is no main row
    have hrow : isMainRow r row = false := by
      rw [FieldSpec.hasReference, Bool.not_eq_true'] at hreference
      rw [isMainRow_eq hfield, hreference, Bool.and_false]
    obtain ⟨first, others, hblocks, hfirst, hlead, hrest⟩ := ih hmains
    simp only [cutBlocks, hrow, Bool.false_eq_true, if_false]
    exact ⟨first, others, hblocks, hfirst, .joins hfield hnumber hreference hlead, hrest⟩
  | @next block _ _ _ _ others hfield hother h ih =>
    have hmains' : ∀ other ∈ others, other.main.refNames = [] :=
      fun other hmem => hmains other (List.mem_cons_of_mem block hmem)
    have hrow := isMainRow_of_reads hfield h hmains'
    obtain ⟨first, others, rfl, hfirst, hlead, hrest⟩ := ih hmains'
    obtain ⟨opened, rfl⟩ := Option.isSome_iff_exists.mp hfirst
    simp only [cutBlocks, hrow, if_true]
    exact ⟨some block, opened :: others, rfl, rfl, .done (some block),
      .cons (.opens hfield hlead) hrest⟩

/-- Blocks that are read by themselves are read one after the other. -/
theorem reads_flatMap {cut : List (Row × List Row)} {blocks : List FieldBlock}
    (hmains : ∀ rows ∈ cut, isMainRow r rows.1 = true)
    (h : List.Forall₂ (ReadsBlock r message) cut blocks) :
    Reads r message none (cut.flatMap blockRows) blocks := by
  induction h with
  | nil => exact .done none
  | @cons rows block cut blocks hblock _ ih =>
    have hrest := ih fun other hmem => hmains other (List.mem_cons_of_mem rows hmem)
    rw [List.flatMap_cons]
    cases cut with
    | nil =>
      cases hrest
      rw [List.flatMap_nil, List.append_nil]
      exact hblock
    | cons other others =>
      exact Reads.append hblock (.inr (List.cons_ne_nil _ _)) (hmains other (by simp)) hrest

/-! ## Messages and their fields -/

/-- Rows that are read to no block are no rows. -/
theorem Reads.eq_nil {rows : List Row} (h : Reads r message none rows []) : rows = [] := by
  generalize hblocks : ([] : List FieldBlock) = blocks at h
  cases h with
  | done => rfl
  | opens _ hopened =>
    obtain ⟨_, _, rfl, -⟩ := hopened.main_of_some
    cases hblocks

/-- Moving the main fields of a message moves the fields that are read. -/
theorem readMessage_rearranged {block block' : Row × List Row} {result : MessageBlock}
    (hblock : RearrangedBlock (isMainRow r) block block')
    (h : readMessage r block = .ok result)
    (hmains : ∀ field ∈ result.fields, field.main.refNames = []) :
    ∃ fields, readMessage r block' = .ok { result with fields := fields } ∧
      result.fields.Perm fields := by
  obtain ⟨head, rows⟩ := block
  obtain ⟨head', rows'⟩ := block'
  obtain ⟨rfl, hlead, hperm⟩ := hblock
  obtain ⟨declared, hdeclared, h⟩ := bind_eq_ok.mp h
  obtain ⟨blocks, hblocks, hpure⟩ := bind_eq_ok.mp h
  cases hpure
  dsimp only at hlead hperm hmains
  have hmain : ∀ row, isMainRow r row = true → isFieldRow r row = true :=
    fun _ => isFieldRow_of_isMainRow
  -- the rows split into blocks, in front of which there are no field rows
  obtain ⟨first, rest, rfl, hfirst, hnone, hrest⟩ := (reads_of_readFields hblocks).split hmains
  obtain rfl : first = none := by simpa using hfirst
  rw [cutBlocks_filter hmain] at hnone hrest
  -- the other rows are the same blocks in another order
  have hcut := hperm.map fun cut : Row × List Row => (cut.1, cut.2.filter (isFieldRow r))
  obtain ⟨fields, hfields, hfieldsPerm⟩ := List.perm_comp_forall₂ hcut.symm hrest
  have hheads : ∀ cut ∈ (cutBlocks (isMainRow r) (rows'.filter (isFieldRow r))).2,
      isMainRow r cut.1 = true := fun _ => isHead_of_mem_cutBlocks
  have hrows : rows'.filter (isFieldRow r) =
      (cutBlocks (isMainRow r) (rows'.filter (isFieldRow r))).2.flatMap blockRows := by
    have happend := cutBlocks_append (isMainRow r) (rows'.filter (isFieldRow r))
    rw [cutBlocks_filter hmain, hlead, hnone.eq_nil, List.nil_append] at happend
    rw [cutBlocks_filter hmain]
    exact happend.symm
  have hreads : Reads r (r.get head' MessagesColumn.messageName.key) none
      (rows'.filter (isFieldRow r)) fields := by
    rw [hrows]
    refine reads_flatMap hheads ?_
    rw [cutBlocks_filter hmain]
    exact hfields
  exact ⟨fields, bind_eq_ok.mpr ⟨declared, hdeclared, bind_eq_ok.mpr ⟨fields,
    readFields_of_reads hreads, rfl⟩⟩, hfieldsPerm.symm⟩

/-- Messages with the same fields in another order. -/
structure SameFields (message message' : MessageBlock) : Prop where
  name : message'.name = message.name
  declaredNumber : message'.declaredNumber = message.declaredNumber
  fields : message.fields.Perm message'.fields

theorem readMessages_rearranged {cut cut' : List (Row × List Row)}
    (hblocks : List.Forall₂ (RearrangedBlock (isMainRow r)) cut cut') {messages : List MessageBlock}
    (h : readMessages r cut = .ok messages)
    (hmains : ∀ message ∈ messages, ∀ field ∈ message.fields, field.main.refNames = []) :
    ∃ messages', readMessages r cut' = .ok messages' ∧
      List.Forall₂ SameFields messages messages' := by
  induction hblocks generalizing messages with
  | nil =>
    cases h
    exact ⟨[], rfl, .nil⟩
  | cons hblock _ ih =>
    obtain ⟨message, hmessage, h⟩ := bind_eq_ok.mp h
    obtain ⟨others, hothers, hpure⟩ := bind_eq_ok.mp h
    cases hpure
    obtain ⟨fields, hfields, hperm⟩ :=
      readMessage_rearranged hblock hmessage (hmains message List.mem_cons_self)
    obtain ⟨others', hothers', hsame⟩ := ih hothers fun other hmem =>
      hmains other (List.mem_cons_of_mem message hmem)
    exact ⟨_ :: others', bind_eq_ok.mpr ⟨_, hfields, bind_eq_ok.mpr ⟨others', hothers', rfl⟩⟩,
      .cons ⟨rfl, rfl, hperm⟩ hsame⟩

/-- Moving messages and main fields moves the messages and fields that are read. -/
theorem readRows_rearranged {rows rows' : List Row} {messages : List MessageBlock}
    (hrows : Rearranged (isMessageRow r) (isMainRow r) rows rows')
    (h : readRows r rows = .ok messages)
    (hmains : ∀ message ∈ messages, ∀ field ∈ message.fields, field.main.refNames = []) :
    ∃ messages', readRows r rows' = .ok messages' ∧ ∃ between, messages.Perm between ∧
      List.Forall₂ SameFields between messages' := by
  obtain ⟨cut, hperm, hblocks⟩ := hrows.messages
  simp only [readRows] at h ⊢
  rw [hrows.lead]
  split at h
  next => cases h
  next =>
    rw [readMessages_eq_mapM, mapM_eq_ok] at h
    obtain ⟨between, hbetween, hbetweenPerm⟩ := List.perm_comp_forall₂ hperm.symm h
    have hread : readMessages r cut = .ok between := by
      rw [readMessages_eq_mapM, mapM_eq_ok]
      exact hbetween
    obtain ⟨messages', hmessages, hsame⟩ := readMessages_rearranged hblocks hread
      fun message hmem => hmains message (hbetweenPerm.mem_iff.mp hmem)
    exact ⟨messages', hmessages, between, hbetweenPerm.symm, hsame⟩

end MessagesSheet

end Draft

/-! ## The sheet -/

namespace Layout

/-- Rows of the Messages sheet that open a message. -/
def isMessage (l : Layout) (rules : RuleSet) (row : List String) : Bool :=
  l.under rules.messagesColumns row MessagesColumn.messageName.key != ""

/-- Rows of the Messages sheet that hold a main field, if they do not open a message. -/
def isMain (l : Layout) (rules : RuleSet) (row : List String) : Bool :=
  l.under rules.messagesColumns row MessagesColumn.fieldNumber.key != "" &&
    l.under rules.messagesColumns row MessagesColumn.refFieldName.key == ""

/-- The rows below the header, with no regard to their places. -/
def placeless (l : Layout) : List Row := l.below.map (Row.mk 0)

/-- A row says the same without its place. -/
theorem forall₂_numbered_placeless (l : Layout) (labels : List (String × String)) (n : Nat)
    (below : List (List String)) :
    List.Forall₂ (SameRow labels (fun _ => 0) l l) (numbered n below) (below.map (Row.mk 0)) := by
  induction below generalizing n with
  | nil => exact .nil
  | cons row rest ih => exact .cons ⟨rfl, fun _ => rfl⟩ (ih (n + 1))

end Layout

namespace Draft

namespace MessagesSheet

open Layout SheetReader

variable {rules : RuleSet} {name : String} {l : Layout}

theorem read_ofCells (hleads : l.Leads) : read rules (.ofCells name l.rows) =
    match Columns.missing? l.headerRow rules.requiredMessagesColumns rules.messagesColumns with
    | some entry => .error (.input (.columnMissing entry.2)
        { sheet := some name, row := some l.above.length, column := some entry.2 })
    | none => readRows (l.reader rules.messagesColumns name rules.hexValues)
        ((Sheet.ofCells name l.rows).rowsBelow l.headerRow) := by
  unfold read MessagesSheet.reader
  rw [hleads.ofSheet_ofCells]
  cases Columns.missing? l.headerRow rules.requiredMessagesColumns rules.messagesColumns <;> rfl

/-- A sheet is read like its rows without their places, except for the places. -/
theorem corresponds_placeless (hleads : l.Leads)
    (hmissing : Columns.missing? l.headerRow rules.requiredMessagesColumns rules.messagesColumns =
      none) :
    Corresponds (fun _ => 0) (List.map (MessageBlock.moved fun _ => 0))
      (read rules (.ofCells name l.rows))
      (readRows (l.reader rules.messagesColumns name rules.hexValues) l.placeless) := by
  rw [read_ofCells hleads, hmissing]
  apply corresponds_readRows (Layout.agrees_reader ..)
  rw [isSignificant_reader, rowsBelow_ofCells, filter_hasEntry_not_blank]
  refine (forall₂_filter_hasEntry (forall₂_numbered_placeless ..)).imp fun row row' hrow => ⟨hrow.index, ?_⟩
  intro key
  rw [get_reader, get_reader, hrow.cells]

theorem rearranged_placeless {below : List (List String)}
    (hbelow : Rearranged (l.isMessage rules) (l.isMain rules) l.below below) :
    Rearranged (isMessageRow (l.reader rules.messagesColumns name rules.hexValues))
      (isMainRow (l.reader rules.messagesColumns name rules.hexValues)) l.placeless
      (placeless { l with below := below }) := by
  apply Rearranged.map
  have hmessage : isMessageRow (l.reader rules.messagesColumns name rules.hexValues) ∘ Row.mk 0 =
      l.isMessage rules := by
    funext row
    simp [isMessageRow, get_reader, Layout.isMessage]
  have hmain : isMainRow (l.reader rules.messagesColumns name rules.hexValues) ∘ Row.mk 0 =
      l.isMain rules := by
    funext row
    simp [isMainRow, get_reader, Layout.isMain]
  rw [hmessage, hmain]
  exact hbelow

/-- A draft of the sheet changes by the order of its messages and fields alone when blocks of its
rows are moved. -/
theorem read_rearranged {below : List (List String)} (hleads : l.Leads)
    (hbelow : Rearranged (l.isMessage rules) (l.isMain rules) l.below below)
    {messages : List MessageBlock} (h : read rules (.ofCells name l.rows) = .ok messages)
    (hmains : ∀ message ∈ messages, ∀ field ∈ message.fields, field.main.refNames = []) :
    ∃ messages', read rules (.ofCells name { l with below := below }.rows) = .ok messages' ∧
      ∃ between, messages.Perm between ∧
        List.Forall₂ MessageBlock.Reordered between messages' := by
  have hmissing : Columns.missing? l.headerRow rules.requiredMessagesColumns
      rules.messagesColumns = none := by
    rw [read_ofCells hleads] at h
    split at h
    next => cases h
    next hnone => exact hnone
  have hleads' : Leads { l with below := below } := ⟨hleads.above, hleads.header⟩
  -- both sheets are read without regard to places, and there only the order differs
  have hread : Corresponds _ _ (read rules (.ofCells name l.rows)) _ :=
    corresponds_placeless hleads hmissing
  have hread' : Corresponds _ _ (read rules (.ofCells name { l with below := below }.rows))
      (readRows (l.reader rules.messagesColumns name rules.hexValues)
        (placeless { l with below := below })) := corresponds_placeless hleads' hmissing
  rw [h] at hread
  have hmains' : ∀ message ∈ messages.map (MessageBlock.moved fun _ => 0),
      ∀ field ∈ message.fields, field.main.refNames = [] := by
    intro _ hmessage _ hfield
    obtain ⟨message, hmem, rfl⟩ := List.mem_map.mp hmessage
    obtain ⟨field, hmemField, rfl⟩ := List.mem_map.mp hfield
    exact hmains message hmem field hmemField
  obtain ⟨placeless', hplaceless', between, hperm, hsame⟩ :=
    readRows_rearranged (rearranged_placeless hbelow) hread.eq_ok hmains'
  rw [hplaceless'] at hread'
  obtain ⟨messages', hmessages', rfl⟩ := hread'.exists_eq_ok
  -- what stands between has places again, those of the messages it comes from
  have hplaces : List.Forall₂ (fun placeless message => placeless = message.moved fun _ => 0)
      (messages.map (MessageBlock.moved fun _ => 0)) messages :=
    List.forall₂_map_left_iff.mpr (List.forall₂_same.mpr fun _ _ => rfl)
  obtain ⟨placed, hplaced, hplacedPerm⟩ := List.perm_comp_forall₂ hperm.symm hplaces
  refine ⟨messages', hmessages', placed, hplacedPerm.symm, ?_⟩
  refine forall₂_trans ?_ hplaced.flip (List.forall₂_map_right_iff.mp hsame)
  rintro message _ message' rfl ⟨hname, hdeclared, hfields⟩
  exact ⟨hname, hdeclared, hfields⟩

end MessagesSheet

end Draft

end FitProfile
