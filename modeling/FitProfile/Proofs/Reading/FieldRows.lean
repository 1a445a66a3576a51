import FitProfile.Proofs.Reading.Places
import FitProfile.Proofs.Reading.Refusal
import Mathlib.Data.List.Chain
/-!
# FitProfile.Proofs.Reading.FieldRows -- each field row is read once, in its place

What the Messages sheet is read to has the shape of the sheet. `Mirrors` says so: the messages are
the rows with a message name, in their order, and the fields, each main field in front of its
subfields, are the field rows, in their order and each one once, under the nearest message above.
A row holds a subfield by what is written in it and by the nearest main field above it in its
message, and the subfield bears the number of that field. `mirrors_of_read` proves it of each
sheet that is read.

The rows of a message are cut where main fields open (`Reads.exists_cut`): each block is read from
rows of its own, and no main field could have joined the block above it. What is nearest above a
row follows from the order of rows alone.
-/

namespace FitProfile

open FitProfile.Draft FitProfile.Outcome

/-! ## What is nearest above a place -/

section Nearest

variable {α : Type} {rowOf : α → Int} {list before after : List α} {place : Int} {a b : α}

/-- The nearest of some things above a place, by the rows they stand in. -/
structure NearestAbove (rowOf : α → Int) (list : List α) (place : Int) (a : α) : Prop where
  mem : a ∈ list
  above : rowOf a < place
  nearest : ∀ other ∈ list, rowOf other < place → rowOf other ≤ rowOf a

/-- Where rows ascend, one row holds one thing. -/
theorem eq_of_ascending {β : Type} [Preorder β] {key : α → β}
    (h : list.Pairwise fun a b => key a < key b) (ha : a ∈ list) (hb : b ∈ list)
    (heq : key a = key b) : a = b := by
  have hkeys : (list.map key).Nodup := List.pairwise_map.mpr (h.imp fun hlt => hlt.ne)
  exact List.inj_on_of_nodup_map hkeys ha hb heq

/-- Among things in ascending rows, the last one in front of a place is the nearest. -/
theorem nearestAbove_append (h : (before ++ a :: after).Pairwise fun a b => rowOf a < rowOf b)
    (habove : rowOf a < place) (hafter : ∀ other ∈ after, place ≤ rowOf other) :
    NearestAbove rowOf (before ++ a :: after) place a where
  mem := by simp
  above := habove
  nearest := by
    intro other hmem hother
    rcases List.mem_append.mp hmem with hmem | hmem
    · exact ((List.pairwise_append.mp h).2.2 other hmem a List.mem_cons_self).le
    · rcases List.mem_cons.mp hmem with rfl | hmem
      · exact le_rfl
      · exact absurd hother (hafter other hmem).not_gt

theorem NearestAbove.unique (h : list.Pairwise fun a b => rowOf a < rowOf b)
    (ha : NearestAbove rowOf list place a) (hb : NearestAbove rowOf list place b) : a = b :=
  eq_of_ascending h ha.mem hb.mem
    (le_antisymm (hb.nearest a ha.mem ha.above) (ha.nearest b hb.mem hb.above))

end Nearest

/-! ## Rows by their blocks -/

section Blocks

variable {α : Type} {isHead : α → Bool}

/-- The heads among the rows open the blocks. -/
theorem filter_isHead (rows : List α) :
    rows.filter isHead = (cutBlocks isHead rows).2.map Prod.fst := by
  induction rows with
  | nil => rfl
  | cons row rest ih =>
    by_cases hrow : isHead row = true <;> simp [cutBlocks, hrow, ih]

/-- The other rows stand in front of the first block or in a block. -/
theorem filter_not_isHead (p : α → Bool) (rows : List α) :
    rows.filter (fun row => !isHead row && p row) =
      (cutBlocks isHead rows).1.filter p ++
        (cutBlocks isHead rows).2.flatMap fun block => block.2.filter p := by
  induction rows with
  | nil => rfl
  | cons row rest ih =>
    by_cases hrow : isHead row = true
    · simp [cutBlocks, hrow, ih]
    · by_cases hp : p row = true <;> simp [cutBlocks, hrow, hp, ih]

/-- Things in ascending rows, a row for each of them, stand one below the other. -/
theorem ascending_of_forall₂ {β : Type} {R : Row → β → Prop} {rows : List Row} {list : List β}
    (rowOf : β → Int) (h : List.Forall₂ R rows list)
    (hplace : ∀ row b, R row b → rowOf b = row.index)
    (hrows : rows.Pairwise fun a b => a.index < b.index) :
    list.Pairwise fun a b => rowOf a < rowOf b := by
  have hkeys : list.map rowOf = rows.map fun row => (row.index : Int) := by
    induction h with
    | nil => rfl
    | cons hab _ ih => rw [List.map_cons, List.map_cons, hplace _ _ hab, ih hrows.of_cons]
  rw [← List.pairwise_map, hkeys, List.pairwise_map]
  exact hrows.imp Int.ofNat_lt.mpr

end Blocks

namespace Draft

/-! ## The fields of a message as its rows hold them -/

namespace FieldBlock

/-- A main field that would have joined the block above it: it has a reference, and bears the
number of the main field there. -/
def Joins (above below : FieldBlock) : Prop :=
  below.main.number = above.main.number ∧ below.main.hasReference = true

end FieldBlock

namespace MessageBlock

/-- The main fields of a message. -/
def mains (message : MessageBlock) : List FieldRow := message.fields.map FieldBlock.main

/-- The subfields of a message. -/
def subfields (message : MessageBlock) : List FieldRow :=
  message.fields.flatMap FieldBlock.subfields

theorem mem_rows_iff {message : MessageBlock} {field : FieldRow} :
    field ∈ message.rows ↔ field ∈ message.mains ∨ field ∈ message.subfields := by
  simp only [rows, mains, subfields, List.mem_flatMap, List.mem_cons, List.mem_map]
  constructor
  · rintro ⟨block, hblock, rfl | hfield⟩
    · exact .inl ⟨block, hblock, rfl⟩
    · exact .inr ⟨block, hblock, hfield⟩
  · rintro (⟨block, hblock, rfl⟩ | ⟨block, hblock, hfield⟩)
    · exact ⟨block, hblock, .inl rfl⟩
    · exact ⟨block, hblock, .inr hfield⟩

/-- The fields of a message stand one below the other. -/
def Ascending (message : MessageBlock) : Prop :=
  message.rows.Pairwise fun a b => a.row < b.row

namespace Ascending

variable {message : MessageBlock} {before after : List FieldBlock} {block : FieldBlock}

/-- The main fields are in order too, and the fields of a block stand above the blocks below. -/
theorem mains (h : message.Ascending) : message.mains.Pairwise fun a b => a.row < b.row := by
  rw [MessageBlock.mains, List.pairwise_map]
  exact (List.pairwise_flatMap.mp h).2.imp fun hab =>
    hab _ List.mem_cons_self _ List.mem_cons_self

theorem lt_main (h : message.Ascending) (hfields : message.fields = before ++ block :: after)
    {field : FieldRow} (hfield : field ∈ block.main :: block.subfields) :
    ∀ other ∈ after, field.row < other.main.row := by
  have hblocks := (List.pairwise_flatMap.mp h).2
  rw [hfields, List.pairwise_append, List.pairwise_cons] at hblocks
  exact fun other hother => hblocks.2.1.1 other hother field hfield _ List.mem_cons_self

/-- In front of the next block, the main field of a block is the nearest one above. -/
theorem nearest (h : message.Ascending) (hfields : message.fields = before ++ block :: after)
    {place : Int} (habove : block.main.row < place)
    (hafter : ∀ other ∈ after, place ≤ other.main.row) :
    NearestAbove (fun main : FieldRow => main.row) message.mains place block.main := by
  have hmains := h.mains
  rw [MessageBlock.mains, hfields, List.map_append, List.map_cons] at hmains ⊢
  refine nearestAbove_append hmains habove ?_
  intro _ hmain
  obtain ⟨other, hother, rfl⟩ := List.mem_map.mp hmain
  exact hafter other hother

/-- The nearest main field above a subfield is that of its block. -/
theorem nearest_subfield (h : message.Ascending)
    (hfields : message.fields = before ++ block :: after) {sub : FieldRow}
    (hsub : sub ∈ block.subfields) :
    NearestAbove (fun main : FieldRow => main.row) message.mains sub.row block.main := by
  have hblock := (List.pairwise_flatMap.mp h).1 block (by simp [hfields])
  refine h.nearest hfields ((List.pairwise_cons.mp hblock).1 sub hsub) fun other hother => ?_
  exact (h.lt_main hfields (List.mem_cons_of_mem _ hsub) other hother).le

/-- The nearest main field above another one is that of the block above. -/
theorem nearest_main (h : message.Ascending) {above : FieldBlock}
    (hfields : message.fields = before ++ above :: block :: after) :
    NearestAbove (fun main : FieldRow => main.row) message.mains block.main.row above.main := by
  refine h.nearest hfields (h.lt_main hfields List.mem_cons_self block List.mem_cons_self) ?_
  intro other hother
  rcases List.mem_cons.mp hother with rfl | hother
  · exact le_rfl
  · rw [← List.singleton_append, ← List.append_assoc] at hfields
    exact (h.lt_main hfields List.mem_cons_self other hother).le

/-- There is no main field above the first one. -/
theorem not_nearest_first (h : message.Ascending) (hfields : message.fields = block :: after)
    {main : FieldRow} :
    ¬ NearestAbove (fun main : FieldRow => main.row) message.mains block.main.row main := by
  intro hnearest
  obtain ⟨other, hother, rfl⟩ := List.mem_map.mp hnearest.mem
  rw [hfields] at hother
  rcases List.mem_cons.mp hother with rfl | hother
  · exact lt_irrefl _ hnearest.above
  · rw [← List.nil_append (block :: after)] at hfields
    exact lt_asymm hnearest.above (h.lt_main hfields List.mem_cons_self other hother)

end Ascending

end MessageBlock

namespace MessagesSheet

variable {r : SheetReader} {message : String}

/-- A row that holds a field of a message: the field is what the row is read to, and where the row
states a number it is that of the field. -/
structure Holds (r : SheetReader) (message : String) (row : Row) (field : FieldRow) : Prop where
  place : field.row = row.index
  read : ∃ number, readField r message row = .ok (number, field.toFieldSpec) ∧
    ∀ n ∈ number, field.number = n

theorem holds_main {row : Row} {field : FieldRow}
    (h : readField r message row = .ok (some field.number, field.toFieldSpec)) :
    Holds r message row field :=
  ⟨(statesField_of_readField h).place, _, h, fun _ hn => Option.some.inj hn⟩

theorem ReadsSubfield.holds {n : Int} {row : Row} {sub : FieldRow}
    (h : ReadsSubfield r message n row sub) : Holds r message row sub := by
  obtain ⟨number, spec, hfield, hnumber, -, rfl⟩ := h
  refine ⟨(statesField_of_readField hfield).place, number, hfield, ?_⟩
  rcases hnumber with rfl | rfl
  · nofun
  · exact fun _ hn => Option.some.inj hn

/-- Field rows are cut where main fields open: each block is read from its own rows, and no main
field could have joined the block above it. -/
theorem Reads.exists_cut_below {block : FieldBlock} {rows : List Row} {blocks : List FieldBlock}
    (h : Reads r message (some block) rows blocks) :
    ∃ own cut first others, rows = own ++ cut.flatMap blockRows ∧ blocks = first :: others ∧
      Reads r message (some block) own [first] ∧
      List.Forall₂ (ReadsBlock r message) cut others ∧
      blocks.IsChain fun above below => ¬ above.Joins below := by
  generalize hcurrent : some block = current at h
  induction h generalizing block with
  | done =>
    subst hcurrent
    exact ⟨[], [], block, [], rfl, rfl, .done (some block), .nil, .singleton block⟩
  | opens => cases hcurrent
  | @joins block row number spec rest blocks hfield hnumber hreference _ ih =>
    cases hcurrent
    obtain ⟨own, cut, first, others, rfl, rfl, hown, hcut, hchain⟩ := ih rfl
    exact ⟨row :: own, cut, first, others, rfl, rfl, .joins hfield hnumber hreference hown, hcut,
      hchain⟩
  | @next block row n spec rest others hfield hother _ ih =>
    cases hcurrent
    obtain ⟨own, cut, first, others, rfl, rfl, hown, hcut, hchain⟩ := ih rfl
    refine ⟨[], (row, own) :: cut, block, first :: others, rfl, rfl, .done (some block),
      .cons (.opens hfield hown) hcut, List.isChain_cons_cons.mpr ⟨?_, hchain⟩⟩
    obtain ⟨_, _, ⟨⟩, hmain⟩ := hown.main_of_some
    rw [FieldBlock.Joins, hmain]
    exact hother

theorem Reads.exists_cut {rows : List Row} {blocks : List FieldBlock}
    (h : Reads r message none rows blocks) :
    ∃ cut, rows = cut.flatMap blockRows ∧ List.Forall₂ (ReadsBlock r message) cut blocks ∧
      blocks.IsChain fun above below => ¬ above.Joins below := by
  cases h with
  | done => exact ⟨[], rfl, .nil, .nil⟩
  | @opens row n spec rest _ hfield h =>
    obtain ⟨own, cut, first, others, rfl, rfl, hown, hcut, hchain⟩ := h.exists_cut_below
    exact ⟨(row, own) :: cut, rfl, .cons (.opens hfield hown) hcut, hchain⟩

/-- The rows of a block hold its main field and its subfields. -/
theorem ReadsBlock.holds {rows : Row × List Row} {block : FieldBlock}
    (h : ReadsBlock r message rows block) :
    List.Forall₂ (Holds r message) (blockRows rows) (block.main :: block.subfields) := by
  obtain ⟨hmain, hsubs⟩ := readsBlock_iff.mp h
  exact .cons (holds_main hmain) (hsubs.imp fun _ _ hsub => hsub.holds)

/-! ## Subfields by their rows -/

/-- Rows that hold a subfield of their message: they state no number, or they name a reference and
state the number of the nearest main field above. -/
def IsSubfieldRow (r : SheetReader) (message : MessageBlock) (row : Row) : Prop :=
  r.get row MessagesColumn.fieldNumber.key = "" ∨
    r.get row MessagesColumn.refFieldName.key ≠ "" ∧
      ∃ main, NearestAbove (fun main : FieldRow => main.row) message.mains row.index main ∧
        SheetReader.integerIn? r.hexValues (r.get row MessagesColumn.fieldNumber.key) =
          some main.number

theorem readNumber_eq_some {row : Row} {n : Int} : readNumber r row = .ok (some n) ↔
    r.get row MessagesColumn.fieldNumber.key ≠ "" ∧
      SheetReader.integerIn? r.hexValues (r.get row MessagesColumn.fieldNumber.key) = some n := by
  unfold readNumber
  dsimp only
  split
  next hempty =>
    have htext : r.get row MessagesColumn.fieldNumber.key = "" := by simpa using hempty
    simp [htext]
  next hnonempty =>
    have htext : r.get row MessagesColumn.fieldNumber.key ≠ "" := by simpa using hnonempty
    simp [map_eq_ok, SheetReader.readInteger_eq_ok, htext]

theorem hasReference_iff {row : Row} {number : Option Int} {spec : FieldSpec}
    (h : StatesField r row number spec) :
    spec.hasReference = true ↔ r.get row MessagesColumn.refFieldName.key ≠ "" := by
  rw [FieldSpec.hasReference, h.refNames]
  simp [Text.commaList_eq_nil]

variable {block : MessageBlock}

/-- The row of a subfield is told by its cells and the main field of its block. -/
theorem isSubfieldRow_of_readsSubfield {row : Row} {main sub : FieldRow}
    (h : ReadsSubfield r message main.number row sub)
    (hnearest : NearestAbove (fun main : FieldRow => main.row) block.mains sub.row main) :
    IsSubfieldRow r block row := by
  have hplace := h.holds.place
  obtain ⟨number, spec, hfield, hnumber, hreference, rfl⟩ := h
  have hstates := statesField_of_readField hfield
  rcases hnumber with rfl | rfl
  · left
    simpa using readNumber_isSome hstates.number
  · right
    refine ⟨(hasReference_iff hstates).mp hreference, main, ?_,
      (readNumber_eq_some.mp hstates.number).2⟩
    rwa [hplace] at hnearest

/-- The row of a main field states a number, and with a reference not that of the main field
above. -/
theorem not_isSubfieldRow_of_main {row : Row} {field : FieldBlock} {before after : List FieldBlock}
    (hascending : block.Ascending)
    (hchain : block.fields.IsChain fun above below => ¬ above.Joins below)
    (hfields : block.fields = before ++ field :: after)
    (h : readField r message row = .ok (some field.main.number, field.main.toFieldSpec)) :
    ¬ IsSubfieldRow r block row := by
  have hstates := statesField_of_readField h
  obtain ⟨hgiven, hnumber⟩ := readNumber_eq_some.mp hstates.number
  rintro (hempty | ⟨hreference, main, hnearest, hmain⟩)
  · exact hgiven hempty
  rw [hnumber, Option.some.injEq] at hmain
  rw [← hstates.place] at hnearest
  rcases List.eq_nil_or_concat before with rfl | ⟨before, above, rfl⟩
  · exact hascending.not_nearest_first hfields hnearest
  · rw [List.concat_eq_append, List.append_assoc, List.singleton_append] at hfields
    obtain rfl := (hascending.nearest_main hfields).unique hascending.mains hnearest
    rw [hfields] at hchain
    have hnot := (List.isChain_cons_cons.mp (List.isChain_split.mp hchain).2).1
    exact hnot ⟨hmain, (hasReference_iff hstates).mpr hreference⟩

/-- The fields of a message with the cuts of the rows they are read from. -/
structure ReadsCut (r : SheetReader) (block : MessageBlock) (cut : List (Row × List Row)) :
    Prop where
  blocks : List.Forall₂ (ReadsBlock r block.name) cut block.fields
  chain : block.fields.IsChain fun above below => ¬ above.Joins below
  ascending : (cut.flatMap blockRows).Pairwise fun a b => a.index < b.index

namespace ReadsCut

variable {cut : List (Row × List Row)}

theorem holds (h : ReadsCut r block cut) :
    List.Forall₂ (Holds r block.name) (cut.flatMap blockRows) block.rows :=
  List.rel_flatMap h.blocks fun _ _ => ReadsBlock.holds

theorem ascending_rows (h : ReadsCut r block cut) : block.Ascending :=
  ascending_of_forall₂ _ h.holds (fun _ _ hrow => hrow.place) h.ascending

/-- Each block is read from rows of its own. -/
theorem exists_own_rows (h : ReadsCut r block cut) {before after : List FieldBlock}
    {field : FieldBlock} (hfields : block.fields = before ++ field :: after) :
    ∃ own, (∀ row ∈ blockRows own, row ∈ cut.flatMap blockRows) ∧
      ReadsBlock r block.name own field := by
  have hblocks := h.blocks.flip
  rw [hfields] at hblocks
  obtain ⟨above, own, below, rfl, -, hown, -⟩ := forall₂_split hblocks
  exact ⟨own, fun row hrow => List.mem_flatMap.mpr ⟨own, by simp, hrow⟩, hown⟩

theorem exists_row_of_subfield (h : ReadsCut r block cut) {sub : FieldRow}
    (hsub : sub ∈ block.subfields) :
    ∃ row ∈ cut.flatMap blockRows, sub.row = row.index ∧ IsSubfieldRow r block row := by
  obtain ⟨field, hfield, hsub⟩ := List.mem_flatMap.mp hsub
  obtain ⟨before, after, hfields⟩ := List.append_of_mem hfield
  obtain ⟨own, hrows, hown⟩ := h.exists_own_rows hfields
  obtain ⟨row, hrow, hreads⟩ := forall₂_exists_of_mem_right (readsBlock_iff.mp hown).2 hsub
  exact ⟨row, hrows row (List.mem_cons_of_mem _ hrow), hreads.holds.place,
    isSubfieldRow_of_readsSubfield hreads (h.ascending_rows.nearest_subfield hfields hsub)⟩

theorem exists_row_of_main (h : ReadsCut r block cut) {main : FieldRow}
    (hmain : main ∈ block.mains) :
    ∃ row ∈ cut.flatMap blockRows, main.row = row.index ∧ ¬ IsSubfieldRow r block row := by
  obtain ⟨field, hfield, rfl⟩ := List.mem_map.mp hmain
  obtain ⟨before, after, hfields⟩ := List.append_of_mem hfield
  obtain ⟨own, hrows, hown⟩ := h.exists_own_rows hfields
  have hreads := (readsBlock_iff.mp hown).1
  exact ⟨own.1, hrows own.1 List.mem_cons_self, (holds_main hreads).place,
    not_isSubfieldRow_of_main h.ascending_rows h.chain hfields hreads⟩

/-- A field is a subfield just when its row is one of a subfield. -/
theorem mem_subfields_iff (h : ReadsCut r block cut) {row : Row} {field : FieldRow}
    (hrow : row ∈ cut.flatMap blockRows) (hfield : field ∈ block.rows)
    (hplace : field.row = row.index) : field ∈ block.subfields ↔ IsSubfieldRow r block row := by
  -- no other row bears that number
  have hsame : ∀ other ∈ cut.flatMap blockRows, field.row = other.index → other = row :=
    fun other hother hindex => eq_of_ascending h.ascending hother hrow
      (Int.ofNat_inj.mp (hindex.symm.trans hplace))
  constructor
  · intro hsub
    obtain ⟨other, hother, hindex, hrule⟩ := h.exists_row_of_subfield hsub
    rwa [hsame other hother hindex] at hrule
  · intro hrule
    refine (MessageBlock.mem_rows_iff.mp hfield).resolve_left fun hmain => ?_
    obtain ⟨other, hother, hindex, hnot⟩ := h.exists_row_of_main hmain
    rw [hsame other hother hindex] at hnot
    exact hnot hrule

end ReadsCut

theorem readsCut_of_readMessage {head : Row} {rows : List Row}
    (h : readMessage r (head, rows) = .ok block)
    (hrows : rows.Pairwise fun a b => a.index < b.index) :
    ∃ cut, cut.flatMap blockRows = rows.filter (isFieldRow r) ∧ ReadsCut r block cut := by
  obtain ⟨-, -, -, hreads⟩ := readMessage_eq_ok.mp h
  obtain ⟨cut, hcut, hblocks, hchain⟩ := hreads.exists_cut
  exact ⟨cut, hcut.symm, hblocks, hchain, hcut ▸ hrows.filter _⟩

/-! ## The sheet -/

/-- A row that opens a message, with what its cells state of it. -/
structure Opens (r : SheetReader) (row : Row) (message : MessageBlock) : Prop where
  place : message.row = row.index
  name : message.name = r.get row MessagesColumn.messageName.key
  declared : readNumber r row = .ok message.declaredNumber

/-- Rows that hold a field. -/
def holdsField (r : SheetReader) (row : Row) : Bool := !isMessageRow r row && isFieldRow r row

/-- Messages with the shape of the rows of a sheet: the message rows open the messages, in their
order, and the field rows hold the fields, in their order and each row one field. Each field is
under the nearest message above it. Subfields are told by their rows, and bear the number of the
nearest main field above them. -/
structure Mirrors (r : SheetReader) (rows : List Row) (messages : List MessageBlock) : Prop where
  opened : List.Forall₂ (Opens r) (rows.filter (isMessageRow r)) messages
  held : List.Forall₂ (fun row entry => Holds r entry.1.name row entry.2)
    (rows.filter (holdsField r)) (messages.flatMap fun message => message.rows.map (message, ·))
  ascending : (messages.flatMap MessageBlock.rows).Pairwise fun a b => a.row < b.row
  under : ∀ message ∈ messages, ∀ field ∈ message.rows,
    NearestAbove (fun message : MessageBlock => message.row) messages field.row message
  subfields_iff : ∀ row ∈ rows, ∀ message ∈ messages, ∀ field ∈ message.rows,
    field.row = row.index → (field ∈ message.subfields ↔ IsSubfieldRow r message row)
  subfields : ∀ message ∈ messages, ∀ block ∈ message.fields, ∀ sub ∈ block.subfields,
    NearestAbove (fun main : FieldRow => main.row) message.mains sub.row block.main ∧
      sub.number = block.main.number ∧ sub.refNames ≠ [] ∧
      sub.refValues.length = sub.refNames.length

section Rows

variable {rows : List Row} {messages : List MessageBlock}

theorem forall₂_opens (h : readRows r rows = .ok messages) :
    List.Forall₂ (Opens r) (rows.filter (isMessageRow r)) messages := by
  rw [filter_isHead, List.forall₂_map_left_iff]
  refine (readRows_eq_ok.mp h).2.imp fun cut message hmessage => ?_
  obtain ⟨hname, hdeclared, hplace, -⟩ := readMessage_eq_ok.mp hmessage
  exact ⟨hplace, hname, hdeclared⟩

/-- The field rows of a block are cut where the main fields of its message open. -/
def ReadsRows (r : SheetReader) (rows : Row × List Row) (message : MessageBlock) : Prop :=
  ∃ cut, cut.flatMap blockRows = rows.2.filter (isFieldRow r) ∧ ReadsCut r message cut

theorem forall₂_readsRows (h : readRows r rows = .ok messages)
    (hrows : rows.Pairwise fun a b => a.index < b.index) :
    List.Forall₂ (ReadsRows r) (cutBlocks (isMessageRow r) rows).2 messages := by
  have hinner : ∀ cut ∈ (cutBlocks (isMessageRow r) rows).2,
      cut.2.Pairwise fun a b => a.index < b.index := by
    intro cut hcut
    obtain ⟨before, after, hsplit⟩ := List.append_of_mem hcut
    rw [eq_append_of_cutBlocks hsplit] at hrows
    exact (List.pairwise_append.mp (List.pairwise_append.mp hrows).2.1.of_cons).1
  refine ((List.forall₂_and_left _ _).mpr ⟨hinner, (readRows_eq_ok.mp h).2⟩).imp ?_
  exact fun _ _ hcut => readsCut_of_readMessage hcut.2 hcut.1

/-- The field rows hold the fields of the messages, one by one. -/
theorem forall₂_holds (h : readRows r rows = .ok messages)
    (hrows : rows.Pairwise fun a b => a.index < b.index) :
    List.Forall₂ (fun row entry => Holds r entry.1.name row entry.2) (rows.filter (holdsField r))
      (messages.flatMap fun message => message.rows.map (message, ·)) := by
  have hnone : (cutBlocks (isMessageRow r) rows).1.filter (isFieldRow r) = [] :=
    List.filter_eq_nil_iff.mpr (List.find?_eq_none.mp (readRows_eq_ok.mp h).1)
  unfold holdsField
  rw [filter_not_isHead, hnone, List.nil_append]
  refine List.rel_flatMap (forall₂_readsRows h hrows) ?_
  rintro cut message ⟨own, hown, hreads⟩
  dsimp only
  rw [← hown, List.forall₂_map_right_iff]
  exact hreads.holds

/-- A field is under the nearest message above its row. -/
theorem nearest_message (h : readRows r rows = .ok messages)
    (hrows : rows.Pairwise fun a b => a.index < b.index) {message : MessageBlock}
    (hmessage : message ∈ messages) {field : FieldRow} (hfield : field ∈ message.rows) :
    NearestAbove (fun message : MessageBlock => message.row) messages field.row message := by
  obtain ⟨before, after, rfl⟩ := List.append_of_mem hmessage
  have hascending : (before ++ message :: after).Pairwise fun a b => a.row < b.row :=
    ascending_of_forall₂ _ (forall₂_opens h) (fun _ _ hopens => hopens.place) (hrows.filter _)
  obtain ⟨above, ⟨head, inner⟩, below, hcut, -, hread, hbelow⟩ :=
    forall₂_split (readRows_eq_ok.mp h).2.flip
  obtain ⟨row, hrow, hstands⟩ := exists_row_of_mem_rows hread hfield
  -- the row of the field stands between the rows of its message and those of the next ones
  rw [eq_append_of_cutBlocks hcut] at hrows
  obtain ⟨hhead, hblock⟩ := List.pairwise_cons.mp (List.pairwise_append.mp hrows).2.1
  refine nearestAbove_append hascending ?_ ?_
  · rw [(readMessage_eq_ok.mp hread).2.2.1, hstands.place]
    exact Int.ofNat_lt.mpr (hhead row (List.mem_append_left _ hrow))
  · intro other hother
    obtain ⟨⟨next, rest⟩, hnext, hreadNext⟩ := forall₂_exists_of_mem hbelow hother
    rw [(readMessage_eq_ok.mp hreadNext).2.2.1, hstands.place]
    have hmem : next ∈ below.flatMap blockRows :=
      List.mem_flatMap.mpr ⟨_, hnext, List.mem_cons_self⟩
    exact Int.ofNat_le.mpr ((List.pairwise_append.mp hblock).2.2 row hrow next hmem).le

theorem mirrors_of_readRows (h : readRows r rows = .ok messages)
    (hrows : rows.Pairwise fun a b => a.index < b.index)
    (hwell : ∀ message ∈ messages, ∀ block ∈ message.fields, block.WellFormed) :
    Mirrors r rows messages where
  opened := forall₂_opens h
  held := forall₂_holds h hrows
  ascending := by
    have hentries := ascending_of_forall₂ (fun entry => entry.2.row) (forall₂_holds h hrows)
      (fun _ _ hholds => hholds.place) (hrows.filter _)
    have hfields : messages.flatMap MessageBlock.rows =
        (messages.flatMap fun message => message.rows.map (message, ·)).map Prod.snd := by
      simp [List.map_flatMap, Function.comp_def]
    rw [hfields, List.pairwise_map]
    exact hentries
  under := fun _ hmessage _ => nearest_message h hrows hmessage
  subfields_iff := by
    intro row hrow message hmessage field hfield hplace
    obtain ⟨block, hblock, cut, hcut, hreads⟩ :=
      forall₂_exists_of_mem_right (forall₂_readsRows h hrows) hmessage
    obtain ⟨other, hother, hholds⟩ := forall₂_exists_of_mem_right hreads.holds hfield
    have hmem : other ∈ rows := by
      rw [hcut] at hother
      rw [← cutBlocks_append (isMessageRow r) rows]
      exact List.mem_append_right _ (List.mem_flatMap.mpr
        ⟨block, hblock, List.mem_cons_of_mem _ (List.mem_filter.mp hother).1⟩)
    obtain rfl : other = row := eq_of_ascending hrows hmem hrow
      (Int.ofNat_inj.mp (hholds.place.symm.trans hplace))
    exact hreads.mem_subfields_iff hother hfield hplace
  subfields := by
    intro message hmessage block hblock sub hsub
    obtain ⟨hspec, hrefs, hnumber⟩ := (hwell message hmessage block hblock).subfields sub hsub
    obtain ⟨cut, -, own, -, hreads⟩ :=
      forall₂_exists_of_mem_right (forall₂_readsRows h hrows) hmessage
    obtain ⟨before, after, hfields⟩ := List.append_of_mem hblock
    exact ⟨hreads.ascending_rows.nearest_subfield hfields hsub, hnumber, hrefs, hspec.paired.symm⟩

end Rows

/-- Each Messages sheet that is read is read to messages with the shape of the rows below its
header. -/
theorem mirrors_of_read {rules : RuleSet} {name : String} {cells : List (List String)}
    {messages : List MessageBlock} (h : read rules (.ofCells name cells) = .ok messages) :
    ∃ r, reader rules (.ofCells name cells) = .ok r ∧
      Mirrors r ((Sheet.ofCells name cells).below r.header) messages := by
  have hwell := read_wellFormed h
  obtain ⟨r, hreader, h⟩ := bind_eq_ok.mp h
  rw [readRows_rowsBelow] at h
  exact ⟨r, hreader, mirrors_of_readRows h (Sheet.below_ofCells_ascending ..) hwell⟩

/-- Two messages with a row between them that holds nothing. Subfields follow the main field they
belong to, without a number or under the number of that field. -/
def sharedRows : List (List String) :=
  [["Message Name", "Field Def #", "Field Name", "Field Type", "Array", "Components", "Scale",
    "Offset", "Units", "Bits", "Accumulate", "Ref Field Name", "Ref Field Value", "Comment"],
   ["event"],
   ["", "3", "data", "uint32"],
   ["", "", "timer", "uint16", "", "", "", "", "", "", "", "event", "1"],
   ["", "3", "speed", "uint16", "", "", "", "", "", "", "", "event", "2"],
   ["", "0", "event", "event"],
   ["", "", "", "COMMON MESSAGES"],
   ["record"],
   ["", "0", "kind", "uint8"]]

theorem mirrors_sharedRows : ∃ messages,
    read .sdk20 (.ofCells "Messages" sharedRows) = .ok messages ∧
      messages.map (fun message => message.fields.map fun block =>
        (block.main.row, block.subfields.map fun sub => (sub.row, sub.number))) =
        [[(2, [(3, 3), (4, 3)]), (5, [])], [(8, [])]] ∧
      ∃ r, reader .sdk20 (.ofCells "Messages" sharedRows) = .ok r ∧
        Mirrors r ((Sheet.ofCells "Messages" sharedRows).below r.header) messages :=
  ⟨_, rfl, rfl, mirrors_of_read rfl⟩

end MessagesSheet

end Draft

end FitProfile
