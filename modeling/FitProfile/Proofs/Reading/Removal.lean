import FitProfile.Proofs.Linking.Removal
import FitProfile.Proofs.Reading.Rearrangement
import Mathlib.Data.List.TakeWhile
/-!
# FitProfile.Proofs.Reading.Removal -- rows taken out of the Messages sheet

The Messages sheet is read row by row with two things in mind: the message and the main field
above the row. Taking out a whole message, or one subfield row, leaves both as they are for all
other rows. `read_withoutMessage` and `read_withoutSubfield` prove that the sheet is then read to
the same draft, less the one message or the one subfield.

The argument is the same at each level. Rows are cut at their heads, a cut row by row around the
place of the removal, and what is read of a list of blocks is a list of results side by side.
-/

namespace FitProfile

open FitProfile.Draft FitProfile.Outcome

/-! ## Cutting around a place -/

section Cut

variable {α β : Type} {isHead : α → Bool}

/-- Rows behind which a head or nothing follows are cut by themselves. -/
theorem cutBlocks_append_of_opens (above : List α) {below : List α}
    (hbelow : ∀ next ∈ below.head?, isHead next = true) :
    cutBlocks isHead (above ++ below) =
      ((cutBlocks isHead above).1, (cutBlocks isHead above).2 ++ (cutBlocks isHead below).2) := by
  induction above with
  | nil =>
    cases below with
    | nil => rfl
    | cons next rest =>
      have hnext : isHead next = true := hbelow next rfl
      simp [cutBlocks, hnext]
  | cons row rest ih =>
    by_cases hrow : isHead row = true <;> simp [cutBlocks, ih, hrow]

/-- Rows without a head stand in front of the first one. -/
theorem cutBlocks_append_of_forall_not {above : List α} (h : ∀ row ∈ above, isHead row = false)
    (below : List α) : cutBlocks isHead (above ++ below) =
      (above ++ (cutBlocks isHead below).1, (cutBlocks isHead below).2) := by
  induction above with
  | nil => rfl
  | cons row rest ih =>
    have hrow : isHead row = false := h row List.mem_cons_self
    simp [cutBlocks, hrow, ih fun other hmem => h other (List.mem_cons_of_mem row hmem)]

/-- Nothing stands in front of the first head when the rows open with it. -/
theorem lead_of_opens {rows : List α} (h : ∀ next ∈ rows.head?, isHead next = true) :
    (cutBlocks isHead rows).1 = [] := by
  cases rows with
  | nil => rfl
  | cons next rest =>
    have hnext : isHead next = true := h next rfl
    simp [cutBlocks, hnext]

/-- A head and the rows up to the next one are a block among the blocks around it. -/
theorem cutBlocks_append_block (above : List α) {head : α} {rows below : List α}
    (hhead : isHead head = true) (hrows : ∀ row ∈ rows, isHead row = false)
    (hbelow : ∀ next ∈ below.head?, isHead next = true) :
    cutBlocks isHead (above ++ head :: (rows ++ below)) =
      ((cutBlocks isHead above).1,
        (cutBlocks isHead above).2 ++ (head, rows) :: (cutBlocks isHead below).2) := by
  have hopens : ∀ next ∈ (head :: (rows ++ below)).head?, isHead next = true := by
    intro next hnext
    obtain rfl : head = next := by simpa using hnext
    exact hhead
  have hblock : cutBlocks isHead (rows ++ below) = (rows, (cutBlocks isHead below).2) := by
    rw [cutBlocks_append_of_forall_not hrows, lead_of_opens hbelow, List.append_nil]
  rw [cutBlocks_append_of_opens above hopens]
  simp [cutBlocks, hhead, hblock]

/-- A row behind the lead of the rows has a head above it. -/
theorem exists_head_above {above below : List α} {row : α} (hrow : isHead row = false)
    (h : row ∉ (cutBlocks isHead (above ++ row :: below)).1) :
    ∃ head ∈ above, isHead head = true := by
  by_contra hnone
  apply h
  have habove : ∀ other ∈ above, isHead other = false := by
    intro other hother
    exact Bool.eq_false_iff.mpr fun hhead => hnone ⟨other, hother, hhead⟩
  rw [cutBlocks_append_of_forall_not habove]
  simp [cutBlocks, hrow]

/-- Rows with a head among them split at the last one. -/
theorem exists_last_head {rows : List α} (h : ∃ row ∈ rows, isHead row = true) :
    ∃ outer head upper, rows = outer ++ head :: upper ∧ isHead head = true ∧
      ∀ row ∈ upper, isHead row = false := by
  have hsome : (rows.reverse.find? isHead).isSome := by
    rw [List.find?_isSome]
    obtain ⟨row, hmem, hrow⟩ := h
    exact ⟨row, List.mem_reverse.mpr hmem, hrow⟩
  obtain ⟨head, hfind⟩ := Option.isSome_iff_exists.mp hsome
  obtain ⟨hhead, upper, outer, hrows, hupper⟩ := List.find?_eq_some_iff_append.mp hfind
  refine ⟨outer.reverse, head, upper.reverse, ?_, hhead, ?_⟩
  · rw [← List.reverse_reverse rows, hrows]
    simp
  · intro row hrow
    simpa using hupper row (List.mem_reverse.mp hrow)

/-- Rows split at the first head. -/
theorem exists_first_head (isHead : α → Bool) (rows : List α) :
    ∃ lower below, rows = lower ++ below ∧ (∀ row ∈ lower, isHead row = false) ∧
      ∀ next ∈ below.head?, isHead next = true := by
  refine ⟨_, _, (List.takeWhile_append_dropWhile (p := fun row => !isHead row)).symm, ?_, ?_⟩
  · intro row hrow
    simpa using List.mem_takeWhile_imp hrow
  · intro next hnext
    have hfirst := List.head?_dropWhile_not (fun row => !isHead row) rows
    rw [Option.mem_def.mp hnext] at hfirst
    simpa using hfirst

/-- The rows above a subfield row: the nearest row of a message, and below it the nearest row of a
main field. -/
structure Encloses (isMessage isMain : α → Bool) (above : List α) (head main : α)
    (between : List α) : Prop where
  rows : ∃ outer upper, above = outer ++ head :: (upper ++ main :: between) ∧
    ∀ row ∈ upper ++ main :: between, isMessage row = false
  message : isMessage head = true
  main : isMain main = true
  between : ∀ row ∈ between, isMain row = false

/-- Rows that others were made from enclose a row as those do. -/
theorem Encloses.of_map {isMessage isMain : β → Bool} {f : α → β} {above : List α} {head main : β}
    {between : List β} (h : Encloses isMessage isMain (above.map f) head main between) :
    ∃ head' main' between', head = f head' ∧ main = f main' ∧ between = between'.map f ∧
      Encloses (isMessage ∘ f) (isMain ∘ f) above head' main' between' := by
  obtain ⟨outer, upper, habove, hrows⟩ := h.rows
  obtain ⟨outer, _, rfl, rfl, hblock⟩ := List.map_eq_append_iff.mp habove
  obtain ⟨head, _, rfl, rfl, hbelow⟩ := List.map_eq_cons_iff.mp hblock
  obtain ⟨upper, _, rfl, rfl, hfield⟩ := List.map_eq_append_iff.mp hbelow
  obtain ⟨main, between, rfl, rfl, rfl⟩ := List.map_eq_cons_iff.mp hfield
  refine ⟨head, main, between, rfl, rfl, rfl, ⟨outer, upper, rfl, ?_⟩, h.message, h.main, ?_⟩
  · intro row hrow
    apply hrows
    rw [← List.map_cons, ← List.map_append]
    exact List.mem_map_of_mem hrow
  · intro row hrow
    exact h.between _ (List.mem_map_of_mem hrow)

end Cut

namespace Draft

namespace MessagesSheet

variable {r : SheetReader} {message : String}

/-! ## A main field and its subfields -/

/-- A row that is read to a subfield of the main field with number `n`. -/
def ReadsSubfield (r : SheetReader) (message : String) (n : Int) (row : Row) (sub : FieldRow) :
    Prop :=
  ∃ number spec, readField r message row = .ok (number, spec) ∧
    (number = none ∨ number = some n) ∧ spec.hasReference = true ∧ sub = ⟨spec, n⟩

theorem ReadsSubfield.name {n : Int} {row : Row} {sub : FieldRow}
    (h : ReadsSubfield r message n row sub) :
    sub.name = r.get row MessagesColumn.fieldName.key := by
  obtain ⟨number, spec, hfield, -, -, rfl⟩ := h
  exact (statesField_of_readField hfield).name

/-- Rows that all join the block above them are its subfields, row by row. -/
theorem reads_some_singleton {block block' : FieldBlock} {rows : List Row} :
    Reads r message (some block) rows [block'] ↔
      ∃ subs, List.Forall₂ (ReadsSubfield r message block.main.number) rows subs ∧
        block' = { block with subfields := block.subfields ++ subs } := by
  induction rows generalizing block with
  | nil =>
    constructor
    · intro h
      cases h
      exact ⟨[], .nil, by rw [List.append_nil]⟩
    · rintro ⟨_, ⟨⟩, rfl⟩
      rw [List.append_nil]
      exact .done (some block)
  | cons row rest ih =>
    constructor
    · intro h
      cases h with
      | @joins _ _ number spec _ _ hfield hnumber hreference h =>
        obtain ⟨subs, hsubs, rfl⟩ := ih.mp h
        refine ⟨⟨spec, block.main.number⟩ :: subs, .cons ?_ hsubs, ?_⟩
        · exact ⟨number, spec, hfield, hnumber, hreference, rfl⟩
        · rw [withSubfield, List.append_assoc, List.singleton_append]
      | next _ _ h =>
        -- the row would open a second block
        obtain ⟨_, _, hnil, -⟩ := h.main_of_some
        cases hnil
    · rintro ⟨_, _ | ⟨⟨number, spec, hfield, hnumber, hreference, rfl⟩, hsubs⟩, rfl⟩
      refine .joins hfield hnumber hreference (ih.mpr ⟨_, hsubs, ?_⟩)
      rw [withSubfield, List.append_assoc, List.singleton_append]

/-- A block is read from the row of its main field and a row for each subfield. -/
theorem readsBlock_iff {head : Row} {rows : List Row} {block : FieldBlock} :
    ReadsBlock r message (head, rows) block ↔
      readField r message head = .ok (some block.main.number, block.main.toFieldSpec) ∧
        List.Forall₂ (ReadsSubfield r message block.main.number) rows block.subfields := by
  constructor
  · intro h
    cases h with
    | opens hfield h =>
      obtain ⟨subs, hsubs, rfl⟩ := reads_some_singleton.mp h
      exact ⟨hfield, hsubs⟩
  · rintro ⟨hfield, hsubs⟩
    exact .opens hfield (reads_some_singleton.mpr ⟨_, hsubs, rfl⟩)

/-! ## The fields of a message -/

/-- Above a row that is no main row there is a main row. -/
theorem exists_main_above {above below : List Row} {row : Row} {blocks : List FieldBlock}
    (h : Reads r message none (above ++ row :: below) blocks)
    (hmains : ∀ block ∈ blocks, block.main.refNames = []) (hrow : isMainRow r row = false) :
    ∃ main ∈ above, isMainRow r main = true := by
  obtain ⟨first, rest, -, hfirst, hlead, -⟩ := h.split hmains
  obtain rfl : first = none := by simpa using hfirst
  apply exists_head_above hrow
  rw [hlead.eq_nil]
  exact List.not_mem_nil

/-- Without the row of a subfield the other rows are read to the same fields, less the one
subfield. -/
theorem reads_withoutSubfield {upper between below : List Row} {main row : Row}
    {blocks : List FieldBlock}
    (h : Reads r message none (upper ++ main :: (between ++ row :: below)) blocks)
    (hmains : ∀ block ∈ blocks, block.main.refNames = []) (hmain : isMainRow r main = true)
    (hbetween : ∀ other ∈ between, isMainRow r other = false) (hrow : isMainRow r row = false) :
    ∃ fieldsAbove field subs sub subs' fieldsBelow,
      blocks = fieldsAbove ++ ⟨field, subs ++ sub :: subs'⟩ :: fieldsBelow ∧
      Reads r message none (upper ++ main :: (between ++ below))
        (fieldsAbove ++ ⟨field, subs ++ subs'⟩ :: fieldsBelow) ∧
      field.name = r.get main MessagesColumn.fieldName.key ∧
      sub.name = r.get row MessagesColumn.fieldName.key ∧ subs.length = between.length := by
  obtain ⟨lower, below, rfl, hlower, hbelow⟩ := exists_first_head (isMainRow r) below
  have hrows : ∀ other ∈ between ++ row :: lower, isMainRow r other = false :=
    List.forall_mem_append.mpr ⟨hbetween, List.forall_mem_cons.mpr ⟨hrow, hlower⟩⟩
  have hothers : ∀ other ∈ between ++ lower, isMainRow r other = false :=
    List.forall_mem_append.mpr ⟨hbetween, hlower⟩
  have hsplit : between ++ row :: (lower ++ below) = between ++ row :: lower ++ below := by simp
  rw [hsplit] at h
  -- the row stands in the block of the main row, and only that block is read in another way
  obtain ⟨first, rest, rfl, hfirst, hlead, hrest⟩ := h.split hmains
  obtain rfl : first = none := by simpa using hfirst
  rw [cutBlocks_append_block upper hmain hrows hbelow] at hlead hrest
  obtain ⟨fieldsAbove, block, fieldsBelow, rfl, habove, hblock, hbelowBlocks⟩ := forall₂_split hrest
  obtain ⟨hfield, hsubs⟩ := readsBlock_iff.mp hblock
  obtain ⟨field, subfields⟩ := block
  obtain ⟨subs, sub, subs', rfl, hbetweenSubs, hsub, hlowerSubs⟩ := forall₂_split hsubs
  refine ⟨fieldsAbove, field, subs, sub, subs', fieldsBelow, rfl, ?_,
    (statesField_of_readField hfield).name, hsub.name, hbetweenSubs.length_eq.symm⟩
  have hblock' : ReadsBlock r message (main, between ++ lower) ⟨field, subs ++ subs'⟩ :=
    readsBlock_iff.mpr ⟨hfield, List.rel_append hbetweenSubs hlowerSubs⟩
  have hflat := cutBlocks_append (isMainRow r) (upper ++ main :: (between ++ lower ++ below))
  have hheads : ∀ cut ∈ (cutBlocks (isMainRow r) (upper ++ main :: (between ++ lower ++ below))).2,
      isMainRow r cut.1 = true := fun _ => isHead_of_mem_cutBlocks
  rw [cutBlocks_append_block upper hmain hothers hbelow] at hflat hheads
  rw [hlead.eq_nil, List.nil_append, List.append_assoc] at hflat
  rw [← hflat]
  exact reads_flatMap hheads (forall₂_join habove hblock' hbelowBlocks)

/-! ## The messages of a sheet -/

/-- Rows are read when none in front of the first message holds a field, message by message. -/
theorem readRows_eq_ok {rows : List Row} {messages : List MessageBlock} :
    readRows r rows = .ok messages ↔
      (cutBlocks (isMessageRow r) rows).1.find? (isFieldRow r) = none ∧
        List.Forall₂ (fun block message => readMessage r block = .ok message)
          (cutBlocks (isMessageRow r) rows).2 messages := by
  simp only [readRows]
  split
  next row hrow => simp [hrow]
  next hnone => rw [readMessages_eq_mapM, mapM_eq_ok, and_iff_right hnone]

theorem readMessage_eq_ok {head : Row} {rows : List Row} {result : MessageBlock} :
    readMessage r (head, rows) = .ok result ↔
      result.name = r.get head MessagesColumn.messageName.key ∧
        readNumber r head = .ok result.declaredNumber ∧ result.row = head.index ∧
        Reads r result.name none (rows.filter (isFieldRow r)) result.fields := by
  constructor
  · intro h
    obtain ⟨declared, hdeclared, h⟩ := bind_eq_ok.mp h
    obtain ⟨fields, hfields, hpure⟩ := bind_eq_ok.mp h
    cases hpure
    exact ⟨rfl, hdeclared, rfl, reads_of_readFields hfields⟩
  · obtain ⟨name, declared, row, fields⟩ := result
    rintro ⟨rfl, hdeclared, rfl, hfields⟩
    exact bind_eq_ok.mpr ⟨declared, hdeclared, bind_eq_ok.mpr ⟨fields,
      readFields_of_reads hfields, rfl⟩⟩

/-- Without the rows of a message the other rows are read to the other messages. -/
theorem readRows_withoutMessage {above rows below : List Row} {head : Row}
    {messages : List MessageBlock} (hhead : isMessageRow r head = true)
    (hrows : ∀ row ∈ rows, isMessageRow r row = false)
    (hbelow : ∀ next ∈ below.head?, isMessageRow r next = true)
    (h : readRows r (above ++ head :: (rows ++ below)) = .ok messages) :
    ∃ before message after, messages = before ++ message :: after ∧
      readRows r (above ++ below) = .ok (before ++ after) ∧
      message.name = r.get head MessagesColumn.messageName.key := by
  rw [readRows_eq_ok, cutBlocks_append_block above hhead hrows hbelow] at h
  obtain ⟨hlead, hmessages⟩ := h
  obtain ⟨before, message, after, rfl, hbefore, hmessage, hafter⟩ := forall₂_split hmessages
  refine ⟨before, message, after, rfl, ?_, (readMessage_eq_ok.mp hmessage).1⟩
  rw [readRows_eq_ok, cutBlocks_append_of_opens above hbelow]
  exact ⟨hlead, List.rel_append hbefore hafter⟩

/-- Above a field row there is the row of a message. -/
theorem exists_message_above {above below : List Row} {row : Row} {messages : List MessageBlock}
    (h : readRows r (above ++ row :: below) = .ok messages) (hfield : isFieldRow r row = true)
    (hrow : isMessageRow r row = false) : ∃ head ∈ above, isMessageRow r head = true := by
  apply exists_head_above hrow
  intro hmem
  exact List.find?_eq_none.mp (readRows_eq_ok.mp h).1 row hmem hfield

/-- The rows of a message around the row of a subfield that is read. -/
theorem filter_isFieldRow_around (upper lower : List Row) {row : Row}
    (hrow : isFieldRow r row = true) : (upper ++ row :: lower).filter (isFieldRow r) =
      upper.filter (isFieldRow r) ++ row :: lower.filter (isFieldRow r) := by
  rw [List.filter_append, List.filter_cons_of_pos hrow]

/-- Without the row of a subfield a message is read without that subfield. -/
theorem readMessage_withoutSubfield {head row : Row} {rows lower : List Row}
    {result : MessageBlock} (hfield : isFieldRow r row = true) (hrow : isMainRow r row = false)
    (h : readMessage r (head, rows ++ row :: lower) = .ok result)
    (hmains : ∀ field ∈ result.fields, field.main.refNames = []) :
    ∃ upper main between, rows = upper ++ main :: between ∧ isMainRow r main = true ∧
      (∀ other ∈ between, isMainRow r other = false) ∧
      ∃ fieldsAbove field subs sub subs' fieldsBelow,
        result.fields = fieldsAbove ++ ⟨field, subs ++ sub :: subs'⟩ :: fieldsBelow ∧
        readMessage r (head, rows ++ lower) =
          .ok { result with fields := fieldsAbove ++ ⟨field, subs ++ subs'⟩ :: fieldsBelow } ∧
        field.name = r.get main MessagesColumn.fieldName.key ∧
        sub.name = r.get row MessagesColumn.fieldName.key ∧
        subs.length = (between.filter (isFieldRow r)).length := by
  obtain ⟨hname, hdeclared, hindex, hreads⟩ := readMessage_eq_ok.mp h
  rw [filter_isFieldRow_around rows lower hfield] at hreads
  have habove : ∃ main ∈ rows, isMainRow r main = true := by
    obtain ⟨main, hmem, hmain⟩ := exists_main_above hreads hmains hrow
    exact ⟨main, (List.mem_filter.mp hmem).1, hmain⟩
  obtain ⟨upper, main, between, rfl, hmain, hbetween⟩ := exists_last_head habove
  refine ⟨upper, main, between, rfl, hmain, hbetween, ?_⟩
  have hmainField := isFieldRow_of_isMainRow hmain
  rw [filter_isFieldRow_around upper between hmainField, List.append_assoc, List.cons_append]
    at hreads
  have hothers : ∀ other ∈ between.filter (isFieldRow r), isMainRow r other = false :=
    fun other hmem => hbetween other (List.mem_filter.mp hmem).1
  obtain ⟨fieldsAbove, field, subs, sub, subs', fieldsBelow, hfields, hrest, hnames⟩ :=
    reads_withoutSubfield hreads hmains hmain hothers hrow
  refine ⟨fieldsAbove, field, subs, sub, subs', fieldsBelow, hfields, ?_, hnames⟩
  refine readMessage_eq_ok.mpr ⟨hname, hdeclared, hindex, ?_⟩
  rw [List.filter_append, filter_isFieldRow_around upper between hmainField, List.append_assoc,
    List.cons_append]
  exact hrest

/-- Without the row of a subfield the other rows are read to the same messages, less the one
subfield. -/
theorem readRows_withoutSubfield {above below : List Row} {row : Row} {messages : List MessageBlock}
    (hfield : isFieldRow r row = true) (hmessage : isMessageRow r row = false)
    (hrow : isMainRow r row = false) (h : readRows r (above ++ row :: below) = .ok messages)
    (hmains : ∀ message ∈ messages, ∀ field ∈ message.fields, field.main.refNames = []) :
    ∃ head main between, Encloses (isMessageRow r) (isMainRow r) above head main between ∧
      ∃ (s : Site) (subs : List FieldRow) (sub : FieldRow) (subs' : List FieldRow),
        messages = s.messages (subs ++ sub :: subs') ∧
        readRows r (above ++ below) = .ok (s.messages (subs ++ subs')) ∧
        s.name = r.get head MessagesColumn.messageName.key ∧
        s.main.name = r.get main MessagesColumn.fieldName.key ∧
        sub.name = r.get row MessagesColumn.fieldName.key ∧
        subs.length = (between.filter (isFieldRow r)).length := by
  obtain ⟨outer, head, rows, rfl, hhead, hrows⟩ :=
    exists_last_head (exists_message_above h hfield hmessage)
  obtain ⟨lower, below, rfl, hlower, hbelow⟩ := exists_first_head (isMessageRow r) below
  have hblock : ∀ other ∈ rows ++ row :: lower, isMessageRow r other = false :=
    List.forall_mem_append.mpr ⟨hrows, List.forall_mem_cons.mpr ⟨hmessage, hlower⟩⟩
  have hrest : ∀ other ∈ rows ++ lower, isMessageRow r other = false :=
    List.forall_mem_append.mpr ⟨hrows, hlower⟩
  have hsplit : outer ++ head :: rows ++ row :: (lower ++ below) =
      outer ++ head :: (rows ++ row :: lower ++ below) := by simp
  rw [hsplit, readRows_eq_ok, cutBlocks_append_block outer hhead hblock hbelow] at h
  obtain ⟨hlead, hread⟩ := h
  obtain ⟨messagesAbove, message, messagesBelow, rfl, habove, hmessageRead, hbelowRead⟩ :=
    forall₂_split hread
  obtain ⟨upper, main, between, rfl, hmain, hbetween, fieldsAbove, field, subs, sub, subs',
    fieldsBelow, hfields, hmessageRest, hfieldName, hsubName, hlength⟩ :=
    readMessage_withoutSubfield hfield hrow hmessageRead (hmains message (by simp))
  refine ⟨head, main, between, ⟨⟨outer, upper, rfl, hrows⟩, hhead, hmain, hbetween⟩, ?_⟩
  let s : Site := ⟨messagesAbove, message.name, message.declaredNumber, message.row, fieldsAbove,
    field, fieldsBelow, messagesBelow⟩
  have hwith : message = s.message (subs ++ sub :: subs') := by
    show message = ⟨message.name, message.declaredNumber, message.row, _⟩
    rw [Site.fields, ← hfields]
  refine ⟨s, subs, sub, subs', ?_, ?_, (readMessage_eq_ok.mp hmessageRead).1, hfieldName, hsubName,
    hlength⟩
  · show messagesAbove ++ message :: messagesBelow = messagesAbove ++ s.message _ :: messagesBelow
    rw [← hwith]
  · have hjoin : outer ++ head :: (upper ++ main :: between) ++ (lower ++ below) =
        outer ++ head :: (upper ++ main :: between ++ lower ++ below) := by simp
    rw [hjoin, readRows_eq_ok, cutBlocks_append_block outer hhead hrest hbelow]
    exact ⟨hlead, forall₂_join habove hmessageRest hbelowRead⟩

end MessagesSheet

end Draft

/-! ## The sheet -/

namespace Layout

/-- Rows of the Messages sheet that hold a field, if they do not open a message. -/
def isField (l : Layout) (rules : RuleSet) (row : List String) : Bool :=
  l.under rules.messagesColumns row MessagesColumn.fieldNumber.key != "" ||
    l.under rules.messagesColumns row MessagesColumn.fieldName.key != ""

/-- The cell of a row of the Messages sheet in one of its columns. -/
def cell (l : Layout) (rules : RuleSet) (row : List String) (column : MessagesColumn) : String :=
  l.under rules.messagesColumns row column.key

end Layout

namespace Draft

namespace MessagesSheet

open Layout SheetReader

variable {rules : RuleSet} {name : String} {l : Layout}

section Placeless

variable (rules name l)

theorem isMessageRow_placeless :
    isMessageRow (l.reader rules.messagesColumns name rules.hexValues) ∘ Row.mk 0 =
      l.isMessage rules := by
  funext row
  simp [isMessageRow, get_reader, Layout.isMessage]

theorem isMainRow_placeless :
    isMainRow (l.reader rules.messagesColumns name rules.hexValues) ∘ Row.mk 0 =
      l.isMain rules := by
  funext row
  simp [isMainRow, get_reader, Layout.isMain]

theorem isFieldRow_placeless :
    isFieldRow (l.reader rules.messagesColumns name rules.hexValues) ∘ Row.mk 0 =
      l.isField rules := by
  funext row
  simp [isFieldRow, get_reader, Layout.isField]

end Placeless

/-- A sheet that is read bears all labels that are required. -/
theorem missing?_of_read (hleads : l.Leads) {messages : List MessageBlock}
    (h : read rules (.ofCells name l.rows) = .ok messages) :
    Columns.missing? l.headerRow rules.requiredMessagesColumns rules.messagesColumns = none := by
  rw [read_ofCells hleads] at h
  split at h
  next => cases h
  next hnone => exact hnone

/-- What a sheet is read to, without places, is what its rows are read to. -/
theorem readRows_placeless (hleads : l.Leads) {messages : List MessageBlock}
    (h : read rules (.ofCells name l.rows) = .ok messages) :
    readRows (l.reader rules.messagesColumns name rules.hexValues) l.placeless =
      .ok (messages.map MessageBlock.content) := by
  have hread : Corresponds _ _ (read rules (.ofCells name l.rows)) _ :=
    corresponds_placeless hleads (missing?_of_read hleads h)
  rw [h] at hread
  exact hread.eq_ok

/-- A sheet is read when other rows below its header are. -/
theorem exists_read_of_placeless (hleads : l.Leads) {messages : List MessageBlock}
    (h : read rules (.ofCells name l.rows) = .ok messages) {below : List (List String)}
    {placeless' : List MessageBlock}
    (hbelow : readRows (l.reader rules.messagesColumns name rules.hexValues)
      (below.map (Row.mk 0)) = .ok placeless') :
    ∃ messages', read rules (.ofCells name { l with below := below }.rows) = .ok messages' ∧
      placeless' = messages'.map MessageBlock.content := by
  have hmissing := missing?_of_read hleads h
  have hleads' : Leads { l with below := below } := ⟨hleads.above, hleads.header⟩
  have hread : Corresponds _ _ (read rules (.ofCells name { l with below := below }.rows))
      (readRows (l.reader rules.messagesColumns name rules.hexValues) (below.map (Row.mk 0))) :=
    corresponds_placeless hleads' hmissing
  rw [hbelow] at hread
  exact hread.exists_eq_ok

/-- Without the rows of a message the sheet is read to the other messages. -/
theorem read_withoutMessage {above rows below : List (List String)} {head : List String}
    (hleads : l.Leads) (hrows : l.below = above ++ head :: (rows ++ below))
    (hhead : l.isMessage rules head = true) (hinner : ∀ row ∈ rows, l.isMessage rules row = false)
    (hnext : ∀ next ∈ below.head?, l.isMessage rules next = true) {messages : List MessageBlock}
    (h : read rules (.ofCells name l.rows) = .ok messages) :
    ∃ messages', read rules (.ofCells name { l with below := above ++ below }.rows) =
        .ok messages' ∧
      ∃ before message after, messages.map MessageBlock.content = before ++ message :: after ∧
        messages'.map MessageBlock.content = before ++ after ∧
        message.name = l.cell rules head .messageName := by
  have hread := readRows_placeless hleads h
  have hmessage := congrFun (isMessageRow_placeless rules name l)
  rw [placeless, hrows, List.map_append, List.map_cons, List.map_append] at hread
  have hinner' : ∀ row ∈ rows.map (Row.mk 0),
      isMessageRow (l.reader rules.messagesColumns name rules.hexValues) row = false := by
    intro row hrow
    obtain ⟨cells, hcells, rfl⟩ := List.mem_map.mp hrow
    exact (hmessage cells).trans (hinner cells hcells)
  have hnext' : ∀ next ∈ (below.map (Row.mk 0)).head?,
      isMessageRow (l.reader rules.messagesColumns name rules.hexValues) next = true := by
    intro next hmem
    rw [List.head?_map, Option.mem_def, Option.map_eq_some_iff] at hmem
    obtain ⟨cells, hcells, rfl⟩ := hmem
    exact (hmessage cells).trans (hnext cells hcells)
  obtain ⟨before, message, after, hmessages, hrest, hname⟩ :=
    readRows_withoutMessage ((hmessage head).trans hhead) hinner' hnext' hread
  rw [← List.map_append] at hrest
  obtain ⟨messages', hread', hcontent⟩ := exists_read_of_placeless hleads h hrest
  refine ⟨messages', hread', before, message, after, hmessages, hcontent.symm, ?_⟩
  rw [hname, get_reader, cell]

/-- Without the row of a subfield the sheet is read to the same messages, less the subfield. -/
theorem read_withoutSubfield {above below : List (List String)} {row : List String}
    (hleads : l.Leads) (hrows : l.below = above ++ row :: below)
    (hfield : l.isField rules row = true) (hmessage : l.isMessage rules row = false)
    (hmain : l.isMain rules row = false) {messages : List MessageBlock}
    (h : read rules (.ofCells name l.rows) = .ok messages)
    (hmains : ∀ message ∈ messages, ∀ field ∈ message.fields, field.main.refNames = []) :
    ∃ messages', read rules (.ofCells name { l with below := above ++ below }.rows) =
        .ok messages' ∧
      ∃ head main between, Encloses (l.isMessage rules) (l.isMain rules) above head main between ∧
        ∃ (s : Site) (subs : List FieldRow) (sub : FieldRow) (subs' : List FieldRow),
          messages.map MessageBlock.content = s.messages (subs ++ sub :: subs') ∧
          messages'.map MessageBlock.content = s.messages (subs ++ subs') ∧
          s.name = l.cell rules head .messageName ∧ s.main.name = l.cell rules main .fieldName ∧
          sub.name = l.cell rules row .fieldName ∧
          subs.length = (between.filter (l.isField rules)).length := by
  have hread := readRows_placeless hleads h
  rw [placeless, hrows, List.map_append, List.map_cons] at hread
  have hmains' : ∀ message ∈ messages.map MessageBlock.content, ∀ field ∈ message.fields,
      field.main.refNames = [] := by
    intro _ hmessage _ hfield
    obtain ⟨message, hmem, rfl⟩ := List.mem_map.mp hmessage
    obtain ⟨field, hmemField, rfl⟩ := List.mem_map.mp hfield
    exact hmains message hmem field hmemField
  obtain ⟨_, _, _, hencloses, s, subs, sub, subs', hmessages, hrest, hname, hmainName, hsubName,
    hlength⟩ := readRows_withoutSubfield
      ((congrFun (isFieldRow_placeless rules name l) row).trans hfield)
      ((congrFun (isMessageRow_placeless rules name l) row).trans hmessage)
      ((congrFun (isMainRow_placeless rules name l) row).trans hmain) hread hmains'
  obtain ⟨head, main, between, rfl, rfl, rfl, habove⟩ := hencloses.of_map
  rw [isMessageRow_placeless, isMainRow_placeless] at habove
  rw [← List.map_append] at hrest
  obtain ⟨messages', hread', hcontent⟩ := exists_read_of_placeless hleads h hrest
  refine ⟨messages', hread', head, main, between, habove, s, subs, sub, subs', hmessages,
    hcontent.symm, ?_, ?_, ?_, ?_⟩
  · rw [hname, get_reader, cell]
  · rw [hmainName, get_reader, cell]
  · rw [hsubName, get_reader, cell]
  · rw [hlength, List.filter_map, List.length_map, isFieldRow_placeless]

end MessagesSheet

end Draft

end FitProfile
