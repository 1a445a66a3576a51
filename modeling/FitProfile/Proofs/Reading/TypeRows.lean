import FitProfile.Proofs.Reading.TypeGrammar
import FitProfile.Proofs.Wording
import Mathlib.Algebra.Group.Nat.Defs
/-!
# FitProfile.Proofs.Reading.TypeRows -- the Types sheet is read by its grammar

The rows of a Types sheet are cut into blocks to be read, a type and its values at a time. The
lemmas here first undo that: `readRows_eq` says that reading is the check of each row given those
above it, one after the other, and then the types that the rows state. Along such a run accepted
rows are passed with all their warnings, and the first row that breaks a rule ends it.
`read_follows_grammar` puts both together for a sheet.

There is one thing that the grammar leaves out. A hexadecimal value may have more digits than are
written in decimal, and a warning about it then ends the work (`twinSheet_refused`).
-/

namespace FitProfile

open FitProfile.Draft FitProfile.Outcome

namespace Draft

namespace TypesSheet

variable {r : SheetReader}

/-! ## Runs -/

/-- The checks of rows below others, one after the other. -/
def checkRows (r : SheetReader) (above : List Row) : List Row → Reported Unit
  | [] => pure ()
  | row :: below => do
    check r above row
    checkRows r (above ++ [row]) below

theorem checkRows_append (above rows below : List Row) :
    checkRows r above (rows ++ below) =
      (checkRows r above rows >>= fun _ => checkRows r (above ++ rows) below) := by
  induction rows generalizing above with
  | nil => simp [checkRows]
  | cons row rest ih =>
    simp only [List.cons_append, checkRows, ih, bind_assoc, List.append_assoc, List.nil_append]

section Run

variable {rows : List Row}

/-- Rows that keep the rules, and whose warnings can be written. -/
structure Accepted (r : SheetReader) (rows : List Row) : Prop where
  grammatical : Grammatical r rows
  writable : ∀ w ∈ warnings r rows, w.isWritable = true

theorem accepted_nil : Accepted r [] := ⟨grammatical_nil, by simp [warnings, warningsBelow]⟩

theorem accepted_concat {above : List Row} {row : Row} : Accepted r (above ++ [row]) ↔
    Accepted r above ∧ Fits r above row ∧ ∀ w ∈ rowWarnings r above row, w.isWritable = true := by
  constructor
  · rintro ⟨hgrammatical, hwritable⟩
    obtain ⟨habove, hrow⟩ := grammatical_concat.mp hgrammatical
    rw [warnings_concat, List.forall_mem_append] at hwritable
    exact ⟨⟨habove, hwritable.1⟩, hrow, hwritable.2⟩
  · rintro ⟨habove, hrow, hwritable⟩
    refine ⟨grammatical_concat.mpr ⟨habove.grammatical, hrow⟩, ?_⟩
    rw [warnings_concat, List.forall_mem_append]
    exact ⟨habove.writable, hwritable⟩

/-- The values above a row state integers where the rules hold. -/
theorem Accepted.stated (h : Accepted r rows) :
    ∀ other ∈ openValues r rows, (statedInteger? r other).isSome := by
  intro other hother
  obtain ⟨hmem, hvalue⟩ := List.mem_filter.mp hother
  have htype : isTypeRow r other = false := by simpa using List.mem_rtakeWhile_imp hmem
  exact (h.grammatical.stated other ((List.rtakeWhile_suffix _ _).mem hmem)
    (holdsValue_eq_true.mpr ⟨htype, hvalue⟩)).2

theorem checkRows_concat (above : List Row) (row : Row) :
    checkRows r [] (above ++ [row]) = (checkRows r [] above >>= fun _ => check r above row) := by
  simp only [checkRows_append, checkRows, List.nil_append, bind_pure_unit]

/-- Accepted rows are passed with all their warnings. -/
theorem checkRows_of_accepted (h : Accepted r rows) :
    checkRows r [] rows = ⟨(warnings r rows).map .warning, .ok ()⟩ := by
  induction rows using List.reverseRecOn with
  | nil => rfl
  | append_singleton above row ih =>
    obtain ⟨habove, hrow, hwritable⟩ := accepted_concat.mp h
    rw [checkRows_concat, ih habove, Reported.bind_ok, check_of_fits habove.stated hrow hwritable,
      warnings_concat, List.map_append]

/-- The first row that breaks a rule ends the work, whatever rows are below. -/
theorem checkRows_of_breaks {above below : List Row} {row : Row} {cut : List DuplicateName}
    {fault : Fault} (habove : Accepted r above) (hrow : Breaks r above row cut fault) :
    checkRows r [] (above ++ row :: below) =
      ⟨(warnings r above ++ cut).map .warning, .error fault⟩ := by
  rw [checkRows_append, checkRows_of_accepted habove, Reported.bind_ok, List.nil_append, checkRows,
    check_of_breaks habove.stated hrow, Reported.bind_error, List.map_append]

/-- Rows that are not accepted have a first one that breaks a rule. -/
theorem exists_first_break (h : ¬ Accepted r rows) : ∃ above row below cut fault,
    rows = above ++ row :: below ∧ Accepted r above ∧ Breaks r above row cut fault := by
  induction rows using List.reverseRecOn with
  | nil => exact absurd accepted_nil h
  | append_singleton above row ih =>
    by_cases habove : Accepted r above
    · rcases fits_or_breaks r above row with ⟨hrow, hwritable⟩ | ⟨cut, fault, hbreaks⟩
      · exact absurd (accepted_concat.mpr ⟨habove, hrow, hwritable⟩) h
      · exact ⟨above, row, [], cut, fault, rfl, habove, hbreaks⟩
    · obtain ⟨upper, first, below, cut, fault, rfl, hupper, hbreaks⟩ := ih habove
      exact ⟨upper, first, below ++ [row], cut, fault, by simp, hupper, hbreaks⟩

end Run

/-! ## Reading row by row -/

section Blocks

variable {above : List Row} {head : Row}

/-- The values of a type are read row by row. -/
theorem readValues_eq {inner : List Row} (hhead : openType? r above = some head)
    (hinner : ∀ row ∈ inner, isTypeRow r row = false) :
    readValues r (r.get head TypesColumn.typeName.key) ((openValues r above).map (statedValue r))
        inner =
      (checkRows r above inner >>= fun _ => pure ((openValues r above ++
        inner.filter (isValueRow r)).map (statedValue r))) := by
  induction inner generalizing above with
  | nil => simp [readValues, checkRows]
  | cons row rest ih =>
    obtain ⟨hrow, hrest⟩ := List.forall_mem_cons.mp hinner
    have hunder : openType? r (above ++ [row]) = some head := by
      rw [openType?_concat, hrow, if_neg Bool.false_ne_true, hhead]
    have hbelow := ih hunder hrest
    rw [openValues_concat, hrow, if_neg Bool.false_ne_true] at hbelow
    rw [readValues, checkRows]
    by_cases hvalue : isValueRow r row = true
    · rw [if_pos hvalue] at hbelow ⊢
      rw [check_of_value hrow hvalue hhead, List.filter_cons_of_pos hvalue]
      cases hread : readValue r row with
      | error fault => rfl
      | ok value =>
        obtain rfl := eq_statedValue_of_readValue hread
        have hok : Reported.ofExcept (.ok (statedValue r row)) = pure (statedValue r row) := rfl
        rw [List.map_append, List.map_singleton, List.append_assoc, List.singleton_append]
          at hbelow
        simp only [hok, pure_bind, bind_assoc, hbelow]
    · rw [if_neg hvalue] at hbelow ⊢
      have hcheck : check r above row = pure () := by
        simp only [check, hrow, hvalue, Bool.false_eq_true, if_false]
      rw [hcheck, pure_bind, List.filter_cons_of_neg hvalue]
      exact hbelow

/-- A type is read from its row and the rows below, row by row. -/
theorem readType_eq {inner : List Row} (above : List Row) (hhead : isTypeRow r head = true)
    (hinner : ∀ row ∈ inner, isTypeRow r row = false) :
    readType r (head, inner) =
      (checkRows r above (head :: inner) >>= fun _ => pure (statedType r head inner)) := by
  have hunder : openType? r (above ++ [head]) = some head := by
    rw [openType?_concat, if_pos hhead]
  have hvalues := readValues_eq hunder hinner
  rw [openValues_concat, if_pos hhead, List.map_nil, List.nil_append] at hvalues
  simp only [readType, checkRows, check, hhead, if_true]
  split
  next => rfl
  next => simp only [hvalues, pure_bind, bind_assoc, statedType]

/-- Rows in front of the first type row add no type. -/
theorem statedTypes_append {lead : List Row} (hlead : ∀ row ∈ lead, isTypeRow r row = false)
    (below : List Row) : statedTypes r (lead ++ below) = statedTypes r below := by
  induction lead with
  | nil => rfl
  | cons row rest ih =>
    obtain ⟨hrow, hrest⟩ := List.forall_mem_cons.mp hlead
    rw [List.cons_append, statedTypes, hrow, if_neg Bool.false_ne_true, ih hrest]

theorem statedTypes_block {inner below : List Row} (hhead : isTypeRow r head = true)
    (hinner : ∀ row ∈ inner, isTypeRow r row = false)
    (hbelow : ∀ next ∈ below.head?, isTypeRow r next = true) :
    statedTypes r (head :: (inner ++ below)) = statedType r head inner :: statedTypes r below := by
  have hnone : below.takeWhile (fun other => !isTypeRow r other) = [] := by
    cases below with
    | nil => rfl
    | cons next rest => simp [hbelow next rfl]
  rw [statedTypes, if_pos hhead, statedTypes_append hinner,
    List.takeWhile_append_of_pos (by simpa using hinner), hnone, List.append_nil]

/-- Types are read row by row. -/
theorem readTypes_eq {blocks : List (Row × List Row)} (above : List Row)
    (hheads : ∀ block ∈ blocks, isTypeRow r block.1 = true)
    (hinner : ∀ block ∈ blocks, ∀ row ∈ block.2, isTypeRow r row = false) :
    readTypes r blocks = (checkRows r above (blocks.flatMap blockRows) >>= fun _ =>
      pure (statedTypes r (blocks.flatMap blockRows))) := by
  induction blocks generalizing above with
  | nil => simp [readTypes, checkRows, statedTypes]
  | cons block rest ih =>
    obtain ⟨head, inner⟩ := block
    obtain ⟨hhead, hheads⟩ := List.forall_mem_cons.mp hheads
    obtain ⟨hfirst, hinner⟩ := List.forall_mem_cons.mp hinner
    have hopens : ∀ next ∈ (rest.flatMap blockRows).head?, isTypeRow r next = true := by
      cases rest with
      | nil => simp
      | cons next others => simpa [blockRows] using hheads next List.mem_cons_self
    have hrows : ((head, inner) :: rest).flatMap blockRows =
        head :: (inner ++ rest.flatMap blockRows) := rfl
    rw [readTypes, readType_eq above hhead hfirst, ih (above ++ head :: inner) hheads hinner, hrows,
      statedTypes_block hhead hfirst hopens, ← List.cons_append, checkRows_append]
    simp only [pure_bind, bind_assoc]

/-- In front of the first type row, the first value row is refused. -/
theorem checkRows_lead {lead : List Row} (habove : openType? r above = none)
    (hlead : ∀ row ∈ lead, isTypeRow r row = false) :
    checkRows r above lead =
      match lead.find? (isValueRow r) with
      | some row => .ofExcept (.error (r.fault row TypesColumn.valueName.key
          (.valueOutsideType (r.get row TypesColumn.valueName.key))))
      | none => pure () := by
  induction lead generalizing above with
  | nil => rfl
  | cons row rest ih =>
    obtain ⟨hrow, hrest⟩ := List.forall_mem_cons.mp hlead
    rw [checkRows, check, hrow, if_neg Bool.false_ne_true, habove]
    by_cases hvalue : isValueRow r row = true
    · rw [if_pos hvalue, List.find?_cons_of_pos hvalue]
      rfl
    · rw [if_neg hvalue, List.find?_cons_of_neg hvalue, pure_bind]
      exact ih (by rw [openType?_concat, hrow, if_neg Bool.false_ne_true, habove]) hrest

/-- A sheet is read row by row. -/
theorem readRows_eq (rows : List Row) :
    readRows r rows = (checkRows r [] rows >>= fun _ => pure (statedTypes r rows)) := by
  have hlead : ∀ row ∈ (cutBlocks (isTypeRow r) rows).1, isTypeRow r row = false :=
    fun _ => not_isHead_of_mem_lead
  have hheads : ∀ block ∈ (cutBlocks (isTypeRow r) rows).2, isTypeRow r block.1 = true :=
    fun _ => isHead_of_mem_cutBlocks
  have hinner : ∀ block ∈ (cutBlocks (isTypeRow r) rows).2, ∀ row ∈ block.2,
      isTypeRow r row = false := fun _ hblock _ => not_isHead_of_mem_block hblock
  conv_rhs => rw [← cutBlocks_append (isTypeRow r) rows, statedTypes_append hlead,
    checkRows_append, checkRows_lead rfl hlead, List.nil_append]
  simp only [readRows]
  cases (cutBlocks (isTypeRow r) rows).1.find? (isValueRow r) with
  | some row => rfl
  | none => rw [pure_bind, readTypes_eq (cutBlocks (isTypeRow r) rows).1 hheads hinner]

end Blocks

/-! ## The sheet -/

section Sheet

variable {rules : RuleSet} {sheet : Sheet}

theorem read_eq (hreader : reader rules sheet = .ok r) : read rules sheet =
    (checkRows r [] (sheet.below r.header) >>= fun _ =>
      pure (statedTypes r (sheet.below r.header))) := by
  rw [← readRows_eq, ← readRows_rowsBelow, read, hreader]
  rfl

/-- Accepted rows are read to the types that they state. -/
theorem read_of_accepted (hreader : reader rules sheet = .ok r)
    (h : Accepted r (sheet.below r.header)) : read rules sheet =
      ⟨(warnings r (sheet.below r.header)).map .warning,
        .ok (statedTypes r (sheet.below r.header))⟩ := by
  rw [read_eq hreader, checkRows_of_accepted h, Reported.bind_ok, Reported.pure_eq,
    List.append_nil]

/-- The first row that breaks a rule ends the reading of the sheet. -/
theorem read_of_breaks (hreader : reader rules sheet = .ok r) {above below : List Row} {row : Row}
    {cut : List DuplicateName} {fault : Fault}
    (hrows : sheet.below r.header = above ++ row :: below) (habove : Accepted r above)
    (hrow : Breaks r above row cut fault) :
    read rules sheet = ⟨(warnings r above ++ cut).map .warning, .error fault⟩ := by
  rw [read_eq hreader, hrows, checkRows_of_breaks habove hrow, Reported.bind_error]

/-- Only accepted rows are read. -/
theorem accepted_of_read (hreader : reader rules sheet = .ok r) {types : List TypeBlock}
    (h : (read rules sheet).outcome = .ok types) : Accepted r (sheet.below r.header) := by
  by_contra hnot
  obtain ⟨_, _, _, _, _, hrows, habove, hrow⟩ := exists_first_break hnot
  rw [read_of_breaks hreader hrows habove hrow] at h
  cases h

/-- A Types sheet with the required columns is read just when its rows keep the rules and their
warnings can be written. It is then read to the types that the rows state, with all warnings.
Otherwise the first row that breaks a rule given the rows above it gives the fault, and the
warnings are those about the rows above and those about the row itself up to the fault. -/
theorem read_follows_grammar (hreader : reader rules sheet = .ok r) :
    ((∃ types, (read rules sheet).outcome = .ok types) ↔ Accepted r (sheet.below r.header)) ∧
      (Accepted r (sheet.below r.header) → read rules sheet =
        ⟨(warnings r (sheet.below r.header)).map .warning,
          .ok (statedTypes r (sheet.below r.header))⟩) ∧
      (¬ Accepted r (sheet.below r.header) → ∃ above row below cut fault,
        sheet.below r.header = above ++ row :: below ∧ Accepted r above ∧
          Breaks r above row cut fault) ∧
      ∀ above row below cut fault, sheet.below r.header = above ++ row :: below →
        Accepted r above → Breaks r above row cut fault →
          read rules sheet = ⟨(warnings r above ++ cut).map .warning, .error fault⟩ := by
  refine ⟨⟨?_, ?_⟩, read_of_accepted hreader, exists_first_break, ?_⟩
  · rintro ⟨types, htypes⟩
    exact accepted_of_read hreader htypes
  · intro haccepted
    exact ⟨_, congrArg Reported.outcome (read_of_accepted hreader haccepted)⟩
  · intro _ _ _ _ _ hrows habove hrow
    exact read_of_breaks hreader hrows habove hrow

end Sheet

/-- A type with three values of one name, the last of which repeats the number of another one. -/
def namesakeSheet : Sheet :=
  .ofCells "Types"
    [["Type Name", "Base Type", "Value Name", "Value", "Comment"],
     ["kind", "uint8"],
     ["", "", "run", "1"],
     ["", "", "run", "2"],
     ["", "", "", "", "as of now"],
     ["", "", "ride", "0x3"],
     ["", "", "run", "3"],
     ["", "", "run", "4"]]

theorem namesakeSheet_follows_grammar : ∃ r, reader .sdk20 namesakeSheet = .ok r ∧
    (read .sdk20 namesakeSheet).outcome = .error (.integrity (.duplicateValue 3 "kind" "ride")
      { sheet := some "Types", row := some 6 }) ∧
    (read .sdk20 namesakeSheet).warnings =
      [⟨"run", "kind", 1, 2⟩, ⟨"run", "kind", 1, 3⟩, ⟨"run", "kind", 2, 3⟩] ∧
    ((∃ types, (read .sdk20 namesakeSheet).outcome = .ok types) ↔
      Accepted r (namesakeSheet.below r.header)) :=
  ⟨_, rfl, rfl, by decide +kernel, (read_follows_grammar rfl).1⟩

end TypesSheet

end Draft

/-! ## A warning that cannot be written -/

namespace Number

/-- A power of sixteen in hexadecimal. -/
def hexPower (n : Nat) : String := String.ofList ('0' :: 'x' :: '1' :: List.replicate n '0')

theorem hexPower_ne_empty (n : Nat) : hexPower n ≠ "" := by simp [hexPower]

theorem readDigits_power (n : Nat) :
    readDigits 16 ('1' :: List.replicate n '0') = some (1 :: List.replicate n 0) := by
  have hcons : ∀ (c : Char) (d m : Nat), digitIn 16 c = some d →
      readDigits 16 (c :: List.replicate m '0') = some (d :: List.replicate m 0) := by
    intro c d m hc
    induction m generalizing c d with
    | zero => simp [readDigits, hc]
    | succ m ih =>
      rw [List.replicate_succ, readDigits, ih '0' 0 (by decide), hc]
      · rfl
      · nofun
  exact hcons '1' 1 n (by decide)

theorem ofDigits_power (n : Nat) : ofDigits 16 (1 :: List.replicate n 0) = 16 ^ n := by
  induction n with
  | zero => rfl
  | succ n ih =>
    rw [List.replicate_succ', ← List.cons_append, ofDigits, List.foldl_append, ← ofDigits, ih,
      Nat.pow_succ]
    rfl

theorem hexadecimal?_hexPower (n : Nat) :
    hexadecimal? (hexPower n) = some ((16 ^ n : Nat) : Int) := by
  have hzero : isNumeralBlank '0' = false := by decide
  have htrim : trimNumeral ('0' :: 'x' :: '1' :: List.replicate n '0') =
      '0' :: 'x' :: '1' :: List.replicate n '0' := by
    cases n with
    | zero => decide
    | succ n =>
      rw [trimNumeral, Text.trimBy, List.dropWhile_cons_of_neg (by simp [hzero]),
        List.replicate_succ']
      simp [hzero]
  have hsign : takeSign ('0' :: 'x' :: '1' :: List.replicate n '0') =
      (false, '0' :: 'x' :: '1' :: List.replicate n '0') := rfl
  have hmark : dropBaseMark? 'x' 'X' ('0' :: 'x' :: '1' :: List.replicate n '0') =
      some ('1' :: List.replicate n '0') := rfl
  simp only [hexadecimal?, hexPower, String.toList_ofList, htrim, hsign, hmark, Option.getD_some,
    natural?, readDigits_power, ofDigits_power, Option.map_some]
  rfl

theorem integerIn?_hexPower (n : Nat) :
    SheetReader.integerIn? true (hexPower n) = some ((16 ^ n : Nat) : Int) := by
  have hmark : SheetReader.hasHexMark (hexPower n) = true := by
    rw [SheetReader.hasHexMark, hexPower, String.toList_ofList]
    rfl
  rw [SheetReader.integerIn?, hmark]
  exact hexadecimal?_hexPower n

end Number

namespace Draft

namespace TypesSheet

/-- The header of a sheet with all columns, one next to the other. -/
def plainReader : SheetReader where
  sheet := "Types"
  header := ⟨0, ["Type Name", "Base Type", "Value Name", "Value", "Comment"]⟩
  columns := ⟨typesHeaders, [("type_name", some 0), ("base_type", some 1), ("value_name", some 2),
    ("value", some 3), ("comment", some 4)]⟩
  hexValues := true

def kindRow : Row := ⟨1, ["kind", "uint8"]⟩

def runRow (index : Nat) (text : String) : Row := ⟨index, ["", "", "run", text]⟩

/-- A type with two values of one name. -/
def twinSheet (text : String) : Sheet :=
  .ofCells "Types" [plainReader.header.cells, kindRow.cells, (runRow 2 text).cells,
    (runRow 3 "1").cells]

theorem fits_kindRow : Fits plainReader [] kindRow := ⟨fun _ => rfl, nofun⟩

theorem adds_runRow {above : List Row} (habove : openType? plainReader above = some kindRow)
    {index : Nat} {text : String} {n : Int} (hgiven : text ≠ "")
    (hn : SheetReader.integerIn? true text = some n) :
    Adds plainReader above (runRow index text) kindRow n :=
  ⟨rfl, habove, hgiven, hn⟩

/-- A first value that can be read but not written is all that is wrong. -/
theorem twinSheet_unwritable {text : String} {m : Int} (hgiven : text ≠ "")
    (hm : SheetReader.integerIn? true text = some m) (hlong : Number.isWritable m = false) :
    ∃ r, reader .sdk20 (twinSheet text) = .ok r ∧
      Grammatical r ((twinSheet text).below r.header) ∧
      (read .sdk20 (twinSheet text)).outcome = .error .tooManyDigitsToWrite := by
  have hreader : reader .sdk20 (twinSheet text) = .ok plainReader := rfl
  have hbelow : (twinSheet text).below plainReader.header =
      [kindRow, runRow 2 text] ++ [runRow 3 "1"] := rfl
  have hone : m ≠ 1 := by
    rintro rfl
    exact absurd hlong (by decide)
  have hkind : Grammatical plainReader [kindRow] := grammatical_nil.concat fits_kindRow
  have hfirst : Adds plainReader [kindRow] (runRow 2 text) kindRow m := adds_runRow rfl hgiven hm
  have hsecond : Adds plainReader [kindRow, runRow 2 text] (runRow 3 "1") kindRow 1 :=
    adds_runRow rfl (by decide) (by decide)
  have hknown : openValues plainReader [kindRow, runRow 2 text] = [] ++ runRow 2 text :: [] := rfl
  have hrun : Grammatical plainReader [kindRow, runRow 2 text] :=
    hkind.concat ⟨nofun, fun _ => ⟨kindRow, m, hfirst, nofun⟩⟩
  refine ⟨plainReader, hreader, ?_, ?_⟩
  · rw [hbelow]
    refine hrun.concat ⟨nofun, fun _ => ⟨kindRow, 1, hsecond, ?_⟩⟩
    rw [hknown]
    intro earlier hearlier
    rw [List.mem_singleton.mp hearlier, hfirst.stated]
    exact fun heq => hone (Option.some.inj heq)
  · have habove : Accepted plainReader [kindRow, runRow 2 text] := ⟨hrun, nofun⟩
    have hbreaks : Breaks plainReader [kindRow, runRow 2 text] (runRow 3 "1") []
        .tooManyDigitsToWrite := by
      refine .unwritable hsecond hknown nofun ?_ nofun ?_
      · rw [hfirst.stated]
        exact fun heq => hone (Option.some.inj heq)
      · refine ⟨_, List.mem_singleton_self _, ?_⟩
        show (Number.isWritable (statedValue plainReader (runRow 2 text)).value && _) = false
        rw [value_statedValue hfirst.stated, hlong, Bool.false_and]
    rw [read_of_breaks hreader hbelow habove hbreaks]

theorem twinSheet_hexPower (n : Nat) (h : 10 ^ Number.digitLimit ≤ 16 ^ n) :
    ∃ r, reader .sdk20 (twinSheet (Number.hexPower n)) = .ok r ∧
      Grammatical r ((twinSheet (Number.hexPower n)).below r.header) ∧
      (read .sdk20 (twinSheet (Number.hexPower n))).outcome = .error .tooManyDigitsToWrite :=
  twinSheet_unwritable (Number.hexPower_ne_empty n) (Number.integerIn?_hexPower n)
    (Number.isWritable_eq_false.mpr (by rwa [Int.natAbs_natCast]))

/-- The rules are kept, but the sheet is refused, and not for one of its cells. -/
theorem twinSheet_refused : ∃ r, reader .sdk20 (twinSheet (Number.hexPower 3600)) = .ok r ∧
    Grammatical r ((twinSheet (Number.hexPower 3600)).below r.header) ∧
    (read .sdk20 (twinSheet (Number.hexPower 3600))).outcome = .error .tooManyDigitsToWrite :=
  twinSheet_hexPower 3600 (by decide +kernel)

end TypesSheet

end Draft

end FitProfile
