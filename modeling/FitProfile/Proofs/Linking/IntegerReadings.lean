import FitProfile.Proofs.Linking.ReferenceValues
import FitProfile.Proofs.Reading.TypeRows
import Mathlib.Data.List.DropRight
/-!
# FitProfile.Proofs.Linking.IntegerReadings -- one text, one integer

A cell of the Types sheet is read as a decimal integer, or as a hexadecimal one where it has the
mark of these. The text of a reference is read as a literal, which names its base. What is a
decimal numeral names no base, and behind a hexadecimal mark both readings are the same; so a text
that both accept is one integer (`Number.literal?_of_integerIn?`), though each of them accepts
texts that the other one refuses.

For a workbook this means that a value and a reference of the same text stand for one number, if
the text is not itself the name of a value (`Model.integerReadings_agree`).
-/

namespace FitProfile

open FitProfile.Draft FitProfile.Outcome

/-! ## Trimming -/

namespace Text

variable {p : Char → Bool} {c : Char}

/-- What is taken off at the end ends at a character that stays. -/
theorem rdropWhile_cons (h : p c = false) (cs : List Char) :
    (c :: cs).rdropWhile p = c :: cs.rdropWhile p := by
  have hstays : ¬ p c = true := Bool.eq_false_iff.mp h
  induction cs using List.reverseRecOn with
  | nil => exact List.rdropWhile_concat_neg p [] c hstays
  | append_singleton cs d ih =>
    rw [← List.cons_append]
    by_cases hd : p d = true
    · rw [List.rdropWhile_concat_pos p _ d hd, List.rdropWhile_concat_pos p _ d hd, ih]
    · rw [List.rdropWhile_concat_neg p _ d hd, List.rdropWhile_concat_neg p _ d hd,
        List.cons_append]

theorem trimBy_cons (h : p c = false) (cs : List Char) :
    trimBy p (c :: cs) = c :: cs.rdropWhile p := by
  show ((c :: cs).dropWhile p).rdropWhile p = c :: cs.rdropWhile p
  rw [List.dropWhile_cons_of_neg (Bool.eq_false_iff.mp h), rdropWhile_cons h]

end Text

/-! ## Numbers -/

namespace Number

open FitProfile.Text

variable {base : Nat} {body : List Char}

/-- A numeral starts with a digit. -/
theorem isSome_of_readDigits {c : Char} {rest : List Char} {ds : List Nat}
    (h : readDigits base (c :: rest) = some ds) : (digitIn base c).isSome := by
  unfold readDigits at h
  split at h
  next heq => cases heq
  next heq =>
    obtain ⟨rfl, -⟩ := List.cons.inj heq
    obtain ⟨d, hd, -⟩ := Option.map_eq_some_iff.mp h
    exact Option.isSome_of_eq_some hd
  next heq =>
    obtain ⟨rfl, -⟩ := List.cons.inj heq
    obtain ⟨d, hd, -⟩ := Option.bind_eq_some_iff.mp h
    exact Option.isSome_of_eq_some hd
  next heq =>
    obtain ⟨rfl, -⟩ := List.cons.inj heq
    obtain ⟨d, hd, -⟩ := Option.bind_eq_some_iff.mp h
    exact Option.isSome_of_eq_some hd

/-- Behind the first digit there is another one or an underscore. -/
theorem second_of_readDigits {c next : Char} {rest : List Char} {ds : List Nat}
    (h : readDigits base (c :: next :: rest) = some ds) :
    next = '_' ∨ (digitIn base next).isSome := by
  by_cases hnext : next = '_'
  · exact .inl hnext
  · right
    rw [readDigits] at h
    · obtain ⟨d, -, h⟩ := Option.bind_eq_some_iff.mp h
      obtain ⟨others, hothers, -⟩ := Option.bind_eq_some_iff.mp h
      exact isSome_of_readDigits hothers
    · exact hnext

/-- Characters that no decimal numeral holds. -/
def IsMark (c : Char) : Prop := c ≠ '_' ∧ digitIn 10 c = none

instance (c : Char) : Decidable (IsMark c) := inferInstanceAs (Decidable (_ ∧ _))

/-- A decimal numeral names no base. -/
theorem dropBaseMark?_of_decimal {small capital : Char} (hsmall : IsMark small)
    (hcapital : IsMark capital) {n : Nat} (h : decimalNatural? body = some n) :
    dropBaseMark? small capital body = none := by
  obtain ⟨ds, hds, -⟩ := Option.map_eq_some_iff.mp h
  have hdigits : readDigits 10 body = some ds := (Option.filter_eq_some_iff.mp hds).1
  unfold dropBaseMark?
  split
  next zero mark rest =>
    rw [if_neg]
    rintro ⟨-, hmark⟩
    have hnot : IsMark mark := by
      rcases hmark with rfl | rfl
      · exact hsmall
      · exact hcapital
    rcases second_of_readDigits hdigits with hbar | hdigit
    · exact hnot.1 hbar
    · rw [hnot.2] at hdigit
      cases hdigit
  next => rfl

/-- A decimal numeral that is a literal has one value. -/
theorem literalNatural?_of_decimal {n m : Nat} (h : decimalNatural? body = some n)
    (hliteral : literalNatural? body = some m) : n = m := by
  have hx : dropBaseMark? 'x' 'X' body = none :=
    dropBaseMark?_of_decimal (by decide) (by decide) h
  have ho : dropBaseMark? 'o' 'O' body = none :=
    dropBaseMark?_of_decimal (by decide) (by decide) h
  have hb : dropBaseMark? 'b' 'B' body = none :=
    dropBaseMark?_of_decimal (by decide) (by decide) h
  unfold literalNatural? at hliteral
  simp only [hx, ho, hb, h] at hliteral
  split at hliteral
  next => exact Option.some.inj (Option.filter_eq_some_iff.mp hliteral).1
  next => exact Option.some.inj hliteral

theorem literal?_of_integer? {text : String} {n m : Int} (h : integer? text = some n)
    (hliteral : literal? text = some m) : n = m := by
  obtain ⟨k, hk, rfl⟩ := Option.map_eq_some_iff.mp h
  obtain ⟨l, hl, rfl⟩ := Option.map_eq_some_iff.mp hliteral
  rw [literalNatural?_of_decimal hk hl]

/-- Behind its mark a hexadecimal numeral is read alike, whoever asks. -/
theorem literalNatural?_hex {mark : Char} (hmark : mark = 'x' ∨ mark = 'X') (rest : List Char) :
    literalNatural? ('0' :: mark :: rest) =
      natural? 16 ((dropBaseMark? 'x' 'X' ('0' :: mark :: rest)).getD ('0' :: mark :: rest)) := by
  have hdrop : ∃ digits, dropBaseMark? 'x' 'X' ('0' :: mark :: rest) = some digits := by
    dsimp only [dropBaseMark?]
    rw [if_pos ⟨by decide, hmark⟩]
    split
    next => exact ⟨_, rfl⟩
    next => exact ⟨_, rfl⟩
  obtain ⟨digits, hdrop⟩ := hdrop
  rw [literalNatural?, hdrop, Option.getD_some]

/-- Where a text starts with a hexadecimal mark, the sign and the mark are in front of the rest
when its white space is taken off. -/
theorem takeSign_of_hasHexMark {text : String} (h : SheetReader.hasHexMark text = true) :
    ∃ mark, (mark = 'x' ∨ mark = 'X') ∧ ∃ rest,
      (takeSign (trimNumeral text.toList)).2 = '0' :: mark :: rest := by
  have hminus : isNumeralBlank '-' = false := by decide
  have hzero : isNumeralBlank '0' = false := by decide
  have hsmall : isNumeralBlank 'x' = false := by decide
  have hcapital : isNumeralBlank 'X' = false := by decide
  unfold SheetReader.hasHexMark at h
  unfold trimNumeral
  split at h
  next rest htext =>
    refine ⟨'x', .inl rfl, rest.rdropWhile isNumeralBlank, ?_⟩
    rw [htext, trimBy_cons hzero, rdropWhile_cons hsmall]
    rfl
  next rest htext =>
    refine ⟨'X', .inr rfl, rest.rdropWhile isNumeralBlank, ?_⟩
    rw [htext, trimBy_cons hzero, rdropWhile_cons hcapital]
    rfl
  next rest htext =>
    refine ⟨'x', .inl rfl, rest.rdropWhile isNumeralBlank, ?_⟩
    rw [htext, trimBy_cons hminus, rdropWhile_cons hzero, rdropWhile_cons hsmall]
    rfl
  next rest htext =>
    refine ⟨'X', .inr rfl, rest.rdropWhile isNumeralBlank, ?_⟩
    rw [htext, trimBy_cons hminus, rdropWhile_cons hzero, rdropWhile_cons hcapital]
    rfl
  next => cases h

theorem hexadecimal?_eq_literal? {text : String} (h : SheetReader.hasHexMark text = true) :
    hexadecimal? text = literal? text := by
  obtain ⟨mark, hmark, rest, hbody⟩ := takeSign_of_hasHexMark h
  unfold hexadecimal? literal?
  simp only [hbody]
  rw [literalNatural?_hex hmark]

/-- A text that a cell and a reference both take for an integer is the same integer for both. -/
theorem literal?_of_integerIn? {hexValues : Bool} {text : String} {n m : Int}
    (h : SheetReader.integerIn? hexValues text = some n) (hliteral : literal? text = some m) :
    n = m := by
  unfold SheetReader.integerIn? at h
  split at h
  next hmark =>
    rw [hexadecimal?_eq_literal? (Bool.and_eq_true_iff.mp hmark).2, hliteral] at h
    exact (Option.some.inj h).symm
  next => exact literal?_of_integer? h hliteral

end Number

/-! ## Values in a workbook -/

namespace Draft.TypesSheet

variable {r : SheetReader}

/-- A type row opens a type with the rows up to the next one. -/
theorem statedType_mem_statedTypes {head : Row} (hhead : isTypeRow r head = true)
    (above below : List Row) :
    statedType r head (below.takeWhile fun other => !isTypeRow r other) ∈
      statedTypes r (above ++ head :: below) := by
  induction above with
  | nil =>
    rw [List.nil_append, statedTypes, if_pos hhead]
    exact List.mem_cons_self
  | cons row rest ih =>
    rw [List.cons_append, statedTypes]
    split
    next => exact List.mem_cons_of_mem _ ih
    next => exact ih

/-- Every value row states a value of a type. -/
theorem exists_statedValue {rows : List Row} (h : Grammatical r rows) {row : Row}
    (hmem : row ∈ rows) (hrow : holdsValue r row = true) :
    ∃ type ∈ statedTypes r rows, statedValue r row ∈ type.values := by
  obtain ⟨above, below, rfl⟩ := List.append_of_mem hmem
  obtain ⟨outer, head, inner, rfl, hhead, hinner⟩ :=
    exists_last_head (h.under above row below rfl hrow)
  obtain ⟨htype, hvalue⟩ := holdsValue_eq_true.mp hrow
  rw [List.append_assoc, List.cons_append]
  refine ⟨_, statedType_mem_statedTypes hhead outer (inner ++ row :: below), ?_⟩
  -- neither the rows in between nor the row itself open another type
  apply List.mem_map_of_mem
  refine List.mem_filter.mpr ⟨?_, hvalue⟩
  rw [List.takeWhile_append_of_pos (by simpa using hinner),
    List.takeWhile_cons_of_pos (by simp [htype])]
  exact List.mem_append_right _ List.mem_cons_self

theorem hexValues_of_reader {rules : RuleSet} {sheet : Sheet} (h : reader rules sheet = .ok r) :
    r.hexValues = rules.hexValues := by
  obtain ⟨_, -, h⟩ := bind_eq_ok.mp h
  obtain ⟨_, -, hpure⟩ := bind_eq_ok.mp h
  cases hpure
  rfl

end Draft.TypesSheet

/-- Every block becomes a type of the table. -/
theorem TypeTable.exists_of_block {rules : RuleSet} {blocks : List TypeBlock}
    {types : List TypeDef} (h : ofDraft rules blocks = .ok types) {block : TypeBlock}
    (hmem : block ∈ blocks) : ∃ type ∈ types, ofBlock block = .ok type := by
  obtain ⟨declared, hdeclared, himplicit⟩ := bind_eq_ok.mp h
  obtain ⟨_, rfl, hall, -, -⟩ := addDeclared_eq_ok hdeclared
  obtain ⟨⟨added, rfl⟩, -, -⟩ := addImplicit_eq_ok himplicit
  obtain ⟨type, htype, hblock⟩ := forall₂_exists_of_mem hall hmem
  exact ⟨type, List.mem_append_left _ htype, hblock⟩

namespace Model

variable {rules : RuleSet} {version : Version} {book : Workbook} {model : Model}

/-- The integer in a row of the Types sheet is that of a value of the model. -/
theorem LinkedFrom.exists_value (h : model.LinkedFrom rules version book) :
    ∃ sheet r, book.sheet rules.typesSheet = .ok sheet ∧ TypesSheet.reader rules sheet = .ok r ∧
      ∀ row ∈ sheet.below r.header, TypesSheet.holdsValue r row = true →
        ∃ type ∈ model.types, ∃ v ∈ type.values, v.name = r.get row TypesColumn.valueName.key ∧
          SheetReader.integerIn? rules.hexValues (r.get row TypesColumn.value.key) =
            some v.value := by
  obtain ⟨draft, hdraft, hmodel⟩ := h
  obtain ⟨-, -, ⟨sheet, hsheet, htypes⟩, -⟩ := Draft.ofWorkbook_eq_ok.mp hdraft
  obtain ⟨r, hreader, -⟩ := TypesSheet.read_eq_ok.mp htypes
  refine ⟨sheet, r, hsheet, hreader, ?_⟩
  intro row hmem hrow
  have haccepted := TypesSheet.accepted_of_read hreader htypes
  rw [TypesSheet.read_of_accepted hreader haccepted] at htypes
  have hblocks : TypesSheet.statedTypes r (sheet.below r.header) = draft.types :=
    Except.ok.inj htypes
  obtain ⟨block, hblock, hvalue⟩ := TypesSheet.exists_statedValue haccepted.grammatical hmem hrow
  rw [hblocks] at hblock
  obtain ⟨type, htype, hof⟩ := TypeTable.exists_of_block (ofDraft_eq_ok hmodel).1 hblock
  obtain ⟨-, -, hvalues⟩ := TypeTable.ofBlock_eq_ok hof
  have hpair := List.mem_map_of_mem (f := fun v => (v.name, v.value)) hvalue
  rw [← hvalues] at hpair
  obtain ⟨v, hv, hsame⟩ := List.mem_map.mp hpair
  obtain ⟨hname, hnumber⟩ := Prod.mk.inj hsame
  obtain ⟨-, hstated⟩ := haccepted.grammatical.stated row hmem hrow
  obtain ⟨n, hn⟩ := Option.isSome_iff_exists.mp hstated
  refine ⟨type, htype, v, hv, hname, ?_⟩
  rw [hnumber, TypesSheet.value_statedValue hn, ← TypesSheet.hexValues_of_reader hreader]
  exact hn

/-- A text that a cell and a reference both take for an integer is the same integer for both. So a
value in the Types sheet and a reference with the text of its cell stand for one number, unless the
text is the name of a value of the type of the reference field. -/
theorem integerReadings_agree :
    (∀ (hexValues : Bool) (text : String) (n m : Int),
      SheetReader.integerIn? hexValues text = some n → Number.literal? text = some m → n = m) ∧
    ∀ (rules : RuleSet) (version : Version) (book : Workbook) (model : Model),
      model.LinkedFrom rules version book →
      ∃ sheet r, book.sheet rules.typesSheet = .ok sheet ∧
        TypesSheet.reader rules sheet = .ok r ∧
        ∀ row ∈ sheet.below r.header, TypesSheet.holdsValue r row = true →
          ∃ type ∈ model.types, ∃ v ∈ type.values, v.name = r.get row TypesColumn.valueName.key ∧
            SheetReader.integerIn? rules.hexValues (r.get row TypesColumn.value.key) =
              some v.value ∧
            ∀ message ∈ model.messages, ∀ (condition : Condition) (raw : Int),
              message.Selects condition (r.get row TypesColumn.value.key) raw →
              ∃ field, message.field? condition.number = some field ∧
                field.name = condition.name ∧
                (LinkContext.namedValue? field.lead.type (r.get row TypesColumn.value.key) =
                  some raw ∨ raw = v.value) := by
  refine ⟨fun _ _ _ _ => Number.literal?_of_integerIn?, ?_⟩
  intro rules version book model hmodel
  obtain ⟨sheet, r, hsheet, hreader, hvalues⟩ := hmodel.exists_value
  refine ⟨sheet, r, hsheet, hreader, ?_⟩
  intro row hmem hrow
  obtain ⟨type, htype, v, hv, hname, hinteger⟩ := hvalues row hmem hrow
  refine ⟨type, htype, v, hv, hname, hinteger, ?_⟩
  intro message hmessage condition raw hselects
  obtain ⟨field, hfield, hfieldName, hread⟩ := hmodel.value hmessage hselects
  refine ⟨field, hfield, hfieldName, ?_⟩
  rcases hread with hnamed | ⟨-, hliteral, -⟩
  · exact .inl hnamed
  · exact .inr (Number.literal?_of_integerIn? hinteger hliteral).symm

/-- A workbook in which two numbers of a type are also references, in their hexadecimal texts: the
one on a field of that type, the other one on a field of its base type. -/
def hexBook : Workbook where
  sheets :=
    [("Types",
      [["Type Name", "Base Type", "Value Name", "Value", "Comment"],
       ["mesg_num", "uint16"], ["", "", "event", "21"],
       ["gear", "sint8"], ["", "", "low", "-0x1F"], ["", "", "top", "0X_a"]]),
     ("Messages",
      [["Message Name", "Field Def #", "Field Name", "Field Type", "Array", "Components", "Scale",
        "Offset", "Units", "Bits", "Accumulate", "Ref Field Name", "Ref Field Value", "Comment"],
       ["event"],
       ["", "3", "data", "uint32"],
       ["", "", "shift", "uint16", "", "", "", "", "", "", "", "gear,level", "-0x1F,0X_a"],
       ["", "0", "gear", "gear"],
       ["", "1", "level", "sint8"]])]

/-- The top gear and the level that shifts are the number ten for both. -/
theorem hexBook_readings_agree : ∃ (model : Model) (message : Message) (condition : Condition)
    (sheet : Sheet) (r : SheetReader) (row : Row),
    model.LinkedFrom .sdk20 ⟨21, 0⟩ hexBook ∧ message ∈ model.messages ∧
      hexBook.sheet RuleSet.sdk20.typesSheet = .ok sheet ∧
      TypesSheet.reader .sdk20 sheet = .ok r ∧ row ∈ sheet.below r.header ∧
      TypesSheet.holdsValue r row = true ∧ r.get row TypesColumn.value.key = "0X_a" ∧
      SheetReader.integerIn? true "0X_a" = some 10 ∧ Number.literal? "0X_a" = some 10 ∧
      message.Selects condition "0X_a" 10 ∧
      ∃ type ∈ model.types, ∃ v ∈ type.values, v.name = "top" ∧ v.value = 10 ∧
        ∃ field, message.field? condition.number = some field ∧ field.name = "level" ∧
          (LinkContext.namedValue? field.lead.type "0X_a" = some 10 ∨ 10 = v.value) := by
  have hlinked : ∃ (model : Model) (message : Message) (condition : Condition),
      model.LinkedFrom .sdk20 ⟨21, 0⟩ hexBook ∧ message ∈ model.messages ∧
        message.Selects condition "0X_a" 10 ∧ condition.name = "level" :=
    ⟨_, _, _, ⟨_, rfl, rfl⟩, .head _, ⟨_, _, .tail _ (.tail _ (.head _)), _, .head _,
      .tail _ (.head _), .head _⟩, rfl⟩
  have hopened : ∃ (sheet : Sheet) (r : SheetReader) (row : Row),
      hexBook.sheet RuleSet.sdk20.typesSheet = .ok sheet ∧
        TypesSheet.reader .sdk20 sheet = .ok r ∧ row ∈ sheet.below r.header ∧
        TypesSheet.holdsValue r row = true ∧ r.get row TypesColumn.value.key = "0X_a" ∧
        r.get row TypesColumn.valueName.key = "top" :=
    ⟨_, _, _, rfl, rfl, .tail _ (.tail _ (.tail _ (.tail _ (.head _)))), rfl, rfl, rfl⟩
  obtain ⟨model, message, condition, hmodel, hmessage, hselects, hlevel⟩ := hlinked
  obtain ⟨sheet, r, row, hsheet, hreader, hmem, hrow, htext, htop⟩ := hopened
  obtain ⟨hreadings, hworkbooks⟩ := integerReadings_agree
  have hinteger : SheetReader.integerIn? true "0X_a" = some 10 := by decide
  have hliteral : Number.literal? "0X_a" = some 10 := by decide
  obtain ⟨_, _, hsheet', hreader', hrows⟩ := hworkbooks .sdk20 ⟨21, 0⟩ hexBook model hmodel
  cases hsheet.symm.trans hsheet'
  cases hreader.symm.trans hreader'
  obtain ⟨type, htype, v, hv, hname, hvalue, hselected⟩ := hrows row hmem hrow
  rw [htext] at hvalue hselected
  obtain ⟨field, hfield, hfieldName, hread⟩ := hselected message hmessage condition 10 hselects
  have hten : v.value = 10 := hreadings true "0X_a" v.value 10 hvalue hliteral
  exact ⟨model, message, condition, sheet, r, row, hmodel, hmessage, hsheet, hreader, hmem, hrow,
    htext, hinteger, hliteral, hselects, type, htype, v, hv, hname.trans htop, hten, field, hfield,
    hfieldName.trans hlevel, hread⟩

end Model

end FitProfile
