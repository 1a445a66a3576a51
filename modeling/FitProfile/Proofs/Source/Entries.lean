import FitProfile.Proofs.Linking.Values
import FitProfile.Proofs.Source.Spelling
/-!
# FitProfile.Proofs.Source.Entries -- the dictionaries of a rendered profile

The three modules of a rendered profile are code in which every dictionary has distinct
keys, so none of its entries is lost to a later one. The dictionaries are those of the
model: its types with their values, its messages with their fields, and the numbers and
names of its messages, each an inverse of the other.
-/

namespace FitProfile

namespace Source

open FitProfile.Number FitProfile.Text FitProfile.Outcome

/-! ## Keys -/

theorem isKey_literal (s : String) : IsKey [literalToken s] :=
  ⟨flat_literal s, by simp [literalToken]⟩

theorem isKey_decimal (n : Int) : IsKey (codeTokens (decimal n)) :=
  ⟨(isWord_decimal n).flat, (isWord_decimal n).code_notMem (by decide)⟩

/-- A string as a token determines its text. -/
theorem literalToken_inj {s t : String} (h : literalToken s = literalToken t) : s = t := by
  obtain ⟨hquote, hspelling⟩ := Token.literal.inj h
  have hchars : quoteChars s.toList ++ [] = quoteChars t.toList ++ [] := by
    rw [hquote] at hspelling
    simp only [quoteChars, hquote, hspelling]
  exact String.toList_inj.mp (quoteChars_append_inj hchars).1

theorem codeTokens_inj {s t : String} (h : codeTokens s = codeTokens t) : s = t := by
  refine String.toList_inj.mp (List.map_injective_iff.mpr ?_ h)
  exact fun _ _ => Token.code.inj

/-- Names that are distinct are distinct as keys. -/
theorem nodup_literals {α : Type} {list : List α} {name : α → String}
    (h : (list.map name).Nodup) : (list.map fun a => [literalToken (name a)]).Nodup := by
  have hmapped := h.map fun _ _ heq => literalToken_inj (List.singleton_inj.mp heq)
  rwa [List.map_map] at hmapped

/-- Integers that are distinct are distinct as keys. -/
theorem nodup_decimals {α : Type} {list : List α} {number : α → Int}
    (h : (list.map number).Nodup) : (list.map fun a => codeTokens (decimal (number a))).Nodup := by
  have hmapped := h.map fun _ _ heq => decimal_inj (codeTokens_inj heq)
  rwa [List.map_map] at hmapped

theorem nodup_of_ascending {α : Type} {list : List α} {number : α → Int}
    (h : list.Pairwise fun a b => number a < number b) : (list.map number).Nodup :=
  List.pairwise_map.mpr (h.imp fun hlt => Int.ne_of_lt hlt)

/-! ## Lines of entries -/

/-- Lines that are the entries of a dictionary. -/
structure Written (lines : List String) (dictionary : List Entry) : Prop where
  spelled : Spelled lines (dictionary.flatMap Entry.written)
  keys : ∀ entry ∈ dictionary, IsKey entry.key
  values : ∀ entry ∈ dictionary, IsValue entry.value
  nested : ∀ entry ∈ dictionary, Nested entry.value

theorem written_nil : Written [] [] := ⟨.nil, by simp, by simp, by simp⟩

theorem Written.append {lines others : List String} {dictionary more : List Entry}
    (hl : Written lines dictionary) (ho : Written others more) :
    Written (lines ++ others) (dictionary ++ more) where
  spelled := by
    rw [List.flatMap_append]
    exact hl.spelled.append ho.spelled
  keys := List.forall_mem_append.mpr ⟨hl.keys, ho.keys⟩
  values := List.forall_mem_append.mpr ⟨hl.values, ho.values⟩
  nested := List.forall_mem_append.mpr ⟨hl.nested, ho.nested⟩

theorem Written.singleton {lines : List String} {entry : Entry}
    (spelled : Spelled lines entry.written) (key : IsKey entry.key) (value : IsValue entry.value)
    (nested : Nested entry.value) : Written lines [entry] where
  spelled := by
    rw [List.flatMap_singleton]
    exact spelled
  keys := List.forall_mem_singleton.mpr key
  values := List.forall_mem_singleton.mpr value
  nested := List.forall_mem_singleton.mpr nested

/-- An entry on a single line, the value of which has neither brackets nor commas. -/
theorem Written.line {line : String} {key value : List Token} (hkey : IsKey key)
    (hflat : Flat value) (hcomma : Token.code ',' ∉ value)
    (h : LineSpells line (key ++ .code ':' :: value ++ [.code ','])) :
    Written [line] [⟨key, value⟩] :=
  .singleton (.of_line h) hkey (.flat hflat hcomma) (.flat hflat)

/-- An entry whose value is a call of nested code. -/
theorem Written.call {head name : String} {body : List String} {key ts : List Token}
    (hkey : IsKey key) (hname : IsWord name)
    (hhead : LineSpells head (key ++ .code ':' :: codeTokens name ++ [.code '(']))
    (hbody : Spelled body ts) (hts : Nested ts) :
    Written (block head body "),") [⟨key, codeTokens name ++ .code '(' :: ts ++ [.code ')']⟩] := by
  have hnested := (Nested.flat hname.flat).append hts.parens
  refine .singleton ?_ hkey (.call hname.flat (hname.code_notMem (by decide)) hts) ?_
  · have hblock := Spelled.block hhead hbody lineSpells_foot
    simpa [Entry.written] using hblock
  · simpa using hnested

/-- Each element of a list has its entry. -/
theorem exists_written {α : Type} {list : List α} {f : α → List String} {P : α → Entry → Prop}
    (h : ∀ a ∈ list, ∃ entry, Written (f a) [entry] ∧ P a entry) :
    ∃ dictionary, Written (list.flatMap f) dictionary ∧ List.Forall₂ P list dictionary := by
  induction list with
  | nil => exact ⟨[], written_nil, .nil⟩
  | cons a list ih =>
    obtain ⟨⟨entry, hentry, hP⟩, hlist⟩ := List.forall_mem_cons.mp h
    obtain ⟨dictionary, hdictionary, hall⟩ := ih hlist
    exact ⟨entry :: dictionary, hentry.append hdictionary, .cons hP hall⟩

theorem written_map {α : Type} {f : α → String} {g : α → Entry} (h : ∀ a, Written [f a] [g a])
    (list : List α) : Written (list.map f) (list.map g) := by
  induction list with
  | nil => exact written_nil
  | cons a list ih => exact (h a).append ih

theorem map_key_of_forall₂ {α : Type} {list : List α} {key : α → List Token}
    {dictionary : List Entry} (h : List.Forall₂ (fun a e => e.key = key a) list dictionary) :
    dictionary.map Entry.key = list.map key := by
  induction h with
  | nil => rfl
  | cons heq _ ih => rw [List.map_cons, List.map_cons, heq, ih]

/-! ## Dictionaries -/

/-- The code of a dictionary with the name it stands for. -/
def dictionaryTokens (name : String) (dictionary : List Entry) : List Token :=
  codeTokens name ++ .code '=' ::
    (.code '\x7b' :: dictionary.flatMap Entry.written ++ [.code '\x7d'])

theorem Written.binds {lines : List String} {dictionary : List Entry}
    (h : Written lines dictionary) (before after : List Token) (name : String) :
    Binds (before ++ dictionaryTokens name dictionary ++ after) name dictionary := by
  refine ⟨before, dictionary.flatMap Entry.written ++ .code '\x7d' :: after, ?_,
    entries_written h.keys h.values after⟩
  simp [dictionaryTokens]

theorem Written.nested_dictionary {lines : List String} {dictionary : List Entry}
    (h : Written lines dictionary) (apart : (dictionary.map Entry.key).Nodup) {name : String}
    (hname : IsWord name) : Nested (dictionaryTokens name dictionary) := by
  have hequals : Nested [.code '='] := .flat (by decide)
  exact (Nested.flat hname.flat).append (hequals.append (.braces h.keys h.values h.nested apart))

/-- The head line of a dictionary. -/
theorem lineSpells_dictionary {head name mark : String} (hname : IsWord name)
    (hmark : Spells mark [.code '=', .code '\x7b']) (hhead : head = name ++ mark) :
    LineSpells head (codeTokens name ++ [.code '=', .code '\x7b']) := by
  rw [hhead]
  exact (hname.spells.append hmark).line

/-- The mark between the name of an argument and its entries. -/
theorem spells_argumentMark : Spells "=\x7b" [.code '=', .code '\x7b'] := ⟨_, rfl, by decide⟩

/-- The mark between the name of a dictionary and its entries. -/
theorem spells_dictionaryMark : Spells " = \x7b" [.code '=', .code '\x7b'] := ⟨_, rfl, by decide⟩

/-- The lines of a dictionary, with the comma behind it if it is an argument. -/
theorem Written.spelled_block {lines : List String} {dictionary : List Entry}
    (h : Written lines dictionary) {head foot name : String} {tail : List Token}
    (hhead : LineSpells head (codeTokens name ++ [.code '=', .code '\x7b']))
    (hfoot : LineSpells foot (.code '\x7d' :: tail)) :
    Spelled (block head lines foot) (dictionaryTokens name dictionary ++ tail) := by
  have hblock := Spelled.block hhead h.spelled hfoot
  simpa [dictionaryTokens] using hblock

/-! ## The entries of types -/

/-- The entry of a value. -/
def valueEntry (v : TypeValue) : Entry := ⟨codeTokens (decimal v.value), [literalToken v.name]⟩

/-- The entry of a type: it has the name of the type, and holds its values if there are any. -/
structure IsTypeEntry (type : TypeDef) (entry : Entry) : Prop where
  key : entry.key = [literalToken type.name]
  values : type.values ≠ [] → Binds entry.value "values" (type.values.map valueEntry)

theorem written_value (v : TypeValue) : Written [valueLine v] [valueEntry v] := by
  have hcolon : Spells ": " [.code ':'] := ⟨_, rfl, by decide⟩
  have hcomma : Spells "," [.code ','] := ⟨_, rfl, by decide⟩
  have hspells := (((isWord_decimal v.value).spells.append hcolon).append
    (spells_quoted v.name)).append hcomma
  refine .line (isKey_decimal v.value) (flat_literal v.name) (by simp [literalToken]) ?_
  rw [List.append_assoc (codeTokens _)] at hspells
  unfold valueLine
  split
  next comment _ =>
    split
    · exact hspells.line_remark (.inl rfl)
    · exact hspells.line_withRemark (newline_notMem_collapse comment)
  next => exact hspells.line_remark (.inl rfl)

theorem exists_entry_of_type {t : TypeDef} (hvalues : (t.values.map TypeValue.value).Nodup) :
    ∃ entry, Written (typeEntry t) [entry] ∧ IsTypeEntry t entry := by
  have hname : LineSpells (keyword "name" (Text.quoted t.name) "")
      (keywordTokens "name" [literalToken t.name]) := lineSpells_keyword (by decide) (spells_quoted _)
  have hbase : LineSpells (keyword "base_type" (baseExpression t.base) t.base.name)
      (keywordTokens "base_type" (baseTokens t.base)) := lineSpells_baseKeyword (by decide) t.base
  have hfirst := Spelled.cons hname (.of_line hbase)
  have hnested : Nested (keywordTokens "name" [literalToken t.name] ++
      keywordTokens "base_type" (baseTokens t.base)) :=
    (nested_keywordTokens (by decide) (.flat (flat_literal _))).append
      (nested_keywordTokens (by decide) (nested_baseTokens _))
  have hopen : Spells ": FieldType(" (.code ':' :: codeTokens "FieldType" ++ [.code '(']) :=
    ⟨_, rfl, by decide⟩
  have hhead := ((spells_quoted t.name).append hopen).line
  have hword : IsWord "FieldType" := by decide
  by_cases hempty : t.values = []
  · refine ⟨_, .call (isKey_literal t.name) hword hhead ?_ hnested, rfl, ?_⟩
    · rw [hempty]
      exact hfirst
    · exact fun hne => absurd hempty hne
  · have hdictionary := written_map written_value t.values
    have hapart : ((t.values.map valueEntry).map Entry.key).Nodup := by
      rw [List.map_map]
      exact nodup_decimals hvalues
    have hvaluesHead : LineSpells "values=\x7b" (codeTokens "values" ++ [.code '=', .code '\x7b']) :=
      lineSpells_dictionary (by decide) spells_argumentMark (by decide)
    have hvaluesFoot : LineSpells "\x7d," [.code '\x7d', .code ','] := ⟨_, rfl, by decide⟩
    have hcomma : Nested [.code ','] := .flat (by decide)
    have hall := (hdictionary.nested_dictionary hapart (by decide : IsWord "values")).append hcomma
    refine ⟨_, .call (isKey_literal t.name) hword hhead ?_ (hnested.append hall), rfl, ?_⟩
    · rw [if_neg (by simpa using hempty)]
      exact hfirst.append (hdictionary.spelled_block hvaluesHead hvaluesFoot)
    · intro _
      have hbinds := hdictionary.binds (codeTokens "FieldType" ++ .code '(' ::
        (keywordTokens "name" [literalToken t.name] ++
          keywordTokens "base_type" (baseTokens t.base))) [.code ',', .code ')'] "values"
      simpa using hbinds

/-! ## The entries of messages -/

/-- The entry of a message: it has the number of the message, calls it by its name, and holds
its fields by their numbers. -/
structure IsMessageEntry (message : Message) (entry : Entry) : Prop where
  key : entry.key = codeTokens (decimal message.number)
  name : ∃ rest, entry.value = codeTokens "MessageType" ++ .code '(' ::
    keywordTokens "name" [literalToken message.name] ++ rest
  fields : ∃ fields, Binds entry.value "fields" fields ∧
    fields.map Entry.key = message.fields.map fun field => codeTokens (decimal field.number)

variable {model : Model} {message : Message}

/-- The head line of an entry with a number for a key. -/
theorem lineSpells_numbered {head name : String} {n : Int} (hname : IsWord name)
    (hhead : head = decimal n ++ ": " ++ name ++ "(") :
    LineSpells head (codeTokens (decimal n) ++ .code ':' :: codeTokens name ++ [.code '(']) := by
  have hcolon : Spells ": " [.code ':'] := ⟨_, rfl, by decide⟩
  have hopen : Spells "(" [.code '('] := ⟨_, rfl, by decide⟩
  have hspells := (((isWord_decimal n).spells.append hcolon).append hname.spells).append hopen
  rw [hhead]
  simpa using hspells.line

theorem exists_entry_of_field {field : Field} (h : field.Intact model message) :
    ∃ entry, Written (fieldBlock field) [entry] ∧
      entry.key = codeTokens (decimal field.number) := by
  obtain ⟨ts, hts, hnested⟩ := nestedLines_field h
  have hname : IsWord "Field" := by decide
  have hsplit : ": Field(" = ": " ++ ("Field" ++ "(") := by decide
  have hhead : decimal field.number ++ ": Field(" = decimal field.number ++ ": " ++ "Field" ++ "(" := by
    rw [hsplit]
    simp only [String.append_assoc]
  exact ⟨_, .call (isKey_decimal _) hname (lineSpells_numbered hname hhead) hts hnested, rfl⟩

theorem exists_entry_of_message (h : message.Intact model) :
    ∃ entry, Written (messageBlock message) [entry] ∧ IsMessageEntry message entry := by
  obtain ⟨fields, hfields, hall⟩ :=
    exists_written fun field hmem => exists_entry_of_field (h.fields field hmem)
  have hkeys := map_key_of_forall₂ hall
  have hapart : (fields.map Entry.key).Nodup := by
    rw [hkeys]
    exact nodup_decimals (nodup_of_ascending h.ascending)
  have hfieldsHead : LineSpells "fields=\x7b" (codeTokens "fields" ++ [.code '=', .code '\x7b']) :=
    lineSpells_dictionary (by decide) spells_argumentMark (by decide)
  have hfieldsFoot : LineSpells "\x7d," [.code '\x7d', .code ','] := ⟨_, rfl, by decide⟩
  have hname : LineSpells (keyword "name" (Text.quoted message.name) "")
      (keywordTokens "name" [literalToken message.name]) :=
    lineSpells_keyword (by decide) (spells_quoted _)
  have hnumber : LineSpells (keyword "mesg_num" (decimal message.number) "")
      (keywordTokens "mesg_num" (codeTokens (decimal message.number))) :=
    lineSpells_keyword (by decide) (isWord_decimal _).spells
  have hbody := (Spelled.cons hname (.of_line hnumber)).append
    (hfields.spelled_block hfieldsHead hfieldsFoot)
  have hcomma : Nested [.code ','] := .flat (by decide)
  have hnested := ((nested_keywordTokens (by decide : IsWord "name")
    (.flat (flat_literal message.name))).append
      (nested_keywordTokens (by decide : IsWord "mesg_num")
        (.flat (isWord_decimal message.number).flat))).append
    ((hfields.nested_dictionary hapart (by decide : IsWord "fields")).append hcomma)
  have hword : IsWord "MessageType" := by decide
  have hsplit : ": MessageType(" = ": " ++ ("MessageType" ++ "(") := by decide
  have hhead : decimal message.number ++ ": MessageType(" =
      decimal message.number ++ ": " ++ "MessageType" ++ "(" := by
    rw [hsplit]
    simp only [String.append_assoc]
  refine ⟨_, .call (isKey_decimal _) hword (lineSpells_numbered hword hhead) hbody hnested, rfl,
    ?_, fields, ?_, hkeys⟩
  · refine ⟨keywordTokens "mesg_num" (codeTokens (decimal message.number)) ++
      (dictionaryTokens "fields" fields ++ [.code ',', .code ')']), ?_⟩
    simp
  · have hbinds := hfields.binds (codeTokens "MessageType" ++ .code '(' ::
      (keywordTokens "name" [literalToken message.name] ++
        keywordTokens "mesg_num" (codeTokens (decimal message.number)))) [.code ',', .code ')']
      "fields"
    simpa using hbinds

/-! ## The dictionaries of the release -/

/-- The entry of a message in the dictionary of the names. -/
def nameEntry (m : Message) : Entry := ⟨codeTokens (decimal m.number), [literalToken m.name]⟩

/-- An entry with its value for a key, and its key for a value. -/
def Entry.inverse (entry : Entry) : Entry := ⟨entry.value, entry.key⟩

theorem written_name (m : Message) : Written [nameOfNumberLine m] [nameEntry m] := by
  have hcolon : Spells ": " [.code ':'] := ⟨_, rfl, by decide⟩
  have hcomma : Spells "," [.code ','] := ⟨_, rfl, by decide⟩
  have hspells := (((isWord_decimal m.number).spells.append hcolon).append
    (spells_quoted m.name)).append hcomma
  rw [List.append_assoc (codeTokens _)] at hspells
  exact .line (isKey_decimal _) (flat_literal _) (by simp [literalToken]) hspells.line

theorem written_number (m : Message) :
    Written [numberOfNameLine m] [(nameEntry m).inverse] := by
  have hcolon : Spells ": " [.code ':'] := ⟨_, rfl, by decide⟩
  have hcomma : Spells "," [.code ','] := ⟨_, rfl, by decide⟩
  have hspells := (((spells_quoted m.name).append hcolon).append
    (isWord_decimal m.number).spells).append hcomma
  have hword := isWord_decimal m.number
  exact .line (isKey_literal _) hword.flat (hword.code_notMem (by decide)) hspells.line

/-! ## Modules -/

/-- A character of the code is one of the text. -/
theorem mem_of_code_mem_lex {c : Char} {cs : List Char} {mode : Mode}
    (h : Token.code c ∈ (lex mode cs).2) : c ∈ cs := by
  induction cs generalizing mode with
  | nil => simp [lex] at h
  | cons d cs ih =>
    rw [lex, List.mem_append] at h
    rcases h with h | h
    · -- a step reads no character but its own
      have hstep : ∀ t ∈ (mode.step d).2, t = .code d ∨ ∃ quote spelling, t = .literal quote spelling := by
        intro t ht
        cases mode <;> simp only [Mode.step] at ht <;> grind
      rcases hstep _ h with heq | ⟨quote, spelling, heq⟩
      · rw [Token.code.inj heq]
        exact List.mem_cons_self ..
      · cases heq
    · exact List.mem_cons_of_mem d (ih h)

/-- Lines without braces open no dictionary. -/
theorem exists_spelled_of_lines {keys lines : List String} (h : Lines keys lines)
    (hbrace : ∀ line ∈ lines, '\x7b' ∉ line.toList) :
    ∃ ts, Spelled lines ts ∧ Token.code '\x7b' ∉ ts := by
  induction lines with
  | nil => exact ⟨[], .nil, by simp⟩
  | cons line lines ih =>
    obtain ⟨hline, hlines⟩ := List.forall_mem_cons.mp h
    obtain ⟨hnone, hrest⟩ := List.forall_mem_cons.mp hbrace
    obtain ⟨raw, hraw, -⟩ := Line.emits hline
    obtain ⟨us, hus, hbraces⟩ := ih hlines hrest
    refine ⟨_, .cons ⟨_, hraw, rfl⟩ hus, ?_⟩
    rw [List.mem_append, not_or]
    refine ⟨?_, hbraces⟩
    intro hmem
    have hlex : Token.code '\x7b' ∈ (lex .code (line.toList ++ ['\n'])).2 := by
      rw [show lex .code (line.toList ++ ['\n']) = _ from hraw]
      exact List.mem_of_mem_filter hmem
    rcases List.mem_append.mp (mem_of_code_mem_lex hlex) with hchar | hchar
    · exact hnone hchar
    · exact absurd hchar (by decide)

/-- The code of a module whose first part opens no dictionary. -/
theorem Spelled.module {above lines : List String} {keys : List String} {ts : List Token}
    (habove : Lines keys above) (hbrace : ∀ line ∈ above, '\x7b' ∉ line.toList)
    (hlines : Spelled lines ts) (m : Module) (version : Version) (moment : Option Moment) :
    ∃ before, code (text (header m version moment ++ above ++ lines)) = before ++ ts ∧
      Keyed before := by
  obtain ⟨before, hbefore, hnone⟩ := exists_spelled_of_lines habove hbrace
  have hheader := spelled_of_isRemark (isRemark_header m version moment)
  exact ⟨before, ((hheader.append hbefore).append hlines).code_text, keyed_of_notMem hnone⟩

/-- The foot of a dictionary that is no argument. -/
theorem lineSpells_brace : LineSpells "\x7d" [.code '\x7d'] := ⟨_, rfl, by decide⟩

/-- The code of a module that ends with a dictionary. -/
theorem Written.module {above lines keys : List String} {dictionary : List Entry}
    {head name : String} (h : Written lines dictionary)
    (apart : (dictionary.map Entry.key).Nodup) (hname : IsWord name)
    (hhead : LineSpells head (codeTokens name ++ [.code '=', .code '\x7b']))
    (habove : Lines keys above) (hbrace : ∀ line ∈ above, '\x7b' ∉ line.toList)
    {m : Module} {version : Version} {moment : Option Moment} {all : List String}
    (hall : all = header m version moment ++ above ++ block head lines "\x7d") :
    Keyed (code (text all)) ∧ Binds (code (text all)) name dictionary := by
  obtain ⟨before, hcode, hkeyed⟩ :=
    (h.spelled_block hhead lineSpells_brace).module habove hbrace m version moment
  rw [hall, hcode]
  refine ⟨hkeyed.append ((h.nested_dictionary apart hname).keyed.append .nil), ?_⟩
  rw [← List.append_assoc]
  exact h.binds before [] name

variable {model : Model}

/-- The code of the module of the types. -/
theorem code_types (hnames : (model.types.map TypeDef.name).Nodup)
    (hvalues : ∀ type ∈ model.types, (type.values.map TypeValue.value).Nodup)
    (moment : Option Moment) :
    Keyed (code (text (typesLines model moment))) ∧
      ∃ dictionary, Binds (code (text (typesLines model moment))) "FIELD_TYPES" dictionary ∧
        List.Forall₂ IsTypeEntry model.types dictionary := by
  obtain ⟨dictionary, hwritten, hall⟩ :=
    exists_written fun type hmem => exists_entry_of_type (hvalues type hmem)
  have hapart : (dictionary.map Entry.key).Nodup := by
    rw [map_key_of_forall₂ (hall.imp fun _ _ => IsTypeEntry.key)]
    exact nodup_literals hnames
  have hhead : LineSpells "FIELD_TYPES = \x7b"
      (codeTokens "FIELD_TYPES" ++ [.code '=', .code '\x7b']) :=
    lineSpells_dictionary (by decide) spells_dictionaryMark (by decide)
  have himports : Lines [] ["from " ++ recordsModule ++ " import BASE_TYPES, FieldType", "", ""] :=
    .of_plain (by decide)
  have hlines : typesLines model moment = header .types model.version moment ++
      ["from " ++ recordsModule ++ " import BASE_TYPES, FieldType", "", ""] ++
      block "FIELD_TYPES = \x7b" (model.types.flatMap typeEntry) "\x7d" := rfl
  obtain ⟨hkeyed, hbinds⟩ :=
    hwritten.module hapart (by decide) hhead himports (by decide +kernel) hlines
  exact ⟨hkeyed, dictionary, hbinds, hall⟩

/-- The code of the module of the messages. -/
theorem code_messages (h : model.Intact) (moment : Option Moment) :
    Keyed (code (text (messagesText model moment))) ∧
      ∃ dictionary, Binds (code (text (messagesText model moment))) "MESSAGE_TYPES" dictionary ∧
        List.Forall₂ IsMessageEntry model.messages dictionary := by
  obtain ⟨dictionary, hwritten, hall⟩ :=
    exists_written fun message hmem => exists_entry_of_message (h.messages message hmem)
  have hapart : (dictionary.map Entry.key).Nodup := by
    rw [map_key_of_forall₂ (hall.imp fun _ _ => IsMessageEntry.key)]
    exact nodup_decimals (nodup_of_ascending h.ascending)
  have hhead : LineSpells "MESSAGE_TYPES = \x7b"
      (codeTokens "MESSAGE_TYPES" ++ [.code '=', .code '\x7b']) :=
    lineSpells_dictionary (by decide) spells_dictionaryMark (by decide)
  have himports : Lines [] ["from " ++ recordsModule ++
      " import BASE_TYPES, ComponentField, Field, MessageType, ReferenceField, SubField",
      "", "from ." ++ Module.types.name ++ " import FIELD_TYPES", "", ""] := .of_plain (by decide)
  have hlines : messagesText model moment = header .messages model.version moment ++
      ["from " ++ recordsModule ++
        " import BASE_TYPES, ComponentField, Field, MessageType, ReferenceField, SubField",
        "", "from ." ++ Module.types.name ++ " import FIELD_TYPES", "", ""] ++
      block "MESSAGE_TYPES = \x7b" (model.messages.flatMap messageBlock) "\x7d" := rfl
  obtain ⟨hkeyed, hbinds⟩ :=
    hwritten.module hapart (by decide) hhead himports (by decide +kernel) hlines
  exact ⟨hkeyed, dictionary, hbinds, hall⟩

/-- The lines of the release in its module. -/
def releaseLines (model : Model) : List String :=
  ["", "", "PROFILE_VERSION = (" ++ decimal model.version.major ++ ", " ++
     decimal model.version.minor ++ ")",
   "PROFILE_VERSION_SCALED = " ++ decimal model.version.scaled, ""]

/-- The line of the timestamp field. -/
def timestampLine (model : Model) : String :=
  "FIELD_TYPE_TIMESTAMP = Field(name=" ++ Text.quoted "timestamp" ++ ", type=" ++
    (timestampType model.types).2 ++ ", def_num=" ++ decimal timestampNumber ++ ", units=" ++
    Text.quoted "s" ++ ")"

theorem profileLines_eq (model : Model) (moment : Option Moment) :
    profileLines model moment = header .profile model.version moment ++
      ((timestampType model.types).1 ++ releaseLines model) ++
      (block "MESG_NUMS = \x7b" (model.messages.map nameOfNumberLine) "\x7d" ++ ([""] ++
        (block "MESG_NAMES = \x7b" (model.messages.map numberOfNameLine) "\x7d" ++
          ([""] ++ [timestampLine model])))) := by
  have hlines : profileLines model moment = header .profile model.version moment ++
      (timestampType model.types).1 ++ releaseLines model ++
      block "MESG_NUMS = \x7b" (model.messages.map nameOfNumberLine) "\x7d" ++ [""] ++
      block "MESG_NAMES = \x7b" (model.messages.map numberOfNameLine) "\x7d" ++ [""] ++
      [timestampLine model] := rfl
  rw [hlines]
  simp only [List.append_assoc]

/-- Around its dictionaries the module of the release has no braces. -/
theorem brace_notMem_profile (model : Model) :
    (∀ line ∈ (timestampType model.types).1 ++ releaseLines model, '\x7b' ∉ line.toList) ∧
      '\x7b' ∉ (timestampLine model).toList := by
  have hnumber : ∀ n, '\x7b' ∉ (decimal n).toList := notMem_decimal (by decide) (by decide)
  have hrelease : ∀ line ∈ releaseLines model, '\x7b' ∉ line.toList := by
    simp only [releaseLines, List.forall_mem_cons, String.toList_append, List.mem_append, not_or]
    exact ⟨by decide, by decide, ⟨⟨⟨⟨by decide, hnumber _⟩, by decide⟩, hnumber _⟩, by decide⟩,
      ⟨by decide, hnumber _⟩, by decide, by simp⟩
  unfold timestampLine timestampType
  split
  · exact ⟨List.forall_mem_append.mpr ⟨by decide, hrelease⟩, by decide +kernel⟩
  · exact ⟨List.forall_mem_append.mpr ⟨by decide, hrelease⟩, by decide +kernel⟩

/-- The code of the module of the release. -/
theorem code_profile (hascending : model.messages.Pairwise fun a b => a.number < b.number)
    (hnames : (model.messages.map Message.name).Nodup) (moment : Option Moment) :
    Keyed (code (text (profileLines model moment))) ∧
      Binds (code (text (profileLines model moment))) "MESG_NUMS" (model.messages.map nameEntry) ∧
      Binds (code (text (profileLines model moment))) "MESG_NAMES"
        ((model.messages.map nameEntry).map Entry.inverse) := by
  have hlines := lines_profile model moment
  rw [profileLines_eq] at hlines
  obtain ⟨hbrace, htimestamp⟩ := brace_notMem_profile model
  obtain ⟨last, hlast, hnone⟩ : ∃ ts, Spelled ([""] ++ [timestampLine model]) ts ∧
      Token.code '\x7b' ∉ ts := by
    refine exists_spelled_of_lines (fun line hmem => hlines line ?_) ?_
    · exact List.mem_append_right _ (List.mem_append_right _ (List.mem_append_right _
        (List.mem_append_right _ hmem)))
    · exact List.forall_mem_cons.mpr ⟨by decide, List.forall_mem_singleton.mpr htimestamp⟩
  have hnums := written_map written_name model.messages
  have hnumbers : Written (model.messages.map numberOfNameLine)
      ((model.messages.map nameEntry).map Entry.inverse) := by
    rw [List.map_map]
    exact written_map written_number model.messages
  have hnumsApart : ((model.messages.map nameEntry).map Entry.key).Nodup := by
    rw [List.map_map]
    exact nodup_decimals (nodup_of_ascending hascending)
  have hnumbersApart :
      (((model.messages.map nameEntry).map Entry.inverse).map Entry.key).Nodup := by
    rw [List.map_map, List.map_map]
    exact nodup_literals hnames
  have hnumsHead : LineSpells "MESG_NUMS = \x7b"
      (codeTokens "MESG_NUMS" ++ [.code '=', .code '\x7b']) :=
    lineSpells_dictionary (by decide) spells_dictionaryMark (by decide)
  have hnamesHead : LineSpells "MESG_NAMES = \x7b"
      (codeTokens "MESG_NAMES" ++ [.code '=', .code '\x7b']) :=
    lineSpells_dictionary (by decide) spells_dictionaryMark (by decide)
  have hempty : Spelled [""] [] := .of_line (lineSpells_of_isRemark (.inl rfl))
  have htail := (hnums.spelled_block hnumsHead lineSpells_brace).append
    (hempty.append ((hnumbers.spelled_block hnamesHead lineSpells_brace).append hlast))
  have habove : Lines (typeNames model) ((timestampType model.types).1 ++ releaseLines model) := by
    intro line hmem
    exact hlines line (List.mem_append_left _ (List.mem_append_right _ hmem))
  obtain ⟨before, hcode, hkeyed⟩ := htail.module habove hbrace .profile model.version moment
  have hnumsNested := hnums.nested_dictionary hnumsApart (by decide : IsWord "MESG_NUMS")
  have hnamesNested := hnumbers.nested_dictionary hnumbersApart (by decide : IsWord "MESG_NAMES")
  rw [profileLines_eq, hcode]
  simp only [List.append_nil, List.nil_append]
  refine ⟨hkeyed.append (hnumsNested.keyed.append (hnamesNested.keyed.append
    (keyed_of_notMem hnone))), ?_, ?_⟩
  · rw [← List.append_assoc]
    exact hnums.binds before _ "MESG_NUMS"
  · rw [← List.append_assoc, ← List.append_assoc]
    exact hnumbers.binds _ last "MESG_NAMES"

end Source

namespace Model

open Source

/-- No dictionary of a rendered profile loses an entry, and those of the messages agree. In
the code of all three modules every opening brace opens a dictionary with distinct keys. The
dictionary of the types has an entry for each type, with the integers of its values for keys;
the dictionary of the messages has an entry for each message, with the numbers of its fields
for keys. The messages ascend by number; in this order their numbers lead to their names in
the module of the release as well, and the names lead back to the numbers. -/
theorem dictionaries_of_render (rules : RuleSet) (version : Version) (book : Workbook)
    (model : Model) (hmodel : model.LinkedFrom rules version book) (moment : Option Moment)
    (profile : Profile) (hprofile : model.render moment = .ok profile) :
    (∀ source ∈ [profile.types, profile.messages, profile.profile], ∀ before after,
        code source = before ++ .code '\x7b' :: after → DistinctKeys after) ∧
      (∃ dictionary, Binds (code profile.types) "FIELD_TYPES" dictionary ∧
        List.Forall₂ IsTypeEntry model.types dictionary) ∧
      (∃ dictionary, Binds (code profile.messages) "MESSAGE_TYPES" dictionary ∧
        List.Forall₂ IsMessageEntry model.messages dictionary) ∧
      model.messages.Pairwise (fun a b => a.number < b.number) ∧
      Binds (code profile.profile) "MESG_NUMS" (model.messages.map nameEntry) ∧
      Binds (code profile.profile) "MESG_NAMES"
        ((model.messages.map nameEntry).map Entry.inverse) := by
  have hintact := hmodel.intact
  rw [(renders_render hintact moment).eq_of_ok hprofile]
  simp only [profileOf]
  obtain ⟨htypes, htypeEntries⟩ := code_types hmodel.nodup_typeNames hmodel.nodup_values moment
  obtain ⟨hmessages, hmessageEntries⟩ := code_messages hintact moment
  obtain ⟨hrelease, hnums, hnames⟩ := code_profile hintact.ascending hintact.names moment
  refine ⟨?_, htypeEntries, hmessageEntries, hintact.ascending, hnums, hnames⟩
  simp only [List.forall_mem_cons]
  exact ⟨fun before after => htypes.distinctKeys, fun before after => hmessages.distinctKeys,
    fun before after => hrelease.distinctKeys, by simp⟩

/-- The event workbook: a dictionary of three types, and the numbers of its one message. -/
theorem eventBook_dictionaries : ∃ (model : Model) (profile : Profile),
    model.LinkedFrom .sdk20 ⟨21, 0⟩ eventBook ∧ model.render none = .ok profile ∧
      typeNames model = ["mesg_num", "event", "bool"] ∧
      model.messages.map nameEntry = [⟨codeTokens "21", [literalToken "event"]⟩] ∧
      (∀ before after, code profile.types = before ++ .code '\x7b' :: after →
        DistinctKeys after) ∧
      (∃ dictionary, Binds (code profile.types) "FIELD_TYPES" dictionary ∧
        List.Forall₂ IsTypeEntry model.types dictionary) ∧
      Binds (code profile.profile) "MESG_NUMS" [⟨codeTokens "21", [literalToken "event"]⟩] := by
  have hrendered : ∃ (model : Model) (profile : Profile),
      model.LinkedFrom .sdk20 ⟨21, 0⟩ eventBook ∧ model.render none = .ok profile ∧
        typeNames model = ["mesg_num", "event", "bool"] ∧
        model.messages.map nameEntry = [⟨codeTokens "21", [literalToken "event"]⟩] :=
    ⟨_, _, ⟨_, rfl, rfl⟩, rfl, rfl, rfl⟩
  obtain ⟨model, profile, hmodel, hprofile, hnames, hentries⟩ := hrendered
  obtain ⟨hdistinct, htypes, -, -, hnums, -⟩ := dictionaries_of_render .sdk20 ⟨21, 0⟩ eventBook
    model hmodel none profile hprofile
  exact ⟨model, profile, hmodel, hprofile, hnames, hentries,
    hdistinct profile.types (List.mem_cons_self ..), htypes, hentries ▸ hnums⟩

end Model

end FitProfile
