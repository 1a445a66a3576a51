import FitProfile.Proofs.Source.Dictionaries
import FitProfile.Proofs.Source.Forms
/-!
# FitProfile.Proofs.Source.Spelling -- the code of generated lines

What the lines of a generated module mean to a reader of the code, without white space and
remarks: a line is spelled from words, quoted texts and brackets. The lines of a field are
nested code, whatever the cells of the workbook hold.
-/

namespace FitProfile.Source

open FitProfile.Number FitProfile.Text

/-! ## Words -/

/-- Characters of names and numbers, and the sign in front of the value of an argument. -/
def isWordChar (c : Char) : Bool := c.isAlphanum || "_.+-=".toList.contains c

/-- Texts of such characters. -/
def IsWord (s : String) : Prop := ∀ c ∈ s.toList, isWordChar c = true

instance (s : String) : Decidable (IsWord s) :=
  decidable_of_iff (s.toList.all isWordChar = true) List.all_eq_true

theorem ne_of_isWordChar {c d : Char} (hc : isWordChar c = true) (hd : isWordChar d = false) :
    c ≠ d := by
  rintro rfl
  rw [hd] at hc
  cases hc

theorem isWordChar_of_isNumeral {c : Char} (h : isNumeral c = true) : isWordChar c = true := by
  rcases Bool.or_eq_true _ _ ▸ h with hdigit | hmark
  · rw [isWordChar, Char.isAlphanum, hdigit, Bool.or_true, Bool.true_or]
  · have hall : "+-.einfa".toList.all isWordChar = true := by decide
    exact List.all_eq_true.mp hall c (List.contains_iff_mem.mp hmark)

theorem isWord_of_numeralChars {s : String} (h : NumeralChars s.toList) : IsWord s :=
  fun c hmem => isWordChar_of_isNumeral (h c hmem)

theorem isWord_decimal (n : Int) : IsWord (decimal n) :=
  isWord_of_numeralChars (numeralChars_decimal n)

theorem IsWord.code_notMem {s : String} (h : IsWord s) {c : Char} (hc : isWordChar c = false) :
    Token.code c ∉ codeTokens s := by
  intro hmem
  obtain ⟨d, hd, heq⟩ := List.mem_map.mp hmem
  obtain rfl := Token.code.inj heq
  exact ne_of_isWordChar (h d hd) hc rfl

theorem IsWord.flat {s : String} (h : IsWord s) : Flat (codeTokens s) := by
  intro t hmem
  obtain ⟨d, hd, rfl⟩ := List.mem_map.mp hmem
  have hne : ∀ {c : Char}, isWordChar c = false → (Token.code d == Token.code c) = false := by
    intro c hc
    rw [beq_eq_false_iff_ne]
    exact fun heq => ne_of_isWordChar (h d hd) hc (Token.code.inj heq)
  simp only [Token.opens, Token.closes, Bool.or_eq_false_iff]
  exact ⟨⟨⟨hne (by decide), hne (by decide)⟩, hne (by decide)⟩,
    ⟨hne (by decide), hne (by decide)⟩, hne (by decide)⟩

/-! ## Texts and lines -/

/-- A text of code, spelled by its visible tokens. -/
def Spells (s : String) (ts : List Token) : Prop :=
  ∃ raw, Emits s.toList raw ∧ raw.filter Token.isVisible = ts

/-- A line of code, spelled by its visible tokens. -/
def LineSpells (line : String) (ts : List Token) : Prop :=
  ∃ raw, Emits (line.toList ++ ['\n']) raw ∧ raw.filter Token.isVisible = ts

/-- Lines of code, spelled by their visible tokens. -/
inductive Spelled : List String → List Token → Prop where
  | nil : Spelled [] []
  | cons {line : String} {lines : List String} {ts us : List Token} (h : LineSpells line ts)
      (hl : Spelled lines us) : Spelled (line :: lines) (ts ++ us)

theorem Spells.append {s t : String} {ts us : List Token} (hs : Spells s ts) (ht : Spells t us) :
    Spells (s ++ t) (ts ++ us) := by
  obtain ⟨raw, hraw, rfl⟩ := hs
  obtain ⟨more, hmore, rfl⟩ := ht
  refine ⟨raw ++ more, ?_, List.filter_append ..⟩
  rw [String.toList_append]
  exact hraw.append hmore

/-- Code without strings and remarks is spelled character by character. -/
theorem spells_code {s : String} (h : ∀ c ∈ s.toList, c ≠ '\'' ∧ c ≠ '"' ∧ c ≠ '#') :
    Spells s ((codeTokens s).filter Token.isVisible) := ⟨_, emits_of_code h, rfl⟩

theorem IsWord.spells {s : String} (h : IsWord s) : Spells s (codeTokens s) := by
  have hvisible : (codeTokens s).filter Token.isVisible = codeTokens s := by
    rw [List.filter_eq_self]
    intro t hmem
    obtain ⟨c, hc, rfl⟩ := List.mem_map.mp hmem
    have hne : ∀ {d : Char}, isWordChar d = false → Token.code c ≠ Token.code d :=
      fun hd heq => ne_of_isWordChar (h c hc) hd (Token.code.inj heq)
    simp only [Token.isVisible, Bool.and_eq_true, bne_iff_ne]
    exact ⟨hne (by decide), hne (by decide)⟩
  have hcode : ∀ c ∈ s.toList, c ≠ '\'' ∧ c ≠ '"' ∧ c ≠ '#' := fun c hc =>
    ⟨ne_of_isWordChar (h c hc) (by decide), ne_of_isWordChar (h c hc) (by decide),
      ne_of_isWordChar (h c hc) (by decide)⟩
  exact hvisible ▸ spells_code hcode

theorem spells_quoted (s : String) : Spells (Text.quoted s) [literalToken s] :=
  ⟨_, emits_quoted s, rfl⟩

/-- A remark at the end of a line spells nothing. -/
theorem Spells.line_remark {s r : String} {ts : List Token} (hs : Spells s ts) (hr : IsRemark r) :
    LineSpells (s ++ r) ts := by
  obtain ⟨raw, hraw, rfl⟩ := hs
  refine ⟨raw ++ [.code '\n'], ?_, ?_⟩
  · rw [String.toList_append, List.append_assoc]
    exact hraw.append hr.emits
  · rw [List.filter_append]
    exact List.append_nil _

theorem Spells.line {s : String} {ts : List Token} (h : Spells s ts) : LineSpells s ts := by
  have hline := h.line_remark (.inl rfl)
  rwa [String.append_empty] at hline

/-- A remark two spaces behind the code of a line spells nothing. -/
theorem Spells.line_withRemark {s comment : String} {ts : List Token} (h : Spells s ts)
    (hcomment : '\n' ∉ comment.toList) : LineSpells (s ++ ("  # " ++ comment)) ts := by
  have hmark : "  # " = "  " ++ ("#" ++ " ") := by decide
  have hspaces : Spells "  " [] := ⟨_, rfl, by decide⟩
  have hsplit : s ++ ("  # " ++ comment) = s ++ "  " ++ ("#" ++ (" " ++ comment)) := by
    rw [hmark]
    simp only [String.append_assoc]
  have hremark : IsRemark ("#" ++ (" " ++ comment)) :=
    .inr ⟨_, rfl, newline_notMem_append (by decide) hcomment⟩
  have hline := (h.append hspaces).line_remark hremark
  rw [List.append_nil] at hline
  rwa [hsplit]

theorem lineSpells_of_isRemark {line : String} (h : IsRemark line) : LineSpells line [] := by
  have hempty : Spells "" [] := ⟨[], rfl, rfl⟩
  have hline := hempty.line_remark h
  rwa [String.empty_append] at hline

/-- Indentation spells nothing. -/
theorem LineSpells.deeper {line : String} {ts : List Token} (h : LineSpells line ts) :
    LineSpells (deeper line) ts := by
  unfold Source.deeper
  split
  · exact h
  · obtain ⟨raw, hraw, rfl⟩ := h
    have hunit : Emits indentUnit.toList (codeTokens indentUnit) := rfl
    refine ⟨codeTokens indentUnit ++ raw, ?_, ?_⟩
    · rw [String.toList_append, List.append_assoc]
      exact hunit.append hraw
    · rw [List.filter_append]
      exact List.nil_append _

theorem Spelled.of_line {line : String} {ts : List Token} (h : LineSpells line ts) :
    Spelled [line] ts := by
  have hlines := Spelled.cons h .nil
  rwa [List.append_nil] at hlines

theorem Spelled.append {lines others : List String} {ts us : List Token} (hl : Spelled lines ts)
    (ho : Spelled others us) : Spelled (lines ++ others) (ts ++ us) := by
  induction hl with
  | nil => exact ho
  | cons h _ ih =>
    rw [List.append_assoc]
    exact .cons h ih

theorem Spelled.deeper {lines : List String} {ts : List Token} (h : Spelled lines ts) :
    Spelled (lines.map Source.deeper) ts := by
  induction h with
  | nil => exact .nil
  | cons h _ ih => exact .cons h.deeper ih

theorem Spelled.block {head foot : String} {body : List String} {ts us vs : List Token}
    (hhead : LineSpells head ts) (hbody : Spelled body us) (hfoot : LineSpells foot vs) :
    Spelled (block head body foot) (ts ++ us ++ vs) := by
  rw [List.append_assoc]
  exact .cons hhead (hbody.deeper.append (.of_line hfoot))

theorem spelled_of_isRemark {lines : List String} (h : ∀ line ∈ lines, IsRemark line) :
    Spelled lines [] := by
  induction lines with
  | nil => exact .nil
  | cons line lines ih =>
    obtain ⟨hline, hlines⟩ := List.forall_mem_cons.mp h
    exact .cons (lineSpells_of_isRemark hline) (ih hlines)

/-- The code of a text is that of its lines. -/
theorem Spelled.code_text {lines : List String} {ts : List Token} (h : Spelled lines ts) :
    code (text lines) = ts := by
  have hemits : ∃ raw, Emits (lines.flatMap fun line => line.toList ++ ['\n']) raw ∧
      raw.filter Token.isVisible = ts := by
    induction h with
    | nil => exact ⟨[], rfl, rfl⟩
    | cons h _ ih =>
      obtain ⟨raw, hraw, rfl⟩ := h
      obtain ⟨more, hmore, rfl⟩ := ih
      exact ⟨raw ++ more, hraw.append hmore, List.filter_append ..⟩
  obtain ⟨raw, hraw, rfl⟩ := hemits
  rw [code, tokens, toList_text, hraw]

/-! ## Nested lines -/

/-- Lines of nested code. -/
def NestedLines (lines : List String) : Prop := ∃ ts, Spelled lines ts ∧ Nested ts

theorem nestedLines_nil : NestedLines [] := ⟨[], .nil, .flat (by decide)⟩

theorem NestedLines.append {lines others : List String} (hl : NestedLines lines)
    (ho : NestedLines others) : NestedLines (lines ++ others) := by
  obtain ⟨ts, hts, hnested⟩ := hl
  obtain ⟨us, hus, hother⟩ := ho
  exact ⟨ts ++ us, hts.append hus, hnested.append hother⟩

theorem NestedLines.cons {line : String} {lines : List String} {ts : List Token}
    (h : LineSpells line ts) (hts : Nested ts) (hl : NestedLines lines) :
    NestedLines (line :: lines) := by
  obtain ⟨us, hus, hnested⟩ := hl
  exact ⟨ts ++ us, .cons h hus, hts.append hnested⟩

theorem nestedLines_flatMap {α : Type} {list : List α} {f : α → List String}
    (h : ∀ a ∈ list, NestedLines (f a)) : NestedLines (list.flatMap f) := by
  induction list with
  | nil => exact nestedLines_nil
  | cons a list ih =>
    obtain ⟨ha, hlist⟩ := List.forall_mem_cons.mp h
    rw [List.flatMap_cons]
    exact ha.append (ih hlist)

/-- The foot of a call in a list of such. -/
theorem lineSpells_foot : LineSpells ")," [.code ')', .code ','] := ⟨_, rfl, by decide⟩

/-- A word with an opening parenthesis behind it. -/
theorem lineSpells_open {head name : String} (hname : IsWord name) (hhead : head = name ++ "(") :
    LineSpells head (codeTokens name ++ [.code '(']) := by
  have hopen : Spells "(" [.code '('] := ⟨_, rfl, by decide⟩
  rw [hhead]
  exact (hname.spells.append hopen).line

/-- A call whose arguments are nested lines. -/
theorem NestedLines.block {head name : String} {body : List String} (hname : IsWord name)
    (hhead : head = name ++ "(") (h : NestedLines body) : NestedLines (block head body "),") := by
  obtain ⟨ts, hts, hnested⟩ := h
  have hcomma : Nested [.code ','] := .flat (by decide)
  have hsplit : codeTokens name ++ [.code '('] ++ ts ++ [.code ')', .code ','] =
      codeTokens name ++ (.code '(' :: ts ++ [.code ')']) ++ [.code ','] := by simp
  exact ⟨_, .block (lineSpells_open hname hhead) hts lineSpells_foot,
    hsplit ▸ ((Nested.flat hname.flat).append hnested.parens).append hcomma⟩

/-- The code of a keyword argument. -/
def keywordTokens (name : String) (value : List Token) : List Token :=
  codeTokens name ++ .code '=' :: value ++ [.code ',']

theorem spells_argument {name value : String} {ts : List Token} (hname : IsWord name)
    (hvalue : Spells value ts) : Spells (name ++ "=" ++ value ++ ",") (keywordTokens name ts) := by
  have hequals : Spells "=" [.code '='] := ⟨_, rfl, by decide⟩
  have hcomma : Spells "," [.code ','] := ⟨_, rfl, by decide⟩
  have hall := ((hname.spells.append hequals).append hvalue).append hcomma
  simpa only [keywordTokens, List.append_assoc, List.cons_append, List.nil_append] using hall

theorem lineSpells_keyword {name value : String} {ts : List Token} (hname : IsWord name)
    (hvalue : Spells value ts) : LineSpells (keyword name value "") (keywordTokens name ts) := by
  rw [keyword_eq]
  exact (spells_argument hname hvalue).line

theorem nested_keywordTokens {name : String} {ts : List Token} (hname : IsWord name)
    (h : Nested ts) : Nested (keywordTokens name ts) := by
  have hequals : Nested [.code '='] := .flat (by decide)
  have hcomma : Nested [.code ','] := .flat (by decide)
  exact ((Nested.flat hname.flat).append (hequals.append h)).append hcomma

theorem NestedLines.keyword {name value : String} {lines : List String} {ts : List Token}
    (hname : IsWord name) (hvalue : Spells value ts) (hts : Nested ts) (h : NestedLines lines) :
    NestedLines (keyword name value "" :: lines) :=
  .cons (lineSpells_keyword hname hvalue) (nested_keywordTokens hname hts) h

theorem NestedLines.quotedKeyword {name s : String} {lines : List String} (hname : IsWord name)
    (h : NestedLines lines) : NestedLines (Source.keyword name (Text.quoted s) "" :: lines) :=
  .keyword hname (spells_quoted s) (.flat (flat_literal s)) h

theorem NestedLines.wordKeyword {name word : String} {lines : List String} (hname : IsWord name)
    (hword : IsWord word) (h : NestedLines lines) :
    NestedLines (Source.keyword name word "" :: lines) :=
  .keyword hname hword.spells (.flat hword.flat) h

/-! ## Types -/

/-- The code of a base type. -/
def baseTokens (b : BaseType) : List Token :=
  codeTokens "BASE_TYPES" ++ (.code '[' :: codeTokens ("0x" ++ b.identifierDigits 2) ++ [.code ']'])

theorem spells_base (b : BaseType) : Spells (baseExpression b) (baseTokens b) := by
  cases b <;> exact ⟨_, rfl, by decide⟩

theorem nested_baseTokens (b : BaseType) : Nested (baseTokens b) := by
  have hname : Nested (codeTokens "BASE_TYPES") := .flat (by decide)
  have hdigits : Flat (codeTokens ("0x" ++ b.identifierDigits 2)) := by
    cases b <;> decide
  exact hname.append (.brackets (.flat hdigits))

/-- The line of a keyword argument that is a base type, with the name behind it. -/
theorem lineSpells_baseKeyword {name : String} (hname : IsWord name) (b : BaseType) :
    LineSpells (keyword name (baseExpression b) b.name) (keywordTokens name (baseTokens b)) := by
  have hremark : remark b.name = "  # " ++ b.name := by
    cases b <;> decide
  rw [keyword, hremark]
  exact (spells_argument hname (spells_base b)).line_withRemark
    (newline_notMem_plain (plain_baseName b))

variable {model : Model} {message : Message}

theorem nestedLines_type {type : FieldType} (h : type.BelongsTo model) :
    NestedLines [typeLine type] := by
  cases type with
  | base b =>
    exact .cons (lineSpells_baseKeyword (by decide) b)
      (nested_keywordTokens (by decide) (nested_baseTokens b)) nestedLines_nil
  | declared t =>
    have hopen : Spells "FIELD_TYPES[" (codeTokens "FIELD_TYPES" ++ [.code '[']) :=
      ⟨_, rfl, by decide⟩
    have hclose : Spells "]" [.code ']'] := ⟨_, rfl, by decide⟩
    have hspells := (hopen.append (spells_quoted t.name)).append hclose
    have hname : Nested (codeTokens "FIELD_TYPES") := .flat (by decide)
    have hnested := hname.append (.brackets (.flat (flat_literal t.name)))
    refine .keyword (by decide) hspells ?_ nestedLines_nil
    simpa only [List.append_assoc, List.cons_append, List.nil_append] using hnested
  | foreign name => exact absurd h id
  | invalid value => exact absurd h id

/-! ## Fields -/

theorem nestedLines_scaling (s : Scaling) : NestedLines (scalingLines s) := by
  have hquantity : ∀ q : Quantity, IsWord q.text :=
    fun q => isWord_of_numeralChars (numeralChars_quantity q)
  refine scalingLines_induction nestedLines_nil (fun _ _ hl ho => hl.append ho) (fun q => ?_)
    (fun q => ?_) (fun u => ?_) ?_ s
  · exact .wordKeyword (by decide) (hquantity q) nestedLines_nil
  · exact .wordKeyword (by decide) (hquantity q) nestedLines_nil
  · exact .quotedKeyword (by decide) nestedLines_nil
  · exact .wordKeyword (by decide) (by decide) nestedLines_nil

theorem nestedLines_extent {extent : Option Extent} (h : Extent.IsArraySize extent) :
    NestedLines [extentLine extent] := by
  match extent, h with
  | none, _ => exact .wordKeyword (by decide) (by decide) nestedLines_nil
  | some (.count n), _ => exact .wordKeyword (by decide) (isWord_decimal n) nestedLines_nil
  | some (.symbol s), _ => exact .quotedKeyword (by decide) nestedLines_nil

theorem nestedLines_slice (s : Slice) : NestedLines (sliceEntry s) := by
  have hlast : NestedLines [keyword "bits" (decimal s.bits) "",
      keyword "bit_offset" (decimal s.bitOffset) ""] :=
    .wordKeyword (by decide) (isWord_decimal _)
      (.wordKeyword (by decide) (isWord_decimal _) nestedLines_nil)
  have hfirst : NestedLines [keyword "name" (Text.quoted s.name) "",
      keyword "def_num" (decimal s.number) ""] :=
    .quotedKeyword (by decide) (.wordKeyword (by decide) (isWord_decimal _) nestedLines_nil)
  have hname : IsWord "ComponentField" := by decide
  exact .block hname (by decide) ((hfirst.append (nestedLines_scaling s.scaling)).append hlast)

theorem nestedLines_shape {carrier : Int} {shape : Shape} (h : shape.Intact message carrier) :
    NestedLines (shapeText shape) := by
  cases shape with
  | plain => exact nestedLines_nil
  | array extent => exact nestedLines_extent h.2
  | packed extent slices =>
    have hname : IsWord "components=" := by decide
    refine .append ?_ (.block hname (by decide) (nestedLines_flatMap fun s _ => nestedLines_slice s))
    unfold extentText?
    split
    · exact nestedLines_extent h.1
    · exact nestedLines_nil
  | unknown kind => exact nestedLines_nil

theorem nestedLines_single {field : SingleField} (h : field.Intact model message) :
    NestedLines (singleText field) := by
  have hnumber : NestedLines [keyword "def_num" (decimal field.number) ""] :=
    .wordKeyword (by decide) (isWord_decimal _) nestedLines_nil
  have hfirst : NestedLines [keyword "name" (Text.quoted field.name) "", typeLine field.type,
      keyword "def_num" (decimal field.number) ""] :=
    .quotedKeyword (by decide) ((nestedLines_type h.type).append hnumber)
  exact (hfirst.append (nestedLines_scaling _)).append (nestedLines_shape h.shape)

theorem nestedLines_conditions (conditions : List Condition) :
    NestedLines (conditionsText conditions) := by
  have hname : IsWord "ref_fields=" := by decide
  have hentry : IsWord "ReferenceField" := by decide
  refine .block hname (by decide) (nestedLines_flatMap fun c _ => nestedLines_flatMap fun v _ => ?_)
  refine .block hentry (by decide) ?_
  exact .quotedKeyword (by decide) (.wordKeyword (by decide) (isWord_decimal _)
    (.quotedKeyword (by decide) (.wordKeyword (by decide) (isWord_decimal _) nestedLines_nil)))

theorem nestedLines_variants {variants : List (Field × List Condition)}
    (h : ∀ variant ∈ variants, VariantIntact model message variant) :
    NestedLines (variantsText variants) := by
  have hname : IsWord "subfields=" := by decide
  have hentry : IsWord "SubField" := by decide
  refine .block hname (by decide) (nestedLines_flatMap fun variant hmem => ?_)
  obtain ⟨single, heq, hsingle, -⟩ := h variant hmem
  rw [variantText, heq]
  exact .block hentry (by decide) ((nestedLines_single hsingle).append (nestedLines_conditions _))

/-- The lines of an intact field are nested code. -/
theorem nestedLines_field {field : Field} (h : field.Intact model message) :
    NestedLines (fieldText field) := by
  cases h with
  | single hsingle => exact nestedLines_single hsingle
  | dynamic hstandard _ hvariants =>
    apply (nestedLines_single hstandard).append
    apply nestedLines_variants
    intro variant hmem
    obtain ⟨single, heq, -, hsingle, hconditions⟩ := hvariants variant hmem
    exact ⟨single, heq, hsingle, hconditions⟩

end FitProfile.Source
