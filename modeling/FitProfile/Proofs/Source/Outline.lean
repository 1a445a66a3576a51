import FitProfile.Proofs.Source.Forms
import FitProfile.Proofs.Source.Readability
/-!
# FitProfile.Proofs.Source.Outline -- rendering loses nothing but remarks

The outline of a model is all that it holds apart from comments and row numbers, with
scales and offsets as their texts. The modules of the types and of the messages determine
it. Every entry of the modules is a block, so it is shown block by block, from the inside
out, that head and body determine what the entry shows.
-/

namespace FitProfile

open FitProfile.Number

/-! ## Outlines -/

/-- A scaling with the texts of its numbers. -/
structure ScalingOutline where
  scale : Option String
  offset : Option String
  units : Option String
  accumulate : Bool
  deriving DecidableEq, Repr

/-- A slice with its own scaling. -/
structure SliceOutline where
  name : String
  number : Int
  bits : Int
  bitOffset : Int
  scaling : ScalingOutline
  deriving DecidableEq, Repr

/-- The kind of a field that is not dynamic, with its array size and its slices. -/
inductive ShapeOutline where
  | plain
  | array (extent : Option Extent)
  | packed (extent : Option Extent) (slices : List SliceOutline)
  | unknown
  deriving DecidableEq, Repr

/-- A field that is not dynamic; its type is a base type or the name of a type. -/
structure SingleOutline where
  number : Int
  name : String
  type : BaseType ⊕ String
  scaling : ScalingOutline
  shape : ShapeOutline
  deriving DecidableEq, Repr

/-- A field, by itself or as a default with its variants and their conditions. -/
inductive FieldOutline where
  | single (field : SingleOutline)
  | dynamic (standard : SingleOutline) (variants : List (SingleOutline × List Condition))
  deriving DecidableEq, Repr

/-- A message with its fields in order. -/
structure MessageOutline where
  name : String
  number : Int
  fields : List FieldOutline
  deriving DecidableEq, Repr

/-- A type with its value names and their values in order. -/
structure TypeOutline where
  name : String
  base : BaseType
  values : List (String × Int)
  deriving DecidableEq, Repr

/-- A model without comments and row numbers. -/
structure ModelOutline where
  version : Version
  types : List TypeOutline
  messages : List MessageOutline
  deriving DecidableEq, Repr

/-- The outline of a scaling. -/
def Scaling.outline (s : Scaling) : ScalingOutline :=
  ⟨s.scale.map Quantity.text, s.offset.map Quantity.text, s.units, s.accumulate⟩

/-- The outline of a slice. -/
def Slice.outline (s : Slice) : SliceOutline :=
  ⟨s.name, s.number, s.bits, s.bitOffset, s.scaling.outline⟩

/-- The outline of a shape. -/
def Shape.outline : Shape → ShapeOutline
  | .plain => .plain
  | .array extent => .array extent
  | .packed extent slices => .packed extent (slices.map Slice.outline)
  | .unknown _ => .unknown

/-- The base type or the name that a type is referred to by. -/
def FieldType.outline : FieldType → BaseType ⊕ String
  | .base b => .inl b
  | type => .inr type.name

/-- The outline of a field that is not dynamic. -/
def SingleField.outline (field : SingleField) : SingleOutline :=
  ⟨field.number, field.name, field.type.outline, field.scaling.outline, field.shape.outline⟩

/-- The outline of a field. Defaults and variants of intact models are not dynamic, so each
is its own innermost default. -/
def Field.outline : Field → FieldOutline
  | .single field => .single field.outline
  | .dynamic standard variants =>
    .dynamic standard.lead.outline (variants.map fun v => (v.1.lead.outline, v.2))

/-- The outline of a message. -/
def Message.outline (message : Message) : MessageOutline :=
  ⟨message.name, message.number, message.fields.map Field.outline⟩

/-- The outline of a type. -/
def TypeDef.outline (type : TypeDef) : TypeOutline :=
  ⟨type.name, type.base, type.values.map fun v => (v.name, v.value)⟩

/-- The outline of a model. -/
def Model.outline (model : Model) : ModelOutline :=
  ⟨model.version, model.types.map TypeDef.outline, model.messages.map Message.outline⟩

namespace Source

open FitProfile.Text

/-- The foot of all entries but the dictionaries. -/
theorem outer_foot : Outer ")," := by decide

/-! ## Scalings and slices -/

/-- Decimal text as the value of a keyword argument determines the integer. -/
theorem keyword_decimal_inj {name : String} {a b : Int}
    (h : keyword name (decimal a) "" = keyword name (decimal b) "") : a = b :=
  decimal_inj (keyword_inj h)

/-- Quoted text as the value of a keyword argument determines the text. -/
theorem keyword_quoted_inj {name a b : String}
    (h : keyword name (Text.quoted a) "" = keyword name (Text.quoted b) "") : a = b := by
  have hquoted : Text.quoted a ++ "" = Text.quoted b ++ "" := by rw [keyword_inj h]
  exact (quoted_append_inj hquoted).1

/-- The tags of the lines of a scaling. -/
def scalingTags : List String := ["scale", "offset", "units", "accumulate"]

/-- The flag as an entry that may be missing. -/
def flag (b : Bool) : Option Unit := if b then some () else none

/-- The lines of a scaling from its flag on. -/
def flagLines (s : Scaling) (rest : List String) : List String :=
  optional (fun _ : Unit => [keyword "accumulate" "True" ""]) (flag s.accumulate) ++ rest

/-- The lines of a scaling from its units on. -/
def unitsLines (s : Scaling) (rest : List String) : List String :=
  optional (fun u : String => [keyword "units" (Text.quoted u) ""]) s.units ++ flagLines s rest

/-- The lines of a scaling from its offset on. -/
def offsetLines (s : Scaling) (rest : List String) : List String :=
  optional (fun q : Quantity => [keyword "offset" q.text ""]) s.offset ++ unitsLines s rest

/-- The lines of a scaling are entries that may be missing, one behind the other. -/
theorem scalingLines_append (s : Scaling) (rest : List String) : scalingLines s ++ rest =
    optional (fun q : Quantity => [keyword "scale" q.text ""]) s.scale ++ offsetLines s rest := by
  unfold scalingLines offsetLines unitsLines flagLines
  rw [List.append_assoc, List.append_assoc, List.append_assoc]
  cases s.scale <;> cases s.offset <;> cases s.units <;> cases s.accumulate <;> rfl

theorem off_optional_keyword {α : Type} {tags : List String} {name : String}
    (hname : '=' ∉ name.toList) (hoff : name.toList ∉ tags.map String.toList) {value : α → String}
    (o : Option α) : Off tags (optional (fun a => [keyword name (value a) ""]) o) := by
  cases o with
  | none => exact .nil
  | some a =>
    refine .cons ?_ .nil
    rw [tag_keyword hname]
    exact hoff

theorem head_tag_keyword {α : Type} {name : String} (hname : '=' ∉ name.toList)
    {value : α → String} (a : α) :
    ([keyword name (value a) ""] : List String).head?.map tag = some name.toList := by
  rw [List.head?_cons, Option.map_some, tag_keyword hname]

/-- No line behind an entry of a scaling has the tag of the entry. -/
theorem off_behind_scaling (s : Scaling) {rest : List String} (h : Off scalingTags rest) :
    Off ["scale"] (offsetLines s rest) ∧ Off ["offset"] (unitsLines s rest) ∧
      Off ["units"] (flagLines s rest) ∧ Off ["accumulate"] rest := by
  have hflag : Off ["scale", "offset", "units"] (flagLines s rest) :=
    (off_optional_keyword (by decide) (by decide) _).append (h.mono (by decide))
  have hunits : Off ["scale", "offset"] (unitsLines s rest) :=
    (off_optional_keyword (by decide) (by decide) _).append (hflag.mono (by decide))
  have hoffset : Off ["scale"] (offsetLines s rest) :=
    (off_optional_keyword (by decide) (by decide) _).append (hunits.mono (by decide))
  exact ⟨hoffset, hunits.mono (by decide), hflag.mono (by decide), h.mono (by decide)⟩

/-- Scaling lines end in front of lines with other tags. -/
theorem scalingLines_append_inj {s t : Scaling} {rest more : List String}
    (hrest : Off scalingTags rest) (hmore : Off scalingTags more)
    (h : scalingLines s ++ rest = scalingLines t ++ more) :
    s.outline = t.outline ∧ rest = more := by
  have htrue : ∀ {α : Type} {o : Option α}, ∀ a ∈ o, True := fun _ _ => trivial
  have hquantity : ∀ name, Readable (fun _ : Quantity => True)
      (fun q => [keyword name q.text ""]) Quantity.text :=
    fun name => .of_line fun _ _ heq => keyword_inj heq
  have hunits : Readable (fun _ : String => True)
      (fun u => [keyword "units" (Text.quoted u) ""]) id :=
    .of_line fun _ _ heq => keyword_quoted_inj heq
  have hflag : Readable (fun _ : Unit => True) (fun _ => [keyword "accumulate" "True" ""]) id :=
    .of_line fun _ _ _ => rfl
  -- the lines behind each entry have other tags than the entry
  obtain ⟨hoffScale, hoffOffset, hoffUnits, hoffFlag⟩ := off_behind_scaling s hrest
  obtain ⟨hoffScale', hoffOffset', hoffUnits', hoffFlag'⟩ := off_behind_scaling t hmore
  rw [scalingLines_append, scalingLines_append] at h
  obtain ⟨hscale, h⟩ := optional_append_inj (hquantity "scale") (head_tag_keyword (by decide))
    htrue htrue hoffScale hoffScale' h
  obtain ⟨hoffset, h⟩ := optional_append_inj (hquantity "offset") (head_tag_keyword (by decide))
    htrue htrue hoffOffset hoffOffset' h
  obtain ⟨hunitsEq, h⟩ := optional_append_inj hunits (head_tag_keyword (by decide)) htrue htrue
    hoffUnits hoffUnits' h
  obtain ⟨haccumulate, h⟩ := optional_append_inj hflag (head_tag_keyword (by decide)) htrue htrue
    hoffFlag hoffFlag' h
  refine ⟨?_, h⟩
  have haccumulateEq : s.accumulate = t.accumulate := by
    revert haccumulate
    cases s.accumulate <;> cases t.accumulate <;> simp [flag]
  simp only [Scaling.outline, hscale, hoffset, haccumulateEq]
  simpa using hunitsEq

theorem off_keyword {tags : List String} {name : String} (hname : '=' ∉ name.toList)
    (hoff : name.toList ∉ tags.map String.toList) (value comment : String) :
    tag (keyword name value comment) ∉ tags.map String.toList := by
  rwa [tag_keyword hname]

theorem readable_slice : Readable (fun _ => True) sliceEntry Slice.outline := by
  refine .of_block outer_foot ?_
  intro a b _ _ _ hbody
  simp only [List.cons_append, List.nil_append, List.cons.injEq] at hbody
  obtain ⟨hname, hnumber, hrest⟩ := hbody
  have hoff : ∀ s : Slice, Off scalingTags
      [keyword "bits" (decimal s.bits) "", keyword "bit_offset" (decimal s.bitOffset) ""] :=
    fun s => .cons (off_keyword (by decide) (by decide) _ _)
      (.cons (off_keyword (by decide) (by decide) _ _) .nil)
  obtain ⟨hscaling, hrest⟩ := scalingLines_append_inj (hoff a) (hoff b) hrest
  simp only [List.cons.injEq, and_true] at hrest
  rw [Slice.outline, Slice.outline, keyword_quoted_inj hname, keyword_decimal_inj hnumber,
    hscaling, keyword_decimal_inj hrest.1, keyword_decimal_inj hrest.2]

/-! ## Fields that are not dynamic -/

/-- The tags of the lines of a shape. -/
def shapeTags : List String := ["array", "components"]

/-- The extent of a shape. -/
def extent? : Shape → Option Extent
  | .array extent => extent
  | .packed extent _ => extent
  | _ => none

/-- The slices of a packed shape. -/
def slices? : Shape → Option (List Slice)
  | .packed _ slices => some slices
  | _ => none

theorem shapeText_eq {message : Message} {carrier : Int} {shape : Shape}
    (h : shape.Intact message carrier) : shapeText shape =
      optional (fun e : Extent => [extentLine (some e)]) (extent? shape) ++
        optional slicesText (slices? shape) := by
  cases shape with
  | plain => rfl
  | array extent =>
    obtain ⟨e, rfl⟩ := Option.isSome_iff_exists.mp h.1
    rfl
  | packed extent slices => cases extent <;> rfl
  | unknown kind => rfl

/-- An intact shape shows no more than its extent and its slices. -/
theorem shape_outline_eq {message message' : Message} {carrier carrier' : Int}
    {s t : Shape} (hs : s.Intact message carrier) (ht : t.Intact message' carrier')
    (hextent : extent? s = extent? t)
    (hslices : (slices? s).map (List.map Slice.outline) = (slices? t).map (List.map Slice.outline)) :
    s.outline = t.outline := by
  cases s <;> cases t <;> simp_all [extent?, slices?, Shape.outline, Shape.Intact]
  -- an array has an extent, so it cannot show the same as a plain field
  subst hextent
  exact absurd ht.1 (by decide)

theorem extentText_inj {e f : Extent} (he : Extent.IsArraySize (some e))
    (hf : Extent.IsArraySize (some f)) (h : extentText (some e) = extentText (some f)) :
    e = f := by
  -- decimal text does not start with a quote
  have hapart : ∀ (n : Int) (s : String), decimal n ≠ Text.quoted s := by
    intro n s heq
    have hquote : quoteFor s.toList ∈ (decimal n).toList := by
      rw [heq, Text.quoted, String.toList_ofList]
      exact List.mem_cons_self ..
    rcases isQuote_quoteFor s.toList with hq | hq <;> rw [hq] at hquote <;>
      exact notMem_decimal (by decide) (by decide) n hquote
  have hcases : ∀ {e : Extent}, Extent.IsArraySize (some e) →
      (∃ n, e = .count n) ∨ e = Extent.remaining := by
    intro e he
    cases e with
    | count n => exact .inl ⟨n, rfl⟩
    | symbol s => exact .inr he
    | truth b => cases he
    | real x => cases he
    | other w => cases he
  obtain ⟨m, rfl⟩ | rfl := hcases he <;> obtain ⟨n, rfl⟩ | rfl := hcases hf
  · rw [decimal_inj h]
  · exact absurd h (hapart m _)
  · exact absurd h.symm (hapart n _)
  · rfl

theorem isArraySize_of_intact {message : Message} {carrier : Int} {shape : Shape}
    (h : shape.Intact message carrier) : ∀ e ∈ extent? shape, Extent.IsArraySize (some e) := by
  intro e he
  cases shape with
  | plain => cases he
  | array extent =>
    obtain rfl := he
    exact h.2
  | packed extent slices =>
    obtain rfl := he
    exact h.1
  | unknown kind => cases he

theorem readable_slices : Readable (fun _ => True) slicesText (List.map Slice.outline) := by
  refine .of_block outer_foot ?_
  intro a b _ _ _ hbody
  exact readable_slice.flatMap (fun _ _ => trivial) (fun _ _ => trivial) hbody

theorem readable_extent : Readable (fun e => Extent.IsArraySize (some e))
    (fun e => [extentLine (some e)]) id :=
  .of_line fun he hf heq => extentText_inj he hf (keyword_inj heq)

/-- The tags of the lines of a field behind its number. -/
def fieldTags : List String := scalingTags ++ shapeTags

theorem off_slicesText {tags : List String} (htags : ∀ t ∈ tags, Outer t)
    (hhead : "components".toList ∉ tags.map String.toList)
    (hfoot : [')', ','] ∉ tags.map String.toList) (slices : Option (List Slice)) :
    Off tags (optional slicesText slices) := by
  cases slices with
  | none => exact .nil
  | some slices =>
    have hopen : tag "components=(" = "components".toList := by decide
    have hclose : tag ")," = [')', ','] := by decide
    exact .block _ htags (hopen ▸ hhead) (hclose ▸ hfoot)

/-- Shape lines end in front of lines with other tags. -/
theorem shapeText_append_inj {message message' : Message} {carrier carrier' : Int} {s t : Shape}
    (hs : s.Intact message carrier) (ht : t.Intact message' carrier') {rest more : List String}
    (hrest : Off shapeTags rest) (hmore : Off shapeTags more)
    (h : shapeText s ++ rest = shapeText t ++ more) : s.outline = t.outline ∧ rest = more := by
  rw [shapeText_eq hs, shapeText_eq ht, List.append_assoc, List.append_assoc] at h
  have htag : ∀ slices : List Slice,
      (slicesText slices).head?.map tag = some "components".toList := by
    intro slices
    have hopen : tag "components=(" = "components".toList := by decide
    exact congrArg some hopen
  have hslices : ∀ {lines : List String} (slices : Option (List Slice)), Off shapeTags lines →
      Off ["array"] (optional slicesText slices ++ lines) := fun slices hlines =>
    (off_slicesText (by decide) (by decide) (by decide) slices).append (hlines.mono (by decide))
  obtain ⟨hextent, h⟩ := optional_append_inj readable_extent (head_tag_keyword (by decide))
    (isArraySize_of_intact hs) (isArraySize_of_intact ht) (hslices _ hrest) (hslices _ hmore) h
  obtain ⟨hview, h⟩ := optional_append_inj readable_slices htag (fun _ _ => trivial)
    (fun _ _ => trivial) (hrest.mono (by decide)) (hmore.mono (by decide)) h
  rw [Option.map_id, id_eq, id_eq] at hextent
  exact ⟨shape_outline_eq hs ht hextent hview, h⟩

/-- The identifiers of the base types have two digits, and no two types share one. -/
theorem identifierDigits_append_inj {b c : BaseType} {rest more : String}
    (h : b.identifierDigits 2 ++ rest = c.identifierDigits 2 ++ more) : b = c := by
  have hlength : ∀ b ∈ BaseType.all, (b.identifierDigits 2).toList.length = 2 := by decide
  have hdistinct : (BaseType.all.map fun b => b.identifierDigits 2).Nodup := by decide
  have hchars := congrArg String.toList h
  rw [String.toList_append, String.toList_append] at hchars
  have hdigits := List.append_inj_left hchars (by rw [hlength b b.mem_all, hlength c c.mem_all])
  exact List.inj_on_of_nodup_map hdistinct b.mem_all c.mem_all (String.toList_inj.mp hdigits)

theorem baseLine_inj {name : String} {b c : BaseType}
    (h : keyword name (baseExpression b) b.name = keyword name (baseExpression c) c.name) :
    b = c := by
  simp only [keyword, baseExpression, String.append_assoc, String.append_right_inj] at h
  exact identifierDigits_append_inj h

/-- The line of a type determines what the type is referred to by. -/
theorem typeLine_inj {model model' : Model} {s t : FieldType} (hs : s.BelongsTo model)
    (ht : t.BelongsTo model') (h : typeLine s = typeLine t) : s.outline = t.outline := by
  have hline : ∀ d, typeLine (.declared d) =
      "type" ++ "=" ++ ("FIELD_TYPES[" ++ Text.quoted d.name ++ "]") ++ "," :=
    fun d => keyword_eq _ _
  -- the two dictionaries have names of different first letters
  have hdeclared : ∀ d, (typeLine (.declared d)).toList.take 6 = "type=F".toList := by
    intro d
    rw [hline]
    simp only [String.toList_append, List.append_assoc]
    rfl
  have hbase : ∀ b, (typeLine (.base b)).toList.take 6 = "type=B".toList := by
    intro b
    cases b <;> decide
  have hapart : ∀ b d, typeLine (.base b) ≠ typeLine (.declared d) := by
    intro b d heq
    have := hbase b
    rw [heq, hdeclared] at this
    exact absurd this (by decide)
  cases s with
  | base b =>
    cases t with
    | base c =>
      have := baseLine_inj h
      rw [this]
    | declared d => exact absurd h (hapart b d)
    | foreign name => exact absurd ht id
    | invalid value => exact absurd ht id
  | declared d =>
    cases t with
    | base c => exact absurd h.symm (hapart c d)
    | declared e =>
      rw [hline, hline, String.append_left_inj, String.append_right_inj, String.append_left_inj,
        String.append_right_inj] at h
      have hquoted : Text.quoted d.name ++ "" = Text.quoted e.name ++ "" := by rw [h]
      exact congrArg Sum.inr (quoted_append_inj hquoted).1
    | foreign name => exact absurd ht id
    | invalid value => exact absurd ht id
  | foreign name => exact absurd hs id
  | invalid value => exact absurd hs id

/-- The lines of a field end in front of lines with other tags. -/
theorem singleText_append_inj {model model' : Model} {message message' : Message}
    {f g : SingleField} (hf : f.Intact model message) (hg : g.Intact model' message')
    {rest more : List String} (hrest : Off fieldTags rest) (hmore : Off fieldTags more)
    (h : singleText f ++ rest = singleText g ++ more) : f.outline = g.outline ∧ rest = more := by
  simp only [singleText, List.append_assoc, List.cons_append, List.nil_append,
    List.cons.injEq] at h
  obtain ⟨hname, htype, hnumber, h⟩ := h
  have hoff : ∀ {model : Model} {message : Message} {field : SingleField} {lines : List String},
      field.Intact model message → Off fieldTags lines →
      Off scalingTags (shapeText field.shape ++ lines) := by
    intro model message field lines hfield hlines
    rw [shapeText_eq hfield.shape]
    exact ((off_optional_keyword (by decide) (by decide) _).append
      (off_slicesText (by decide) (by decide) (by decide) _)).append (hlines.mono (by decide))
  obtain ⟨hscaling, h⟩ := scalingLines_append_inj (hoff hf hrest) (hoff hg hmore) h
  obtain ⟨hshape, h⟩ := shapeText_append_inj hf.shape hg.shape (hrest.mono (by decide))
    (hmore.mono (by decide)) h
  refine ⟨?_, h⟩
  rw [SingleField.outline, SingleField.outline, keyword_decimal_inj hnumber,
    keyword_quoted_inj hname, typeLine_inj hf.type hg.type htype, hscaling, hshape]

/-! ## Variants and their conditions -/

/-- The entry of a selection. -/
def selectionEntry (s : Selection) : List String :=
  block "ReferenceField("
    [keyword "name" (Text.quoted s.name) "", keyword "def_num" (decimal s.number) "",
     keyword "value" (Text.quoted s.text) "", keyword "raw_value" (decimal s.value) ""]
    "),"

/-- The conditions are written selection by selection. -/
theorem conditionEntries_eq (conditions : List Condition) :
    conditionEntries conditions = (Condition.flatten conditions).flatMap selectionEntry := by
  simp only [conditionEntries, Condition.flatten, Condition.selections, List.flatMap_assoc,
    List.flatMap_map]
  rfl

theorem readable_selection : Readable (fun _ => True) selectionEntry id := by
  refine .of_block outer_foot ?_
  rintro ⟨name, number, text, value⟩ ⟨name', number', text', value'⟩ _ _ _ hbody
  simp only [List.cons.injEq, and_true] at hbody
  obtain ⟨hname, hnumber, htext, hvalue⟩ := hbody
  rw [keyword_quoted_inj hname, keyword_decimal_inj hnumber, keyword_quoted_inj htext,
    keyword_decimal_inj hvalue]

/-- The flat list of references determines the conditions that they were grouped into. -/
theorem readable_conditions : Readable Condition.Grouped conditionsText id := by
  refine .of_block outer_foot ?_
  intro a b ha hb _ hbody
  rw [conditionEntries_eq, conditionEntries_eq] at hbody
  have hflat := readable_selection.flatMap (fun _ _ => trivial) (fun _ _ => trivial) hbody
  rw [List.map_id, List.map_id] at hflat
  exact Condition.flatten_inj ha hb hflat

theorem off_conditionsText (conditions : List Condition) :
    Off fieldTags (conditionsText conditions) :=
  .block _ (by decide) (by decide) (by decide)

theorem readable_variant : Readable (fun v => ∃ model message, VariantIntact model message v)
    variantText (fun v => (v.1.lead.outline, v.2)) := by
  refine .of_block outer_foot ?_
  rintro ⟨_, conditions⟩ ⟨_, conditions'⟩ ⟨model, message, f, rfl, hf, hconditions⟩
    ⟨model', message', g, rfl, hg, hconditions'⟩ _ hbody
  obtain ⟨hsingle, hrest⟩ := singleText_append_inj hf hg (off_conditionsText _)
    (off_conditionsText _) hbody
  have hview := readable_conditions.inj hconditions.grouped hconditions'.grouped hrest
  exact Prod.ext hsingle hview

/-! ## Fields, messages and types -/

/-- The default of a field, or the field itself. -/
def standard : Field → SingleField
  | .single field => field
  | .dynamic standard _ => standard.lead

/-- The variants of a dynamic field. -/
def variants? : Field → Option (List (Field × List Condition))
  | .single _ => none
  | .dynamic _ variants => some variants

theorem fieldText_eq (field : Field) :
    fieldText field = singleText (standard field) ++ optional variantsText (variants? field) := by
  cases field with
  | single field => exact (List.append_nil _).symm
  | dynamic standard variants => rfl

theorem field_outline_eq {f g : Field} (hstandard : (standard f).outline = (standard g).outline)
    (hvariants : (variants? f).map (List.map fun v => (v.1.lead.outline, v.2)) =
      (variants? g).map (List.map fun v => (v.1.lead.outline, v.2))) : f.outline = g.outline := by
  cases f <;> cases g <;> simp_all [standard, variants?, Field.outline]

theorem readable_variants :
    Readable (fun vs => ∀ v ∈ vs, ∃ model message, VariantIntact model message v) variantsText
      (List.map fun v => (v.1.lead.outline, v.2)) := by
  refine .of_block outer_foot ?_
  intro a b ha hb _ hbody
  exact readable_variant.flatMap ha hb hbody

theorem off_variantsText (variants : Option (List (Field × List Condition))) :
    Off fieldTags (optional variantsText variants) := by
  cases variants with
  | none => exact .nil
  | some variants => exact .block _ (by decide) (by decide) (by decide)

theorem intact_standard {model : Model} {message : Message} {field : Field}
    (h : field.Intact model message) : (standard field).Intact model message := by
  cases h with
  | single hsingle => exact hsingle
  | dynamic hstandard _ _ => exact hstandard

theorem intact_variants {model : Model} {message : Message} {field : Field}
    (h : field.Intact model message) :
    ∀ vs ∈ variants? field, ∀ v ∈ vs, ∃ model message, VariantIntact model message v := by
  intro vs hvs v hv
  cases h with
  | single => cases hvs
  | dynamic _ _ hvariants =>
    obtain rfl := Option.some.inj hvs
    obtain ⟨f, heq, -, hf, hconditions⟩ := hvariants v hv
    exact ⟨model, message, f, heq, hf, hconditions⟩

theorem readable_field :
    Readable (fun f => ∃ model message, Field.Intact model message f) fieldBlock Field.outline := by
  refine .of_block outer_foot ?_
  rintro f g ⟨model, message, hf⟩ ⟨model', message', hg⟩ _ hbody
  rw [fieldText_eq, fieldText_eq] at hbody
  obtain ⟨hstandard, hrest⟩ := singleText_append_inj (intact_standard hf) (intact_standard hg)
    (off_variantsText _) (off_variantsText _) hbody
  have hlist : optional variantsText (variants? f) ++ [] =
      optional variantsText (variants? g) ++ [] := by rw [hrest]
  have htag : ∀ vs, (variantsText vs).head?.map tag = some "subfields".toList := by
    intro vs
    have hopen : tag "subfields=(" = "subfields".toList := by decide
    exact congrArg some hopen
  obtain ⟨hvariants, -⟩ := optional_append_inj readable_variants htag (intact_variants hf)
    (intact_variants hg) .nil .nil hlist
  exact field_outline_eq hstandard hvariants

theorem readable_message : Readable (fun m => ∃ model, Message.Intact model m) messageBlock
    Message.outline := by
  refine .of_block outer_foot ?_
  rintro a b ⟨model, ha⟩ ⟨model', hb⟩ _ hbody
  simp only [List.cons_append, List.nil_append, List.cons.injEq] at hbody
  obtain ⟨hname, hnumber, hrest⟩ := hbody
  obtain ⟨-, hfields⟩ := block_inj (by decide) hrest
  have houtlines := readable_field.flatMap (fun f hf => ⟨model, a, ha.fields f hf⟩)
    (fun f hf => ⟨model', b, hb.fields f hf⟩) hfields
  rw [Message.outline, Message.outline, keyword_quoted_inj hname, keyword_decimal_inj hnumber,
    houtlines]

theorem valueLine_inj {v w : TypeValue} (h : valueLine v = valueLine w) :
    (v.name, v.value) = (w.name, w.value) := by
  have hline : ∀ v : TypeValue, ∃ rest,
      valueLine v = decimal v.value ++ ": " ++ (Text.quoted v.name ++ rest) :=
    fun v => ⟨_, String.append_assoc.trans String.append_assoc⟩
  obtain ⟨rest, hv⟩ := hline v
  obtain ⟨more, hw⟩ := hline w
  rw [hv, hw] at h
  have hmark : ": ".toList = ':' :: [' '] := by decide
  obtain ⟨hvalue, hname⟩ := append_mark_inj hmark (notMem_decimal (by decide) (by decide) _)
    (notMem_decimal (by decide) (by decide) _) h
  rw [decimal_inj hvalue, (quoted_append_inj hname).1]

theorem readable_values : Readable (fun _ => True)
    (fun vs => block "values=\x7b" (vs.map valueLine) "\x7d,")
    (List.map fun v => (v.name, v.value)) := by
  refine .of_block (by decide) ?_
  intro a b _ _ _ hbody
  have hvalue : Readable (fun _ => True) (fun v => [valueLine v])
      (fun v : TypeValue => (v.name, v.value)) := .of_line fun _ _ heq => valueLine_inj heq
  rw [List.map_eq_flatMap, List.map_eq_flatMap] at hbody
  exact hvalue.flatMap (fun _ _ => trivial) (fun _ _ => trivial) hbody

theorem readable_type : Readable (fun _ => True) typeEntry TypeDef.outline := by
  refine .of_block outer_foot ?_
  intro a b _ _ _ hbody
  simp only [List.cons_append, List.nil_append, List.cons.injEq] at hbody
  obtain ⟨hname, hbase, hvalues⟩ := hbody
  have houtline : a.values.map (fun v => (v.name, v.value)) =
      b.values.map (fun v => (v.name, v.value)) := by
    cases ha : a.values with
    | nil =>
      cases hb : b.values with
      | nil => rfl
      | cons w ws =>
        rw [ha, hb] at hvalues
        cases hvalues
    | cons v vs =>
      cases hb : b.values with
      | nil =>
        rw [ha, hb] at hvalues
        cases hvalues
      | cons w ws =>
        rw [ha, hb] at hvalues
        exact readable_values.inj trivial trivial hvalues
  rw [TypeDef.outline, TypeDef.outline, keyword_quoted_inj hname, baseLine_inj hbase, houtline]

/-! ## Modules -/

/-- The head of a module names the release. -/
theorem header_append_inj {m : Module} {v w : Version} {rest more : List String}
    (h : header m v none ++ rest = header m w none ++ more) : v = w ∧ rest = more := by
  simp only [header, List.append_assoc, List.append_cancel_left_eq, List.cons_append,
    List.nil_append, List.cons.injEq, true_and, String.append_left_inj,
    String.append_right_inj] at h
  exact ⟨version_inj h.1, h.2⟩

/-- The modules of the types and of the messages determine the outline of an intact model. -/
theorem outline_of_text {model other : Model} (hm : model.Intact) (ho : other.Intact)
    (htypes : text (typesLines model none) = text (typesLines other none))
    (hmessages : text (messagesText model none) = text (messagesText other none)) :
    model.outline = other.outline := by
  have hnewline : ∀ model : Model, ∀ line ∈ typesLines model none, '\n' ∉ line.toList := by
    intro model
    have hlines : Lines [] (typesLines model none) := lines_types model none
    exact hlines.newline_notMem
  have htypeLines := text_inj (hnewline model) (hnewline other) htypes
  have hmessageLines := text_inj (lines_messages hm none).newline_notMem
    (lines_messages ho none).newline_notMem hmessages
  -- both modules have a head, the same imports and one block
  simp only [typesLines, List.append_assoc] at htypeLines
  obtain ⟨hversion, htypeLines⟩ := header_append_inj htypeLines
  obtain ⟨-, htypeEntries⟩ := block_inj (by decide) (List.append_cancel_left htypeLines)
  have htypesEq := readable_type.flatMap (fun _ _ => trivial) (fun _ _ => trivial) htypeEntries
  simp only [messagesText, List.append_assoc] at hmessageLines
  obtain ⟨-, hmessageLines⟩ := header_append_inj hmessageLines
  obtain ⟨-, hmessageEntries⟩ := block_inj (by decide) (List.append_cancel_left hmessageLines)
  have hmessagesEq := readable_message.flatMap (fun m hmem => ⟨model, hm.messages m hmem⟩)
    (fun m hmem => ⟨other, ho.messages m hmem⟩) hmessageEntries
  rw [Model.outline, Model.outline, hversion, htypesEq, hmessagesEq]

end Source

/-! ## Rendered models -/

namespace Model

/-- The outlines of two models decide which of their message numbers have no message, where
the same type numbers the messages. -/
theorem unmatched_of_outline {rules others : RuleSet} {types types' : List TypeDef}
    {messages messages' : List Message} {numbers numbers' : TypeDef}
    (hrules : rules.messageNumberType = others.messageNumberType)
    (hnumbers : messageNumberType rules types = .ok numbers)
    (hnumbers' : messageNumberType others types' = .ok numbers')
    (htypes : types.map TypeDef.outline = types'.map TypeDef.outline)
    (hmessages : messages.map Message.outline = messages'.map Message.outline) :
    unmatchedNames numbers messages = unmatchedNames numbers' messages' := by
  have hfound : ∀ {rules : RuleSet} {types : List TypeDef} {numbers : TypeDef},
      messageNumberType rules types = .ok numbers →
      rules.messageNumberType.bind (fun name =>
        (types.map TypeDef.outline).find? fun t => t.name == name) = some numbers.outline := by
    intro rules types numbers h
    unfold messageNumberType at h
    split at h
    next type htype =>
      cases h
      obtain ⟨name, hname, hfind⟩ := Option.bind_eq_some_iff.mp htype
      rw [hname, Option.bind_some, List.find?_map]
      exact congrArg (Option.map TypeDef.outline) hfind
    next => cases h
  have houtline : numbers.outline = numbers'.outline := by
    have hfirst := hfound hnumbers
    rw [hrules, htypes, hfound hnumbers'] at hfirst
    exact (Option.some.inj hfirst).symm
  have hnames : numbers.values.map TypeValue.name = numbers'.values.map TypeValue.name := by
    have := congrArg (fun o => o.values.map Prod.fst) houtline
    simpa [TypeDef.outline, Function.comp_def] using this
  have hmessageNames : messages.map Message.name = messages'.map Message.name := by
    have := congrArg (List.map MessageOutline.name) hmessages
    simpa [Message.outline, Function.comp_def] using this
  unfold unmatchedNames
  rw [hnames, hmessageNames]

/-- Linked models of one outline have the same numbers without a message, where the same type
numbers the messages. -/
theorem LinkedFrom.unmatched_eq {rules rules' : RuleSet} {version version' : Version}
    {book book' : Workbook} {model model' : Model} (hmodel : model.LinkedFrom rules version book)
    (hmodel' : model'.LinkedFrom rules' version' book')
    (hrules : rules.messageNumberType = rules'.messageNumberType)
    (houtline : model.outline = model'.outline) : model.unmatched = model'.unmatched := by
  obtain ⟨draft, -, hlinked⟩ := hmodel
  obtain ⟨draft', -, hlinked'⟩ := hmodel'
  obtain ⟨-, -, numbers, -, hnumbers, -, -, -, -, hunmatched⟩ := ofDraft_eq_ok hlinked
  obtain ⟨-, -, numbers', -, hnumbers', -, -, -, -, hunmatched'⟩ := ofDraft_eq_ok hlinked'
  rw [hunmatched, hunmatched']
  exact unmatched_of_outline hrules hnumbers hnumbers' (congrArg ModelOutline.types houtline)
    (congrArg ModelOutline.messages houtline)

/-- Rendering loses nothing but comments and row numbers: where two models that are linked
from workbooks have the same modules of types and messages, they have the same release,
types and messages, and, if the same type numbers the messages, the same numbers without a
message. -/
theorem outline_of_render (rules rules' : RuleSet) (version version' : Version)
    (book book' : Workbook) (model model' : Model) (profile profile' : Profile)
    (hmodel : model.LinkedFrom rules version book)
    (hmodel' : model'.LinkedFrom rules' version' book')
    (hrender : model.render none = .ok profile) (hrender' : model'.render none = .ok profile')
    (htypes : profile.types = profile'.types) (hmessages : profile.messages = profile'.messages) :
    model.outline = model'.outline ∧
      (rules.messageNumberType = rules'.messageNumberType →
        model.unmatched = model'.unmatched) := by
  rw [(Source.renders_render hmodel.intact none).eq_of_ok hrender,
    (Source.renders_render hmodel'.intact none).eq_of_ok hrender'] at htypes hmessages
  simp only [Source.profileOf] at htypes hmessages
  have houtline := Source.outline_of_text hmodel.intact hmodel'.intact htypes hmessages
  exact ⟨houtline, fun hrules => hmodel.unmatched_eq hmodel' hrules houtline⟩

/-- The event workbook with remarks: a comment on a type, another one on a field, and a row
between two fields. -/
def commentedEventBook : Workbook where
  sheets :=
    [("Version", [["21.0"]]),
     ("Types",
      [["Type Name", "Base Type", "Value Name", "Value", "Comment"],
       ["mesg_num", "uint16", "", "", "numbers of messages"], ["", "", "event", "21"],
       ["event", "enum"], ["", "", "timer", "0"], ["", "", "workout", "3"]]),
     ("Messages",
      [["Message Name", "Field Def #", "Field Name", "Field Type", "Array", "Components", "Scale",
        "Offset", "Units", "Bits", "Accumulate", "Ref Field Name", "Ref Field Value", "Comment"],
       ["event"],
       ["", "3", "data", "uint32"],
       ["", "", "timer_trigger", "uint16", "", "", "", "", "", "", "", "event,event", "timer,0x05"],
       ["", "0", "event", "event", "", "", "", "", "", "", "", "", "", "what happened"],
       ["", "", "", "", "", "", "", "", "", "", "", "", "", "shorter data"],
       ["", "2", "data16", "uint16", "", "data", "", "", "", "16"]])]

/-- The two event workbooks are rendered to the same modules, so they have one outline. -/
theorem commentedEventBook_outline : ∃ (model model' : Model) (profile profile' : Profile),
    model.LinkedFrom .sdk20 ⟨21, 0⟩ eventBook ∧
      model'.LinkedFrom .sdk20 ⟨21, 0⟩ commentedEventBook ∧
      model.render none = .ok profile ∧ model'.render none = .ok profile' ∧
      profile.types = profile'.types ∧ profile.messages = profile'.messages ∧
      model.outline = model'.outline ∧ model.unmatched = model'.unmatched := by
  have hrendered : ∃ (model model' : Model) (profile profile' : Profile),
      model.LinkedFrom .sdk20 ⟨21, 0⟩ eventBook ∧
        model'.LinkedFrom .sdk20 ⟨21, 0⟩ commentedEventBook ∧
        model.render none = .ok profile ∧ model'.render none = .ok profile' ∧
        profile.types = profile'.types ∧ profile.messages = profile'.messages :=
    ⟨_, _, _, _, ⟨_, rfl, rfl⟩, ⟨_, rfl, rfl⟩, rfl, rfl, rfl, rfl⟩
  obtain ⟨model, model', profile, profile', hmodel, hmodel', hrender, hrender', htypes,
    hmessages⟩ := hrendered
  obtain ⟨houtline, hunmatched⟩ := outline_of_render .sdk20 .sdk20 ⟨21, 0⟩ ⟨21, 0⟩ eventBook
    commentedEventBook model model' profile profile' hmodel hmodel' hrender hrender' htypes
    hmessages
  exact ⟨model, model', profile, profile', hmodel, hmodel', hrender, hrender', htypes, hmessages,
    houtline, hunmatched rfl⟩

end Model

end FitProfile
