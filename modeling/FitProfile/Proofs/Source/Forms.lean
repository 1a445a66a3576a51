import FitProfile.Proofs.Source.Rendering
/-!
# FitProfile.Proofs.Source.Forms -- the form of all generated lines

Every line of the three modules has the form `Line`: whatever the cells of the workbook
hold stands between quotes or in a remark. The names that are looked up are those of the
model's types.
-/

namespace FitProfile.Source

open FitProfile.Number FitProfile.Text

variable {keys : List String}

/-! ## Remarks and base types -/

/-- A text that starts with a hash sign is a remark as a whole. -/
theorem isRemark_of_hash {s : String} (hs : s.toList.head? = some '#') (h : '\n' ∉ s.toList) :
    IsRemark s := by
  cases hchars : s.toList with
  | nil =>
    rw [hchars] at hs
    cases hs
  | cons c cs =>
    rw [hchars] at hs h
    obtain rfl := Option.some.inj hs
    rw [List.mem_cons, not_or] at h
    refine .inr ⟨String.ofList cs, ?_, ?_⟩
    · have hcs : (String.ofList cs).toList = cs := String.toList_ofList
      rw [← String.toList_inj, String.toList_append, hcs, hchars]
      rfl
    · rw [String.toList_ofList]
      exact h.2

theorem line_of_isRemark {s : String} (h : IsRemark s) : Line keys s := by
  have hempty : Fragment "" := .plain (by decide)
  have hline : Line keys ("" ++ s) := .fragment hempty h
  rwa [String.empty_append] at hline

/-- A remark behind a line, two spaces away from it. -/
theorem line_withRemark {s comment : String} (hs : Fragment s) (h : '\n' ∉ comment.toList) :
    Line keys (s ++ ("  # " ++ comment)) := by
  have hmark : "  # " = "  " ++ ("#" ++ " ") := by decide
  have hsplit : s ++ ("  # " ++ comment) = s ++ "  " ++ ("#" ++ (" " ++ comment)) := by
    rw [hmark]
    simp only [String.append_assoc]
  rw [hsplit]
  have hspaces : Fragment "  " := .plain (by decide)
  exact .fragment (hs.append hspaces) (.inr ⟨_, rfl, newline_notMem_append (by decide) h⟩)

theorem baseExpression_eq (b : BaseType) :
    baseExpression b = "BASE_TYPES[" ++ ("0x" ++ b.identifierDigits 2 ++ "]") := by
  cases b <;> decide

theorem plain_identifier (b : BaseType) : Plain ("0x" ++ b.identifierDigits 2 ++ "]") := by
  cases b <;> decide

theorem plain_baseName (b : BaseType) : Plain b.name := by
  cases b <;> decide

/-- The line of a keyword argument that is a base type, with the name behind it. -/
theorem line_baseKeyword {name : String} (hname : Plain name) (b : BaseType) :
    Line keys (keyword name (baseExpression b) b.name) := by
  have hremark : remark b.name = "  " ++ ("#" ++ (" " ++ b.name)) := by
    cases b <;> decide
  have hsplit : keyword name (baseExpression b) b.name =
      name ++ "=" ++ "BASE_TYPES[" ++ ("0x" ++ b.identifierDigits 2 ++ "]" ++ "," ++ "  ") ++
        ("#" ++ (" " ++ b.name)) := by
    rw [keyword, baseExpression_eq, hremark]
    simp only [String.append_assoc]
  rw [hsplit]
  have hhead : Plain (name ++ "=") := hname.append (by decide)
  have htail : Plain ("0x" ++ b.identifierDigits 2 ++ "]" ++ "," ++ "  ") :=
    ((plain_identifier b).append (by decide)).append (by decide)
  refine .base (.plain hhead) (.plain htail) (.inr ⟨_, rfl, ?_⟩)
  exact newline_notMem_append (by decide) (newline_notMem_plain (plain_baseName b))

/-! ## The head of a module -/

theorem line_empty : Line keys "" := .of_plain (by decide)

theorem notMem_rule {c : Char} (h : c ≠ '#') (n : Nat) :
    c ∉ (String.ofList (List.replicate n '#')).toList := by
  rw [String.toList_ofList]
  intro hmem
  exact h (List.mem_replicate.mp hmem).2

theorem notMem_bannerLine {c : Char} {title : String} (hrule : c ≠ '#') (hspace : c ≠ ' ')
    (h : c ∉ title.toList) : c ∉ (bannerLine title).toList := by
  have hspaces : c ∉ "   ".toList := by
    intro hmem
    simp [hspace] at hmem
  simp only [bannerLine, String.toList_append, List.mem_append, not_or]
  exact ⟨⟨notMem_rule hrule _, ⟨hspaces, h⟩, hspaces⟩, notMem_rule hrule _⟩

theorem isRemark_banner : ∀ line ∈ banner, IsRemark line := by
  have hrule : IsRemark (String.ofList (List.replicate bannerWidth '#')) := by
    refine isRemark_of_hash ?_ (notMem_rule (by decide) _)
    rw [String.toList_ofList]
    rfl
  have htitle : IsRemark (bannerLine "AUTOMATICALLY GENERATED DEFINITION FILE") := by
    refine isRemark_of_hash ?_ (notMem_bannerLine (by decide) (by decide) (by decide))
    rw [bannerLine, String.toList_append, String.toList_append, String.toList_ofList]
    rfl
  simp only [banner, List.forall_mem_cons]
  exact ⟨hrule, htitle, hrule, by simp⟩

/-- The head of a module is made of remarks. -/
theorem isRemark_header (m : Module) (version : Version) (moment : Option Moment) :
    ∀ line ∈ header m version moment, IsRemark line := by
  have hash : IsRemark "#" := isRemark_of_hash (by decide) (by decide)
  have htitle : IsRemark ("# " ++ m.fileName ++ " -- " ++ m.title) := by
    refine isRemark_of_hash ?_ ?_ <;> cases m <;> decide
  have hrelease : IsRemark ("# Exported from FIT SDK " ++ version.text ++ " Profile") := by
    have hversion := newline_notMem_plain (plain_version version)
    refine isRemark_of_hash ?_ (newline_notMem_append (newline_notMem_append (by decide) hversion)
      (by decide))
    rw [String.toList_append, String.toList_append]
    rfl
  have hmoment : ∀ t : Moment, IsRemark ("# Created on " ++ t.stamp ++ " by fitgen") := by
    intro t
    have hstamp := newline_notMem_plain (plain_stamp t)
    refine isRemark_of_hash ?_ (newline_notMem_append (newline_notMem_append (by decide) hstamp)
      (by decide))
    rw [String.toList_append, String.toList_append]
    rfl
  simp only [header, List.forall_mem_append, List.forall_mem_cons]
  refine ⟨⟨⟨isRemark_banner, hash, htitle, hrelease, by simp⟩, ?_⟩, hash, .inl rfl, by simp⟩
  cases moment with
  | none => simp
  | some t => simpa using hmoment t

theorem lines_header (m : Module) (version : Version) (moment : Option Moment) :
    Lines keys (header m version moment) :=
  fun line hmem => line_of_isRemark (isRemark_header m version moment line hmem)

/-! ## The types module -/

theorem line_value (v : TypeValue) : Line keys (valueLine v) := by
  have hnumber : Fragment (decimal v.value ++ ": ") := .plain ((plain_decimal _).append (by decide))
  have hvalue : Fragment (decimal v.value ++ ": " ++ Text.quoted v.name ++ ",") :=
    (hnumber.append (.quoted _)).append_plain (by decide)
  unfold valueLine
  split
  next comment _ =>
    split
    · exact .fragment hvalue (.inl rfl)
    · exact line_withRemark hvalue (newline_notMem_collapse comment)
  next => exact .fragment hvalue (.inl rfl)

theorem lines_typeEntry (t : TypeDef) : Lines keys (typeEntry t) := by
  have hfoot : Line keys ")," := .of_plain (by decide)
  have hhead : Line keys (Text.quoted t.name ++ ": FieldType(") :=
    .of_fragment ((Fragment.quoted _).append_plain (by decide))
  have hvalues : Lines keys (if t.values.isEmpty then []
      else block "values=\x7b" (t.values.map valueLine) "\x7d,") := by
    split
    · exact .nil
    · exact .block_plain (by decide) (.map fun v _ => line_value v)
  refine .block hhead (.append (.cons ?_ (.cons ?_ .nil)) hvalues) hfoot
  · exact line_quotedKeyword (by decide) _
  · exact line_baseKeyword (by decide) t.base

theorem lines_types (model : Model) (moment : Option Moment) :
    Lines keys (typesLines model moment) := by
  refine .append (.append (lines_header _ _ _) (.of_plain (by decide))) ?_
  exact .block_plain (by decide) (.flatMap fun t _ => lines_typeEntry t)

/-! ## The messages module -/

/-- The lines of a scaling are one line for each part that it has. -/
theorem scalingLines_induction {P : List String → Prop} (hnil : P [])
    (happend : ∀ lines others, P lines → P others → P (lines ++ others))
    (hscale : ∀ q : Quantity, P [keyword "scale" q.text ""])
    (hoffset : ∀ q : Quantity, P [keyword "offset" q.text ""])
    (hunits : ∀ u, P [keyword "units" (Text.quoted u) ""])
    (haccumulate : P [keyword "accumulate" "True" ""]) (s : Scaling) : P (scalingLines s) := by
  have hoption : ∀ {α : Type} {o : Option α} {f : α → String}, (∀ a, P [f a]) →
      P (o.map f).toList := by
    intro α o f hf
    cases o with
    | none => exact hnil
    | some a => exact hf a
  refine happend _ _ (happend _ _ (happend _ _ (hoption hscale) (hoption hoffset))
    (hoption hunits)) ?_
  split
  · exact haccumulate
  · exact hnil

theorem lines_scaling (s : Scaling) : Lines keys (scalingLines s) := by
  have hquantity : ∀ {name : String} (q : Quantity), Plain name →
      Lines keys [keyword name q.text ""] := fun q hname =>
    .cons (line_keyword hname (.plain (plain_quantity q))) .nil
  refine scalingLines_induction .nil (fun _ _ hl ho => hl.append ho) (fun q => ?_) (fun q => ?_)
    (fun u => ?_) ?_ s
  · exact hquantity q (by decide)
  · exact hquantity q (by decide)
  · exact .cons (line_quotedKeyword (by decide) u) .nil
  · exact .cons (line_keyword (by decide) (.plain (by decide))) .nil

theorem line_extent {extent : Option Extent} (h : Extent.IsArraySize extent) :
    Line keys (extentLine extent) := by
  refine line_keyword (by decide) ?_
  match extent, h with
  | none, _ => exact .plain (by decide)
  | some (.count n), _ => exact .plain (plain_decimal n)
  | some (.symbol s), _ => exact .quoted s

theorem lines_slice (s : Slice) : Lines keys (sliceEntry s) := by
  refine .block_plain (by decide) (.append (.append ?_ (lines_scaling s.scaling)) ?_)
  · exact .cons (line_quotedKeyword (by decide) _) (.cons (line_decimalKeyword (by decide) _) .nil)
  · exact .cons (line_decimalKeyword (by decide) _) (.cons (line_decimalKeyword (by decide) _) .nil)

theorem lines_shape {message : Message} {carrier : Int} {shape : Shape}
    (h : shape.Intact message carrier) : Lines keys (shapeText shape) := by
  cases shape with
  | plain => exact .nil
  | array extent => exact .cons (line_extent h.2) .nil
  | packed extent slices =>
    refine .append ?_ (.block_plain (by decide) (.flatMap fun s _ => lines_slice s))
    unfold extentText?
    split
    · exact .cons (line_extent h.1) .nil
    · exact .nil
  | unknown kind => exact .nil

/-- The names of the types of a model. -/
def typeNames (model : Model) : List String := model.types.map TypeDef.name

variable {model : Model} {message : Message}

theorem line_type {type : FieldType} (h : type.BelongsTo model) :
    Line (typeNames model) (typeLine type) := by
  cases type with
  | base b => exact line_baseKeyword (by decide) b
  | declared t =>
    have hmem : t.name ∈ typeNames model := List.mem_map_of_mem (List.mem_of_find?_eq_some h)
    have hhead : Fragment ("type" ++ "=") := .plain (by decide)
    have hcomma : Fragment "," := .plain (by decide)
    have htext : typeText (.declared t) = ("FIELD_TYPES[" ++ Text.quoted t.name ++ "]", "") := rfl
    rw [typeLine, htext, keyword_eq]
    exact .lookup hhead hmem hcomma
  | foreign name => exact absurd h id
  | invalid value => exact absurd h id

theorem lines_single {field : SingleField} (h : field.Intact model message) :
    Lines (typeNames model) (singleText field) := by
  refine .append (.append (.cons ?_ (.cons (line_type h.type) (.cons ?_ .nil)))
    (lines_scaling _)) (lines_shape h.shape)
  · exact line_quotedKeyword (by decide) _
  · exact line_decimalKeyword (by decide) _

theorem lines_reference (c : Condition) (value : String × Int) :
    Lines keys (referenceEntry c value) := by
  refine .block_plain (by decide) (.cons ?_ (.cons ?_ (.cons ?_ (.cons ?_ .nil))))
  · exact line_quotedKeyword (by decide) _
  · exact line_decimalKeyword (by decide) _
  · exact line_quotedKeyword (by decide) _
  · exact line_decimalKeyword (by decide) _

theorem lines_conditions (conditions : List Condition) : Lines keys (conditionsText conditions) :=
  .block_plain (by decide) (.flatMap fun c _ => .flatMap fun value _ => lines_reference c value)

theorem lines_variants {variants : List (Field × List Condition)}
    (h : ∀ variant ∈ variants, VariantIntact model message variant) :
    Lines (typeNames model) (variantsText variants) := by
  apply Lines.block_plain (by decide)
  apply Lines.flatMap
  intro variant hmem
  obtain ⟨single, heq, hsingle, -⟩ := h variant hmem
  rw [variantText, heq]
  exact .block_plain (by decide) ((lines_single hsingle).append (lines_conditions _))

theorem lines_field {field : Field} (h : field.Intact model message) :
    Lines (typeNames model) (fieldBlock field) := by
  have hhead : Plain (decimal field.number ++ ": Field(") := (plain_decimal _).append (by decide)
  apply Lines.block_plain ⟨hhead, by decide⟩
  cases h with
  | single hsingle => exact lines_single hsingle
  | dynamic hstandard _ hvariants =>
    apply (lines_single hstandard).append
    apply lines_variants
    intro variant hmem
    obtain ⟨single, heq, -, hsingle, hconditions⟩ := hvariants variant hmem
    exact ⟨single, heq, hsingle, hconditions⟩

theorem lines_message (h : message.Intact model) :
    Lines (typeNames model) (messageBlock message) := by
  have hhead : Plain (decimal message.number ++ ": MessageType(") :=
    (plain_decimal _).append (by decide)
  refine .block_plain ⟨hhead, by decide⟩ (.append (.cons ?_ (.cons ?_ .nil)) ?_)
  · exact line_quotedKeyword (by decide) _
  · exact line_decimalKeyword (by decide) _
  · exact .block_plain (by decide) (.flatMap fun field hmem => lines_field (h.fields field hmem))

theorem lines_messages (h : model.Intact) (moment : Option Moment) :
    Lines (typeNames model) (messagesText model moment) := by
  refine .append (.append (lines_header _ _ _) (.of_plain (by decide))) ?_
  exact .block_plain (by decide)
    (.flatMap fun message hmem => lines_message (h.messages message hmem))

/-! ## The profile module -/

/-- The line of the timestamp field, around the expression of its type. -/
theorem line_timestamp {type : String}
    (h : ∀ {s t : String}, Fragment s → Fragment t → Line keys (s ++ type ++ t)) :
    Line keys ("FIELD_TYPE_TIMESTAMP = Field(name=" ++ Text.quoted "timestamp" ++ ", type=" ++
      type ++ ", def_num=" ++ decimal timestampNumber ++ ", units=" ++ Text.quoted "s" ++ ")") := by
  have hhead : Fragment ("FIELD_TYPE_TIMESTAMP = Field(name=" ++ Text.quoted "timestamp" ++
      ", type=") := ((Fragment.plain (by decide)).append (.quoted _)).append_plain (by decide)
  have htail : Fragment (", def_num=" ++ decimal timestampNumber ++ ", units=" ++
      Text.quoted "s" ++ ")") := by
    have hnumber : Fragment (", def_num=" ++ decimal timestampNumber ++ ", units=") :=
      .plain ((Plain.append (by decide) (plain_decimal _)).append (by decide))
    exact (hnumber.append (.quoted _)).append_plain (by decide)
  have hline := h hhead htail
  simpa only [String.append_assoc] using hline

theorem lines_timestamp (model : Model) :
    Lines (typeNames model) (timestampType model.types).1 ∧
      ∀ {s t : String}, Fragment s → Fragment t →
        Line (typeNames model) (s ++ (timestampType model.types).2 ++ t) := by
  unfold timestampType
  split
  next hany =>
    obtain ⟨type, hmem, hname⟩ := List.any_eq_true.mp hany
    have hkey : dateTimeName ∈ typeNames model := by
      rw [← beq_iff_eq.mp hname]
      exact List.mem_map_of_mem hmem
    exact ⟨.of_plain (by decide), fun hs ht => .lookup hs hkey ht⟩
  next =>
    refine ⟨.of_plain (by decide), ?_⟩
    intro s t hs ht
    have hline : Line (typeNames model)
        (s ++ "BASE_TYPES[" ++ ("0x" ++ BaseType.uint32.identifierDigits 2 ++ "]" ++ t) ++ "") :=
      .base hs (.append (.plain (plain_identifier _)) ht) (.inl rfl)
    rw [baseExpression_eq]
    simpa only [String.append_assoc, String.append_empty] using hline

theorem lines_profile (model : Model) (moment : Option Moment) :
    Lines (typeNames model) (profileLines model moment) := by
  obtain ⟨himports, htimestamp⟩ := lines_timestamp model
  have hnameOf : ∀ m, Line (typeNames model) (nameOfNumberLine m) := by
    intro m
    have hnumber : Fragment (decimal m.number ++ ": ") :=
      .plain ((plain_decimal _).append (by decide))
    exact .of_fragment ((hnumber.append (.quoted _)).append_plain (by decide))
  have hnumberOf : ∀ m, Line (typeNames model) (numberOfNameLine m) := by
    intro m
    have hname : Fragment (Text.quoted m.name ++ ": ") :=
      (Fragment.quoted _).append_plain (by decide)
    exact .of_fragment ((hname.append_plain (plain_decimal _)).append_plain (by decide))
  have hversion : Plain ("PROFILE_VERSION = (" ++ decimal model.version.major ++ ", " ++
      decimal model.version.minor ++ ")") := by
    have hmajor : Plain ("PROFILE_VERSION = (" ++ decimal model.version.major ++ ", ") :=
      (Plain.append (by decide) (plain_decimal _)).append (by decide)
    exact (hmajor.append (plain_decimal _)).append (by decide)
  have hscaled : Plain ("PROFILE_VERSION_SCALED = " ++ decimal model.version.scaled) :=
    .append (by decide) (plain_decimal _)
  have hempty : Line (typeNames model) "" := line_empty
  unfold profileLines
  refine .append (.append (.append (.append (.append (.append (.append (lines_header _ _ _)
    himports) ?_) ?_) ?_) ?_) ?_) (.cons (line_timestamp htimestamp) .nil)
  · exact .cons hempty (.cons hempty
      (.cons (.of_plain hversion) (.cons (.of_plain hscaled) (.cons hempty .nil))))
  · exact .block_plain (by decide) (.map fun m _ => hnameOf m)
  · exact .cons hempty .nil
  · exact .block_plain (by decide) (.map fun m _ => hnumberOf m)
  · exact .cons hempty .nil

end FitProfile.Source
