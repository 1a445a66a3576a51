import FitProfile.Proofs.Number.Fractions
import FitProfile.Proofs.Scalings
import FitProfile.Proofs.Source.Splitting
/-!
# FitProfile.Proofs.Source.Scalings -- the scales and offsets in the module of the messages

In the module of the messages a scale or an offset is the argument of a keyword on a line of its
own. Read off line by line, these arguments are the scales and offsets of the model, in order
(`arguments_messagesText`): no other line bears one of the two names in front of an equals sign.
They are literals where the quantities are finite, and words where they are not
(`scalings_of_render`). Both occur, since the words for infinity and for no number are read as
numbers.
-/

namespace FitProfile

open FitProfile.Number FitProfile.Text FitProfile.Outcome

namespace Source

/-! ## Arguments -/

/-- The argument of a keyword in a line: what follows the name and an equals sign, whatever the
indentation. -/
def argument? (name : String) (line : List Char) : Option (List Char) :=
  (name.toList ++ ['=']).isPrefixOf? (line.dropWhile (· == ' '))

/-- The arguments of a keyword in lines, from top to bottom. -/
def arguments (name : String) (lines : List String) : List (List Char) :=
  lines.filterMap fun line => argument? name line.toList

section

variable (name : String)

theorem arguments_append (lines others : List String) :
    arguments name (lines ++ others) = arguments name lines ++ arguments name others :=
  List.filterMap_append

theorem arguments_flatMap {α : Type} (list : List α) (entry : α → List String) :
    arguments name (list.flatMap entry) = list.flatMap fun a => arguments name (entry a) := by
  induction list with
  | nil => rfl
  | cons a rest ih => rw [List.flatMap_cons, List.flatMap_cons, arguments_append, ih]

/-- Indentation does not hide an argument. -/
theorem argument?_deeper (line : String) :
    argument? name (deeper line).toList = argument? name line.toList := by
  rw [toList_deeper]
  split
  next hempty => rw [hempty]
  next => rfl

theorem arguments_map_deeper (lines : List String) :
    arguments name (lines.map deeper) = arguments name lines := by
  rw [arguments, arguments, List.filterMap_map]
  exact List.filterMap_congr fun line _ => argument?_deeper name line

end

/-- A line without an argument of the keyword. -/
def Lacks (name : String) (line : String) : Prop := argument? name line.toList = none

instance (name line : String) : Decidable (Lacks name line) :=
  inferInstanceAs (Decidable (_ = none))

variable {name : String}

theorem arguments_nil : arguments name [] = [] := rfl

theorem arguments_cons_of_lacks {line : String} (h : Lacks name line) (lines : List String) :
    arguments name (line :: lines) = arguments name lines :=
  List.filterMap_cons_none h

theorem arguments_cons_of_argument {line : String} {found : List Char}
    (h : argument? name line.toList = some found) (lines : List String) :
    arguments name (line :: lines) = found :: arguments name lines :=
  List.filterMap_cons_some h

/-- A block has the arguments of its body. -/
theorem arguments_block {head foot : String} (hhead : Lacks name head) (hfoot : Lacks name foot)
    (body : List String) : arguments name (block head body foot) = arguments name body := by
  rw [block, arguments_append, arguments_cons_of_lacks hhead, arguments_cons_of_lacks hfoot,
    arguments_nil, List.append_nil, arguments_map_deeper]

/-- There is no argument without an equals sign. -/
theorem lacks_of_notMem {line : String} (h : '=' ∉ line.toList) : Lacks name line := by
  unfold Lacks
  rw [Option.eq_none_iff_forall_ne_some]
  intro found hfound
  have hprefix := List.isPrefixOf?_eq_some_iff_append_eq.mp hfound
  have hmem : '=' ∈ line.toList.dropWhile (· == ' ') := by
    rw [← hprefix]
    simp
  exact h ((List.dropWhile_sublist _).mem hmem)

theorem lacks_decimal (n : Int) {rest : String} (h : '=' ∉ rest.toList) :
    Lacks name (decimal n ++ rest) := by
  apply lacks_of_notMem
  rw [String.toList_append, List.mem_append, not_or]
  exact ⟨notMem_decimal (by decide) (by decide) n, h⟩

/-- There is no argument in a line that begins otherwise than the keyword, and is not indented. -/
theorem lacks_of_head {line : String}
    (h : ∀ c ∈ line.toList.head?, c ≠ ' ' ∧ c ∉ (name.toList ++ ['=']).head?) :
    Lacks name line := by
  unfold Lacks argument?
  rw [Option.eq_none_iff_forall_ne_some]
  intro found hfound
  have hprefix := List.isPrefixOf?_eq_some_iff_append_eq.mp hfound
  cases hline : line.toList with
  | nil =>
    rw [hline] at hprefix
    simp at hprefix
  | cons c rest =>
    obtain ⟨hblank, hname⟩ := h c (by rw [hline]; rfl)
    rw [hline, List.dropWhile_cons_of_neg (by simpa using hblank)] at hprefix
    obtain ⟨first, others, hcons⟩ := List.exists_cons_of_ne_nil
      (List.append_ne_nil_of_right_ne_nil name.toList (List.cons_ne_nil '=' []))
    rw [hcons] at hname hprefix
    exact hname (congrArg some (List.cons.inj hprefix).1)

theorem arguments_eq_nil {lines : List String} (h : ∀ line ∈ lines, Lacks name line) :
    arguments name lines = [] := List.filterMap_eq_nil_iff.mpr h

/-- The head of a module has no arguments, unless the keyword begins as remarks do. -/
theorem arguments_header (hname : '#' ∉ (name.toList ++ ['=']).head?) (m : Module)
    (version : Version) (moment : Option Moment) : arguments name (header m version moment) = [] := by
  apply arguments_eq_nil
  intro line hmem
  apply lacks_of_head
  rcases isRemark_header m version moment line hmem with rfl | ⟨rest, rfl, -⟩
  · simp
  · intro c hc
    rw [String.toList_append] at hc
    obtain rfl : '#' = c := Option.some.inj hc
    exact ⟨by decide, hname⟩

/-- A keyword argument is that of its own name only. -/
theorem argument?_keyword (hname : '=' ∉ name.toList) {other : String} (hother : '=' ∉ other.toList)
    (houter : Outer other) (value comment : String) :
    argument? name (keyword other value comment).toList =
      if other = name then some (value.toList ++ ',' :: (remark comment).toList) else none := by
  have hchars : (keyword other value comment).toList =
      other.toList ++ '=' :: (value.toList ++ ',' :: (remark comment).toList) := by
    simp [keyword, String.toList_append]
  have hlead : (keyword other value comment).toList.dropWhile (· == ' ') =
      (keyword other value comment).toList := by
    unfold Outer at houter
    rw [hchars]
    cases hcons : other.toList with
    | nil =>
      rw [hcons] at houter
      cases houter
    | cons c rest =>
      rw [hcons, List.head?_cons, Option.any_some, bne_iff_ne] at houter
      rw [List.cons_append, List.dropWhile_cons_of_neg (by simpa using houter)]
  unfold argument?
  rw [hlead, hchars]
  ext found
  rw [List.isPrefixOf?_eq_some_iff_append_eq, List.append_assoc, List.singleton_append]
  split
  next heq =>
    subst heq
    constructor
    · intro h
      rw [(append_cons_inj hname hother h).2]
    · rintro ⟨⟩
      rfl
  next hne =>
    constructor
    · intro h
      exact absurd (String.toList_inj.mp (append_cons_inj hname hother h).1.symm) hne
    · intro h
      cases h

/-! ## The two parts of a scaling -/

/-- How the parts of scalings are written behind their keyword. -/
def writtenParts (part : ScalingPart) (scalings : List Scaling) : List (List Char) :=
  (scalings.filterMap part.quantity?).map fun q => q.text.toList ++ [',']

section

variable (part : ScalingPart)

theorem writtenParts_append (scalings others : List Scaling) :
    writtenParts part (scalings ++ others) =
      writtenParts part scalings ++ writtenParts part others := by
  rw [writtenParts, List.filterMap_append, List.map_append, writtenParts, writtenParts]

theorem writtenParts_flatMap {α : Type} (list : List α) (f : α → List Scaling) :
    writtenParts part (list.flatMap f) = list.flatMap fun a => writtenParts part (f a) := by
  induction list with
  | nil => rfl
  | cons a rest ih => rw [List.flatMap_cons, List.flatMap_cons, writtenParts_append, ih]

theorem argument?_own (value : String) :
    argument? part.name (keyword part.name value "").toList = some (value.toList ++ [',']) := by
  have hname : '=' ∉ part.name.toList ∧ Outer part.name := by cases part <;> decide
  have hremark : (remark "").toList = [] := by decide
  rw [argument?_keyword hname.1 hname.1 hname.2, if_pos rfl, hremark]

/-- Keywords whose lines cannot be taken for those of a part. -/
structure OtherKeyword (part : ScalingPart) (other : String) : Prop where
  equals : '=' ∉ other.toList
  outer : Outer other
  ne : other ≠ part.name

instance (part : ScalingPart) (other : String) : Decidable (OtherKeyword part other) :=
  decidable_of_iff ('=' ∉ other.toList ∧ Outer other ∧ other ≠ part.name)
    ⟨fun ⟨equals, outer, ne⟩ => ⟨equals, outer, ne⟩, fun h => ⟨h.equals, h.outer, h.ne⟩⟩

/-- All keywords but those of the parts, and of the flag, which has one line only. -/
theorem otherKeyword : ∀ other ∈ ["name", "def_num", "type", "units", "bits", "bit_offset", "array",
    "mesg_num", "value", "raw_value"], OtherKeyword part other := by
  cases part <;> decide

theorem lacks_keyword {other : String} (h : OtherKeyword part other) (value comment : String) :
    Lacks part.name (keyword other value comment) := by
  have hname : '=' ∉ part.name.toList := by cases part <;> decide
  unfold Lacks
  rw [argument?_keyword hname h.equals h.outer, if_neg h.ne]

theorem arguments_cons_keyword {other : String} (h : OtherKeyword part other)
    (value comment : String) (lines : List String) :
    arguments part.name (keyword other value comment :: lines) = arguments part.name lines :=
  arguments_cons_of_lacks (lacks_keyword part h value comment) lines

theorem arguments_own (o : Option Quantity) :
    arguments part.name (o.map fun q => keyword part.name q.text "").toList =
      o.toList.map fun q => q.text.toList ++ [','] := by
  cases o with
  | none => rfl
  | some q => exact List.filterMap_cons_some (argument?_own part q.text)

theorem arguments_other {α : Type} {other : String} (h : OtherKeyword part other)
    (value : α → String) (o : Option α) :
    arguments part.name (o.map fun a => keyword other (value a) "").toList = [] := by
  cases o with
  | none => rfl
  | some a => exact arguments_cons_keyword part h (value a) "" []

/-! ## Entries -/

theorem arguments_scalingLines (s : Scaling) :
    arguments part.name (scalingLines s) = writtenParts part [s] := by
  have hunits : arguments part.name
      (s.units.map fun u => keyword "units" (Text.quoted u) "").toList = [] :=
    arguments_other part (otherKeyword part _ (by simp)) Text.quoted s.units
  have hflag : arguments part.name
      (if s.accumulate then [keyword "accumulate" "True" ""] else []) = [] := by
    split
    · exact arguments_eq_nil (by cases part <;> decide)
    · rfl
  have hparts : writtenParts part [s] =
      (part.quantity? s).toList.map fun q => q.text.toList ++ [','] := by
    unfold writtenParts
    cases h : part.quantity? s <;> simp [h]
  rw [scalingLines, arguments_append, arguments_append, arguments_append, hunits, hflag, hparts,
    List.append_nil, List.append_nil]
  cases part with
  | scale =>
    have hscale := arguments_own .scale s.scale
    have hoffset : OtherKeyword .scale "offset" := by decide
    dsimp only [ScalingPart.name] at hscale ⊢
    rw [hscale]
    exact (congrArg (_ ++ ·) (arguments_other .scale hoffset Quantity.text s.offset)).trans
      (List.append_nil _)
  | offset =>
    have hoffset := arguments_own .offset s.offset
    have hscale : OtherKeyword .offset "scale" := by decide
    dsimp only [ScalingPart.name] at hoffset ⊢
    rw [hoffset]
    exact congrArg (· ++ _) (arguments_other .offset hscale Quantity.text s.scale)

/-- The entry of a slice has the arguments of its scaling. -/
theorem arguments_sliceEntry (s : Slice) :
    arguments part.name (sliceEntry s) = writtenParts part [s.scaling] := by
  rw [sliceEntry, arguments_block (by cases part <;> decide) (by cases part <;> decide),
    arguments_append, arguments_append, arguments_scalingLines,
    arguments_cons_keyword part (otherKeyword part _ (by simp)),
    arguments_cons_keyword part (otherKeyword part _ (by simp)),
    arguments_cons_keyword part (otherKeyword part _ (by simp)),
    arguments_cons_keyword part (otherKeyword part _ (by simp)), arguments_nil,
    List.nil_append, List.append_nil]

theorem arguments_shapeText (shape : Shape) :
    arguments part.name (shapeText shape) = writtenParts part shape.scalings := by
  have hextent : ∀ extent, arguments part.name [extentLine extent] = [] := fun extent =>
    arguments_cons_keyword part (otherKeyword part _ (by simp)) _ _ _
  cases shape with
  | plain => rfl
  | array extent => exact hextent extent
  | packed extent slices =>
    have hoption : arguments part.name (extentText? extent) = [] := by
      unfold extentText?
      split
      · exact hextent extent
      · rfl
    rw [shapeText, arguments_append, hoption, List.nil_append, slicesText,
      arguments_block (by cases part <;> decide) (by cases part <;> decide), arguments_flatMap,
      Shape.scalings, List.map_eq_flatMap, writtenParts_flatMap]
    exact congrArg (slices.flatMap ·) (funext fun s => arguments_sliceEntry part s)
  | unknown kind => rfl

/-- The lines of a field have the arguments of its own scaling and of those of its slices. -/
theorem arguments_singleText (field : SingleField) :
    arguments part.name (singleText field) = writtenParts part field.scalings := by
  have hsplit : field.scalings = [field.scaling] ++ field.shape.scalings := rfl
  rw [singleText, typeLine, arguments_append, arguments_append, arguments_scalingLines,
    arguments_shapeText, hsplit, writtenParts_append,
    arguments_cons_keyword part (otherKeyword part _ (by simp)),
    arguments_cons_keyword part (otherKeyword part _ (by simp)),
    arguments_cons_keyword part (otherKeyword part _ (by simp)), arguments_nil, List.nil_append]

theorem arguments_conditionsText (conditions : List Condition) :
    arguments part.name (conditionsText conditions) = [] := by
  have hentry : ∀ s, arguments part.name (selectionEntry s) = [] := by
    intro s
    rw [selectionEntry, arguments_block (by cases part <;> decide) (by cases part <;> decide),
      arguments_cons_keyword part (otherKeyword part _ (by simp)),
      arguments_cons_keyword part (otherKeyword part _ (by simp)),
      arguments_cons_keyword part (otherKeyword part _ (by simp)),
      arguments_cons_keyword part (otherKeyword part _ (by simp)), arguments_nil]
  rw [conditionsText, arguments_block (by cases part <;> decide) (by cases part <;> decide),
    conditionEntries_eq, arguments_flatMap, List.flatMap_eq_nil_iff]
  exact fun s _ => hentry s

/-- The entry of a field has the arguments of the field, of its default and of its variants. -/
theorem arguments_fieldBlock (field : Field) :
    arguments part.name (fieldBlock field) = writtenParts part field.scalings := by
  have hvariant : ∀ variant, arguments part.name (variantText variant) =
      writtenParts part variant.1.lead.scalings := by
    intro variant
    rw [variantText, arguments_block (by cases part <;> decide) (by cases part <;> decide),
      arguments_append, arguments_singleText, arguments_conditionsText, List.append_nil]
  rw [fieldBlock, arguments_block (lacks_decimal _ (by decide)) (by cases part <;> decide)]
  cases field with
  | single field => exact arguments_singleText part field
  | dynamic standard variants =>
    rw [fieldText, arguments_append, arguments_singleText, variantsText,
      arguments_block (by cases part <;> decide) (by cases part <;> decide), arguments_flatMap,
      Field.scalings, writtenParts_append, writtenParts_flatMap]
    exact congrArg (fun entry => _ ++ variants.flatMap entry) (funext hvariant)

theorem arguments_messageBlock (message : Message) : arguments part.name (messageBlock message) =
    writtenParts part (message.fields.flatMap Field.scalings) := by
  rw [messageBlock, arguments_block (lacks_decimal _ (by decide)) (by cases part <;> decide),
    arguments_append, arguments_cons_keyword part (otherKeyword part _ (by simp)),
    arguments_cons_keyword part (otherKeyword part _ (by simp)), arguments_nil, List.nil_append,
    arguments_block (by cases part <;> decide) (by cases part <;> decide), arguments_flatMap,
    writtenParts_flatMap]
  exact congrArg (message.fields.flatMap ·) (funext fun field => arguments_fieldBlock part field)

/-- The arguments in the module of the messages are the scales, or the offsets, of the model. -/
theorem arguments_messagesText (model : Model) (moment : Option Moment) :
    arguments part.name (messagesText model moment) = writtenParts part model.scalings := by
  have himports : arguments part.name ["from " ++ recordsModule ++
      " import BASE_TYPES, ComponentField, Field, MessageType, ReferenceField, SubField",
      "", "from ." ++ Module.types.name ++ " import FIELD_TYPES", "", ""] = [] :=
    arguments_eq_nil (by cases part <;> decide)
  have hassignment : Lacks part.name "MESSAGE_TYPES = \x7b" := by cases part <;> decide
  have hhash : '#' ∉ (part.name.toList ++ ['=']).head? := by cases part <;> decide
  rw [messagesText, arguments_append, arguments_append, arguments_header hhash, himports,
    arguments_block hassignment (by cases part <;> decide), arguments_flatMap, Model.scalings,
    writtenParts_flatMap, List.nil_append, List.nil_append]
  exact congrArg (model.messages.flatMap ·)
    (funext fun message => arguments_messageBlock part message)

end

/-- The arguments of a keyword in source text, line by line. -/
def argumentsIn (name source : String) : List (List Char) :=
  (source.toList.splitOn '\n').filterMap (argument? name)

theorem argumentsIn_text (name : String) {lines : List String} (h : UnbrokenLines lines) :
    argumentsIn name (text lines) = arguments name lines := by
  have hempty : Lacks name "" := lacks_of_notMem (by decide)
  have hend : argument? name [] = none := hempty
  rw [argumentsIn, (madeOf_text h).split, List.filterMap_append, List.filterMap_map,
    List.filterMap_cons_none hend, List.filterMap_nil, List.append_nil]
  rfl

end Source

namespace Model

/-- The extents of an intact model are numbers or names. -/
theorem unbrokenExtents_of_intact {model : Model} (h : model.Intact) : model.UnbrokenExtents := by
  have hsingle : ∀ {message : Message} {field : SingleField}, field.Intact model message →
      ∀ written, Source.extent? field.shape ≠ some (.other written) := by
    intro message field hintact written hwritten
    cases Source.isArraySize_of_intact hintact.shape _ hwritten
  intro message hmessage field hfield part hpart written hwritten
  cases (h.messages message hmessage).fields field hfield with
  | single hintact =>
    obtain rfl := List.mem_singleton.mp hpart
    exact absurd hwritten (hsingle hintact written)
  | dynamic hintact _ hvariants =>
    rcases List.mem_cons.mp hpart with rfl | hpart
    · exact absurd hwritten (hsingle hintact written)
    · obtain ⟨variant, hvariant, rfl⟩ := List.mem_map.mp hpart
      obtain ⟨inner, hinner, -, hintact, -⟩ := hvariants variant hvariant
      rw [hinner] at hwritten
      exact absurd hwritten (hsingle hintact written)

variable {rules : RuleSet} {version : Version} {book : Workbook} {model : Model}
variable {moment : Option Moment} {profile : Profile}

theorem argumentsIn_of_render (hlinked : model.LinkedFrom rules version book)
    (h : model.render moment = .ok profile) (part : ScalingPart) :
    Source.argumentsIn part.name profile.messages =
      Source.writtenParts part model.scalings := by
  have hprofile := (Source.renders_render hlinked.intact moment).eq_of_ok h
  have hmessages : profile.messages = Source.text (Source.messagesText model moment) := by
    rw [hprofile, Source.profileOf]
  have hunbroken := unbrokenExtents_of_intact hlinked.intact
  rw [hmessages, Source.argumentsIn_text part.name (Source.unbroken_messagesText hunbroken moment),
    Source.arguments_messagesText]

/-- Each scale and each offset of a linked model is written as an argument on a line of its own, and
there are no others. It is the text of what was read from a cell of its column or from an entry of
such a cell. That text is a literal unless the entry stands for no finite number: for infinity, for
no number, or for a number beyond the greatest one. Then it is a word. -/
theorem scalings_of_render (hlinked : model.LinkedFrom rules version book)
    (h : model.render moment = .ok profile) (part : ScalingPart) :
    Source.argumentsIn part.name profile.messages =
        ((model.scalings.filterMap part.quantity?).map fun q => q.text.toList ++ [',']) ∧
      (∀ q ∈ model.scalings.filterMap part.quantity?,
        ∃ text, book.States rules part text ∧ Quantity.ofText? text = some q) ∧
      ∀ text q, Quantity.ofText? text = some q →
        (SignedLiteral q.text.toList ↔ ¬ NamesUnbounded text) ∧
          (NamesUnbounded text → q.text ∈ ["inf", "-inf", "nan"]) := by
  refine ⟨argumentsIn_of_render hlinked h part, ?_, ?_⟩
  · intro q hq
    obtain ⟨s, hs, hpart⟩ := List.mem_filterMap.mp hq
    exact exists_stated hlinked hs hpart
  · intro text q hread
    have hfinite := Quantity.isFinite_iff hread
    have hword : NamesUnbounded text → q.text ∈ ["inf", "-inf", "nan"] := by
      intro hunbounded
      exact Quantity.text_of_not_isFinite fun hf => hfinite.mp hf hunbounded
    refine ⟨?_, hword⟩
    constructor
    · intro hliteral hunbounded
      exact not_signedLiteral_of_word (hword hunbounded) hliteral
    · intro hbounded
      exact Quantity.signedLiteral_text (hfinite.mpr hbounded)

/-- A workbook with scales and offsets on all three ways: in cells of their own, in a list, and as
one entry for all components. -/
def scaledBook : Workbook where
  sheets :=
    [("Version", [["21.0"]]),
     ("Types",
      [["Type Name", "Base Type", "Value Name", "Value", "Comment"],
       ["mesg_num", "uint16"], ["", "", "record", "20"]]),
     ("Messages",
      [["Message Name", "Field Def #", "Field Name", "Field Type", "Array", "Components", "Scale",
        "Offset", "Units", "Bits", "Accumulate", "Ref Field Name", "Ref Field Value", "Comment"],
       ["record"],
       ["", "8", "packed", "byte", "[3]", "speed,distance", "1_00, 1.6e1", "-0.5", "", "12,12"],
       ["", "5", "distance", "uint32", "", "", "100", "-500"],
       ["", "6", "speed", "uint16", "", "", "1.0"]])]

/-- The scaled workbook is rendered with literals, and the numbers that scale by one or shift by
nothing are left out. -/
theorem scaledBook_scalings : ∃ (model : Model) (profile : Profile),
    model.LinkedFrom .sdk20 ⟨21, 0⟩ scaledBook ∧ model.render none = .ok profile ∧
      Source.argumentsIn "scale" profile.messages = ["100,", "100,", "16,"].map String.toList ∧
      Source.argumentsIn "offset" profile.messages =
        ["-500,", "-0.5,", "-0.5,"].map String.toList ∧
      ∀ q ∈ model.scalings.filterMap ScalingPart.offset.quantity?,
        ∃ text, scaledBook.States .sdk20 .offset text ∧ Quantity.ofText? text = some q := by
  have hlinked : ∃ model : Model, model.LinkedFrom .sdk20 ⟨21, 0⟩ scaledBook ∧
      model.scalings.filterMap ScalingPart.scale.quantity? = [.whole 100, .whole 100, .whole 16] ∧
      model.scalings.filterMap ScalingPart.offset.quantity? =
        [.whole (-500), .real (.finite true (2 ^ 52) (-53)), .real (.finite true (2 ^ 52) (-53))] ∧
      ∃ profile, model.render none = .ok profile :=
    ⟨_, ⟨_, rfl, rfl⟩, rfl, rfl, _, rfl⟩
  obtain ⟨model, hlinked, hscales, hoffsets, profile, hprofile⟩ := hlinked
  obtain ⟨hscale, -, -⟩ := scalings_of_render hlinked hprofile .scale
  obtain ⟨hoffset, hstated, -⟩ := scalings_of_render hlinked hprofile .offset
  rw [hscales] at hscale
  rw [hoffsets] at hoffset
  refine ⟨model, profile, hlinked, hprofile, hscale.trans ?_, hoffset.trans ?_, hstated⟩
  · decide +kernel
  · decide +kernel

/-- A workbook with an infinite scale. -/
def infiniteBook : Workbook where
  sheets :=
    [("Types",
      [["Type Name", "Base Type", "Value Name", "Value", "Comment"],
       ["mesg_num", "uint16"], ["", "", "event", "21"]]),
     ("Messages",
      [["Message Name", "Field Def #", "Field Name", "Field Type", "Array", "Components", "Scale",
        "Offset", "Units", "Bits", "Accumulate", "Ref Field Name", "Ref Field Value", "Comment"],
       ["event"],
       ["", "3", "data", "uint32", "", "", "inf"]])]

/-- The infinite scale is accepted, and what is written for it is no literal. -/
theorem infiniteBook_scale : ∃ (model : Model) (profile : Profile),
    model.LinkedFrom .sdk20 ⟨20, 14⟩ infiniteBook ∧ model.render none = .ok profile ∧
      Source.argumentsIn "scale" profile.messages = ["inf,".toList] ∧
      ¬ SignedLiteral "inf".toList := by
  have hlinked : ∃ model : Model, model.LinkedFrom .sdk20 ⟨20, 14⟩ infiniteBook ∧
      Source.writtenParts .scale model.scalings = ["inf,".toList] ∧
      ∃ profile, model.render none = .ok profile :=
    ⟨_, ⟨_, rfl, rfl⟩, rfl, _, rfl⟩
  obtain ⟨model, hmodel, hscales, profile, hprofile⟩ := hlinked
  refine ⟨model, profile, hmodel, hprofile, ?_, not_signedLiteral_of_word (by decide)⟩
  rw [← hscales]
  exact argumentsIn_of_render hmodel hprofile .scale

end Model

end FitProfile
