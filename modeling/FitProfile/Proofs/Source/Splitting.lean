import FitProfile.Proofs.Source.Outline
import FitProfile.Proofs.Source.Printing
import FitProfile.Proofs.Text.Unbroken
/-!
# FitProfile.Proofs.Source.Splitting -- no text leaves its line

Names, comments and units may hold any characters, line feeds and carriage returns among them.
In the modules they stand between quotes or, as remarks, brought to their words, and neither way
lets them end their line. So every line is unbroken, and splitting a module at its line feeds gives
back the lines that were handed to the writer, one for one (`lines_of_render`).
-/

namespace FitProfile

open FitProfile.Number FitProfile.Text FitProfile.Outcome

namespace Source

/-! ## The writer -/

/-- The white space of one more level stands in front of that of the levels before. -/
theorem indentation_succ (level : Nat) :
    indentation (level + 1 : Nat) = indentUnit ++ indentation level := by
  have hunit : String.ofList indentUnit.toList = indentUnit := String.ofList_toList
  simp only [indentation, Int.toNat_natCast, List.replicate_succ, List.flatten_cons,
    String.ofList_append, hunit]

/-- A line at a level of blocks, as it is written. -/
theorem nested_singleton (level : Nat) (line : String) :
    nested level [line] = [if line.toList.isEmpty then line else indentation level ++ line] := by
  induction level with
  | zero =>
    have hnone : indentation (0 : Nat) = "" := rfl
    rw [hnone, String.empty_append, ite_self]
    rfl
  | succ level ih =>
    rw [nested, ih, indentation_succ, List.map_singleton]
    unfold deeper
    split
    next hempty => rfl
    next hfull =>
      have hindented : ¬ (indentation level ++ line).toList.isEmpty = true := by
        simpa [String.toList_append] using fun _ => hfull
      rw [if_neg hindented, String.append_assoc]

theorem nested_append (level : Nat) (lines others : List String) :
    nested level (lines ++ others) = nested level lines ++ nested level others := by
  induction level with
  | zero => rfl
  | succ level ih => rw [nested, ih, List.map_append, nested, nested]

theorem nested_map_deeper (level : Nat) (lines : List String) :
    nested level (lines.map deeper) = nested (level + 1) lines := by
  induction level with
  | zero => rfl
  | succ level ih => exact congrArg (List.map deeper) ih

theorem text_singleton (line : String) : text [line] = line ++ "\n" := by
  rw [← String.toList_inj, toList_text, String.toList_append]
  simp

theorem text_append (lines others : List String) :
    text (lines ++ others) = text lines ++ text others := by
  rw [← String.toList_inj, String.toList_append, toList_text, toList_text, toList_text,
    List.flatMap_append]

theorem writeLine_eq {w : Writer} (hlevel : 0 ≤ w.level) (line : String) :
    w.writeLine line = ⟨w.level, w.text ++ text (nested w.level.toNat [line])⟩ := by
  have hindent : indentation w.level.toNat = indentation w.level := by
    rw [Int.toNat_of_nonneg hlevel]
  rw [nested_singleton, hindent, text_singleton]
  unfold Writer.writeLine Writer.write
  split
  next hempty =>
    rw [String.toList_eq_nil_iff.mp (List.isEmpty_iff.mp hempty), String.empty_append]
  next => rfl

theorem openBlock_eq {w : Writer} (hlevel : 0 ≤ w.level) (head : String) :
    w.openBlock head = ⟨w.level + 1, w.text ++ text (nested w.level.toNat [head])⟩ := by
  unfold Writer.openBlock
  rw [writeLine_eq hlevel]

theorem closeBlock_eq {level : Int} (hlevel : 0 ≤ level) (before foot : String) :
    (⟨level + 1, before⟩ : Writer).closeBlock foot =
      ⟨level, before ++ text (nested level.toNat [foot])⟩ := by
  have hback : level + 1 - 1 = level := by omega
  have hwritten : (⟨level, before⟩ : Writer).writeLine foot = _ := writeLine_eq hlevel foot
  unfold Writer.closeBlock
  dsimp only
  rw [hback, hwritten]

/-- A run of calls of the writer that writes some lines at the level it is at, and stays there. -/
def Writes (run : Writer → Writer) (lines : List String) : Prop :=
  ∀ w : Writer, 0 ≤ w.level → run w = ⟨w.level, w.text ++ text (nested w.level.toNat lines)⟩

namespace Writes

variable {run next : Writer → Writer} {lines others : List String}

theorem line (line : String) : Writes (fun w => w.writeLine line) [line] :=
  fun _ hlevel => writeLine_eq hlevel line

theorem append (hrun : Writes run lines) (hnext : Writes next others) :
    Writes (fun w => next (run w)) (lines ++ others) := by
  intro w hlevel
  have hsecond := hnext ⟨w.level, w.text ++ text (nested w.level.toNat lines)⟩ hlevel
  dsimp only at hsecond ⊢
  rw [hrun w hlevel, hsecond, nested_append, text_append, String.append_assoc]

/-- Lines that are written one after the other. -/
theorem foldl (lines : List String) : Writes (fun w => lines.foldl Writer.writeLine w) lines := by
  induction lines with
  | nil =>
    intro w hlevel
    have hnone : ∀ level, nested level [] = [] := by
      intro level
      induction level with
      | zero => rfl
      | succ level ih => rw [nested, ih, List.map_nil]
    rw [hnone]
    exact congrArg (Writer.mk w.level) (String.append_empty).symm
  | cons first rest ih => exact (line first).append ih

/-- A block is what is written between its opening and its closing. -/
theorem block (head foot : String) (hrun : Writes run lines) :
    Writes (fun w => (run (w.openBlock head)).closeBlock foot) (Source.block head lines foot) := by
  intro w hlevel
  have hinner : 0 ≤ w.level + 1 := by omega
  have hdepth : (w.level + 1).toNat = w.level.toNat + 1 := by omega
  have hbody := hrun ⟨w.level + 1, w.text ++ text (nested w.level.toNat [head])⟩ hinner
  have hsplit : Source.block head lines foot = [head] ++ lines.map deeper ++ [foot] := rfl
  dsimp only at hbody ⊢
  rw [openBlock_eq hlevel, hbody, closeBlock_eq hlevel, hdepth, hsplit, nested_append,
    nested_append, nested_map_deeper, text_append, text_append]
  simp only [String.append_assoc]

end Writes

/-! ## Lists of unbroken lines -/

/-- Lists of unbroken lines. -/
def UnbrokenLines (lines : List String) : Prop := ∀ line ∈ lines, Unbroken line

instance (lines : List String) : Decidable (UnbrokenLines lines) :=
  inferInstanceAs (Decidable (∀ line ∈ lines, Unbroken line))

namespace UnbrokenLines

variable {lines others : List String}

theorem nil : UnbrokenLines [] := by simp [UnbrokenLines]

theorem cons {line : String} (h : Unbroken line) (hlines : UnbrokenLines lines) :
    UnbrokenLines (line :: lines) := List.forall_mem_cons.mpr ⟨h, hlines⟩

theorem append (hl : UnbrokenLines lines) (ho : UnbrokenLines others) :
    UnbrokenLines (lines ++ others) := List.forall_mem_append.mpr ⟨hl, ho⟩

theorem flatMap {α : Type} {list : List α} {f : α → List String}
    (h : ∀ a ∈ list, UnbrokenLines (f a)) : UnbrokenLines (list.flatMap f) := by
  intro line hmem
  obtain ⟨a, ha, hline⟩ := List.mem_flatMap.mp hmem
  exact h a ha line hline

theorem map {α : Type} {list : List α} {f : α → String} (h : ∀ a ∈ list, Unbroken (f a)) :
    UnbrokenLines (list.map f) := by
  intro line hmem
  obtain ⟨a, ha, rfl⟩ := List.mem_map.mp hmem
  exact h a ha

theorem block {head foot : String} {body : List String} (hhead : Unbroken head)
    (hbody : UnbrokenLines body) (hfoot : Unbroken foot) :
    UnbrokenLines (Source.block head body foot) := by
  have hdeeper : UnbrokenLines (body.map deeper) := by
    apply UnbrokenLines.map
    intro line hmem
    unfold deeper
    split
    · exact hbody line hmem
    · exact Unbroken.append (by decide) (hbody line hmem)
  exact (cons hhead hdeeper).append (cons hfoot .nil)

end UnbrokenLines

theorem unbroken_keyword {name value comment : String} (hname : Unbroken name)
    (hvalue : Unbroken value) (hcomment : Unbroken comment) :
    Unbroken (keyword name value comment) := by
  have hremark : Unbroken (remark comment) := by
    unfold remark
    split
    · decide
    · exact Unbroken.append (by decide) hcomment
  exact (((hname.append (by decide)).append hvalue).append (by decide)).append hremark

theorem unbroken_quotedKeyword {name : String} (hname : Unbroken name) (s : String) :
    Unbroken (keyword name (Text.quoted s) "") :=
  unbroken_keyword hname (unbroken_quoted s) (by decide)

theorem unbroken_decimalKeyword {name : String} (hname : Unbroken name) (n : Int) :
    Unbroken (keyword name (decimal n) "") :=
  unbroken_keyword hname (unbroken_decimal n) (by decide)

theorem unbroken_baseExpression (b : BaseType) : Unbroken (baseExpression b) := by
  cases b <;> decide

theorem unbroken_baseName (b : BaseType) : Unbroken b.name := by
  cases b <;> decide

theorem unbroken_rule (n : Nat) : Unbroken (String.ofList (List.replicate n '#')) := by
  apply unbroken_ofList
  intro c hmem hblank
  rw [(List.mem_replicate.mp hmem).2] at hblank
  exact absurd hblank (by decide)

theorem unbroken_bannerLine {title : String} (h : Unbroken title) : Unbroken (bannerLine title) :=
  ((unbroken_rule _).append ((Unbroken.append (by decide) h).append (by decide))).append
    (unbroken_rule _)

theorem unbroken_header (m : Module) (version : Version) (moment : Option Moment) :
    UnbrokenLines (header m version moment) := by
  have hbanner : UnbrokenLines banner :=
    .cons (unbroken_rule _) (.cons (unbroken_bannerLine (by decide)) (.cons (unbroken_rule _) .nil))
  have htitle : Unbroken ("# " ++ m.fileName ++ " -- " ++ m.title) := by
    cases m <;> decide
  have hrelease : Unbroken ("# Exported from FIT SDK " ++ version.text ++ " Profile") :=
    (Unbroken.append (by decide) (unbroken_version version)).append (by decide)
  refine ((hbanner.append (.cons (by decide) (.cons htitle (.cons hrelease .nil)))).append
    ?_).append (by decide)
  cases moment with
  | none => exact .nil
  | some t =>
    exact .cons ((Unbroken.append (by decide) (unbroken_stamp t)).append (by decide)) .nil

/-! ## The modules of the types and of the release -/

theorem unbroken_valueLine (v : TypeValue) : Unbroken (valueLine v) := by
  have hvalue : Unbroken (decimal v.value ++ ": " ++ Text.quoted v.name ++ ",") :=
    (((unbroken_decimal _).append (by decide)).append (unbroken_quoted _)).append (by decide)
  refine hvalue.append ?_
  split
  next comment _ =>
    split
    next => decide
    next => exact Unbroken.append (by decide) (unbroken_collapse comment)
  next => decide

theorem unbroken_typeEntry (t : TypeDef) : UnbrokenLines (typeEntry t) := by
  have hvalues : UnbrokenLines (if t.values.isEmpty then []
      else block "values=\x7b" (t.values.map valueLine) "\x7d,") := by
    split
    next => exact .nil
    next => exact .block (by decide) (.map fun v _ => unbroken_valueLine v) (by decide)
  have hbase : Unbroken (keyword "base_type" (baseExpression t.base) t.base.name) :=
    unbroken_keyword (by decide) (unbroken_baseExpression _) (unbroken_baseName _)
  exact .block ((unbroken_quoted _).append (by decide))
    (.append (.cons (unbroken_quotedKeyword (by decide) _) (.cons hbase .nil)) hvalues) (by decide)

theorem unbroken_typesLines (model : Model) (moment : Option Moment) :
    UnbrokenLines (typesLines model moment) :=
  ((unbroken_header _ _ _).append (by decide)).append
    (.block (by decide) (.flatMap fun t _ => unbroken_typeEntry t) (by decide))

theorem unbroken_timestampType (types : List TypeDef) :
    UnbrokenLines (timestampType types).1 ∧ Unbroken (timestampType types).2 := by
  unfold timestampType
  split
  next => exact ⟨by decide, by decide⟩
  next => exact ⟨by decide, by decide⟩

theorem unbroken_profileLines (model : Model) (moment : Option Moment) :
    UnbrokenLines (profileLines model moment) := by
  obtain ⟨himports, htype⟩ := unbroken_timestampType model.types
  have hname : ∀ m, Unbroken (nameOfNumberLine m) := fun m =>
    (((unbroken_decimal _).append (by decide)).append (unbroken_quoted _)).append (by decide)
  have hnumber : ∀ m, Unbroken (numberOfNameLine m) := fun m =>
    (((unbroken_quoted _).append (by decide)).append (unbroken_decimal _)).append (by decide)
  have hrelease : UnbrokenLines ["", "",
      "PROFILE_VERSION = (" ++ decimal model.version.major ++ ", " ++ decimal model.version.minor ++
        ")", "PROFILE_VERSION_SCALED = " ++ decimal model.version.scaled, ""] := by
    refine .cons (by decide) (.cons (by decide) (.cons ?_ (.cons ?_ (by decide))))
    · exact (((Unbroken.append (by decide) (unbroken_decimal _)).append (by decide)).append
        (unbroken_decimal _)).append (by decide)
    · exact Unbroken.append (by decide) (unbroken_decimal _)
  have htimestamp : Unbroken ("FIELD_TYPE_TIMESTAMP = Field(name=" ++ Text.quoted "timestamp" ++
      ", type=" ++ (timestampType model.types).2 ++ ", def_num=" ++ decimal timestampNumber ++
      ", units=" ++ Text.quoted "s" ++ ")") :=
    (((((((Unbroken.append (by decide) (unbroken_quoted _)).append (by decide)).append
      htype).append (by decide)).append (unbroken_decimal _)).append (by decide)).append
      (unbroken_quoted _)).append (by decide)
  have hnames : UnbrokenLines (block "MESG_NUMS = \x7b" (model.messages.map nameOfNumberLine)
      "\x7d") := .block (by decide) (.map fun m _ => hname m) (by decide)
  have hnumbers : UnbrokenLines (block "MESG_NAMES = \x7b" (model.messages.map numberOfNameLine)
      "\x7d") := .block (by decide) (.map fun m _ => hnumber m) (by decide)
  exact (((((((unbroken_header _ _ _).append himports).append hrelease).append hnames).append
    (by decide)).append hnumbers).append (by decide)).append (.cons htimestamp .nil)

/-! ## The module of the messages -/

theorem unbroken_scalingLines (s : Scaling) : UnbrokenLines (scalingLines s) := by
  refine scalingLines_induction .nil (fun _ _ hl ho => hl.append ho) (fun q => ?_) (fun q => ?_)
    (fun u => ?_) (by decide) s
  · exact .cons (unbroken_keyword (by decide) (unbroken_quantity q) (by decide)) .nil
  · exact .cons (unbroken_keyword (by decide) (unbroken_quantity q) (by decide)) .nil
  · exact .cons (unbroken_quotedKeyword (by decide) u) .nil

/-- Extents are unbroken, but for those made by hand of what is no number and no name. -/
theorem unbroken_extentLine {extent : Option Extent}
    (h : ∀ written, extent = some (.other written) → Unbroken written) :
    Unbroken (extentLine extent) := by
  refine unbroken_keyword (by decide) ?_ (by decide)
  match extent with
  | none => decide
  | some (.count n) => exact unbroken_decimal n
  | some (.symbol s) => exact unbroken_quoted s
  | some (.truth b) => cases b <;> decide
  | some (.real x) => exact unbroken_binary64 x
  | some (.other written) => exact h written rfl

theorem unbroken_sliceEntry (s : Slice) : UnbrokenLines (sliceEntry s) := by
  refine .block (by decide) (.append (.append ?_ (unbroken_scalingLines s.scaling)) ?_) (by decide)
  · exact .cons (unbroken_quotedKeyword (by decide) _)
      (.cons (unbroken_decimalKeyword (by decide) _) .nil)
  · exact .cons (unbroken_decimalKeyword (by decide) _)
      (.cons (unbroken_decimalKeyword (by decide) _) .nil)

theorem unbroken_shapeText {shape : Shape}
    (h : ∀ written, extent? shape = some (.other written) → Unbroken written) :
    UnbrokenLines (shapeText shape) := by
  cases shape with
  | plain => exact .nil
  | array extent => exact .cons (unbroken_extentLine h) .nil
  | packed extent slices =>
    refine .append ?_ (.block (by decide) (.flatMap fun s _ => unbroken_sliceEntry s) (by decide))
    unfold extentText?
    split
    next => exact .cons (unbroken_extentLine h) .nil
    next => exact .nil
  | unknown kind => exact .nil

theorem unbroken_typeLine (type : FieldType) : Unbroken (typeLine type) := by
  have hlookup : ∀ name, Unbroken (keyword "type" ("FIELD_TYPES[" ++ Text.quoted name ++ "]") "") :=
    fun name => unbroken_keyword (by decide)
      ((Unbroken.append (by decide) (unbroken_quoted name)).append (by decide)) (by decide)
  cases type with
  | base b => exact unbroken_keyword (by decide) (unbroken_baseExpression b) (unbroken_baseName b)
  | declared t => exact hlookup _
  | foreign name => exact hlookup _
  | invalid value => exact hlookup _

theorem unbroken_singleText {field : SingleField}
    (h : ∀ written, extent? field.shape = some (.other written) → Unbroken written) :
    UnbrokenLines (singleText field) := by
  refine .append (.append (.cons ?_ (.cons ?_ (.cons ?_ .nil))) (unbroken_scalingLines _))
    (unbroken_shapeText h)
  · exact unbroken_quotedKeyword (by decide) _
  · exact unbroken_typeLine field.type
  · exact unbroken_decimalKeyword (by decide) _

theorem unbroken_selectionEntry (s : Selection) : UnbrokenLines (selectionEntry s) := by
  refine .block (by decide) (.cons ?_ (.cons ?_ (.cons ?_ (.cons ?_ .nil)))) (by decide)
  · exact unbroken_quotedKeyword (by decide) _
  · exact unbroken_decimalKeyword (by decide) _
  · exact unbroken_quotedKeyword (by decide) _
  · exact unbroken_decimalKeyword (by decide) _

theorem unbroken_conditionsText (conditions : List Condition) :
    UnbrokenLines (conditionsText conditions) := by
  unfold conditionsText
  rw [conditionEntries_eq]
  exact .block (by decide) (.flatMap fun s _ => unbroken_selectionEntry s) (by decide)

end Source

/-- A model whose extents, where they are neither numbers nor names, stay on their line. -/
def Model.UnbrokenExtents (model : Model) : Prop :=
  ∀ message ∈ model.messages, ∀ field ∈ message.fields, ∀ part ∈ field.parts, ∀ written,
    Source.extent? part.shape = some (.other written) → Unbroken written

namespace Source

theorem unbroken_fieldBlock {field : Field} (h : ∀ part ∈ field.parts, ∀ written,
    extent? part.shape = some (.other written) → Unbroken written) :
    UnbrokenLines (fieldBlock field) := by
  refine .block ((unbroken_decimal _).append (by decide)) ?_ (by decide)
  cases field with
  | single field => exact unbroken_singleText (h field (List.mem_singleton.mpr rfl))
  | dynamic standard variants =>
    refine .append (unbroken_singleText (h _ (List.mem_cons_self ..))) ?_
    refine .block (by decide) (.flatMap ?_) (by decide)
    intro variant hvariant
    have hpart : variant.1.lead ∈ (Field.dynamic standard variants).parts :=
      List.mem_cons_of_mem _ (List.mem_map_of_mem hvariant)
    exact .block (by decide)
      ((unbroken_singleText (h _ hpart)).append (unbroken_conditionsText _)) (by decide)

theorem unbroken_messagesText {model : Model} (h : model.UnbrokenExtents)
    (moment : Option Moment) : UnbrokenLines (messagesText model moment) := by
  refine ((unbroken_header _ _ _).append (by decide)).append
    (.block (by decide) (.flatMap ?_) (by decide))
  intro message hmessage
  have hfields : UnbrokenLines (block "fields=\x7b" (message.fields.flatMap fieldBlock) "\x7d,") :=
    .block (by decide)
      (.flatMap fun field hfield => unbroken_fieldBlock (h message hmessage field hfield)) (by decide)
  exact .block ((unbroken_decimal _).append (by decide))
    (.append (.cons (unbroken_quotedKeyword (by decide) _)
      (.cons (unbroken_decimalKeyword (by decide) _) .nil)) hfields) (by decide)

/-! ## Splitting a module -/

/-- Source text that consists of some lines: the writer writes it from them, splitting at the line
feeds gives them back, and there is no other white space in it than spaces and these line feeds. -/
structure MadeOf (source : String) (lines : List String) : Prop where
  written : lines.foldl Writer.writeLine Writer.empty = ⟨0, source⟩
  split : source.toList.splitOn '\n' = lines.map String.toList ++ [[]]
  carriage : '\r' ∉ source.toList
  blank : ∀ c ∈ source.toList, isBlank c = true → c = ' ' ∨ c = '\n'

theorem toList_text_eq_intercalate (lines : List String) :
    (text lines).toList = ['\n'].intercalate (lines.map String.toList ++ [[]]) := by
  induction lines with
  | nil => rfl
  | cons line rest ih =>
    rw [toList_text, List.flatMap_cons, ← toList_text, ih, List.map_cons, List.cons_append]
    cases rest with
    | nil => simp [List.intercalate]
    | cons next rest => rw [List.map_cons, List.cons_append, List.intercalate_cons_cons]

/-- Unbroken lines are read back off their text. -/
theorem madeOf_text {lines : List String} (h : UnbrokenLines lines) : MadeOf (text lines) lines := by
  have hnewline : ∀ cs ∈ lines.map String.toList ++ [[]], '\n' ∉ cs := by
    intro cs hmem
    rcases List.mem_append.mp hmem with hmem | hmem
    · obtain ⟨line, hline, rfl⟩ := List.mem_map.mp hmem
      exact (h line hline).notMem (by decide) (by decide)
    · rw [List.mem_singleton.mp hmem]
      exact List.not_mem_nil
  have hblank : ∀ c ∈ (text lines).toList, isBlank c = true → c = ' ' ∨ c = '\n' := by
    intro c hmem hc
    rw [toList_text] at hmem
    obtain ⟨line, hline, hmem⟩ := List.mem_flatMap.mp hmem
    rcases List.mem_append.mp hmem with hmem | hmem
    · exact .inl (h line hline c hmem hc)
    · exact .inr (List.mem_singleton.mp hmem)
  refine ⟨?_, ?_, ?_, hblank⟩
  · have hwritten := Writes.foldl lines Writer.empty (Int.le_refl 0)
    dsimp only [Writer.empty] at hwritten
    rw [Writer.empty, hwritten, String.empty_append]
    rfl
  · rw [toList_text_eq_intercalate]
    exact List.splitOn_intercalate '\n' hnewline (by simp)
  · intro hmem
    exact absurd (hblank '\r' hmem (by decide)) (by decide)

end Source

namespace Model

/-- No text of a model leaves its line. Where a model is rendered, each of the three modules is
made of the lines that were handed to the writer, whatever characters its texts hold: names,
comments and units do not add a line, and they do not end one. -/
theorem lines_of_render (model : Model) (moment : Option Moment) (profile : Profile)
    (hextents : model.UnbrokenExtents) (h : model.render moment = .ok profile) :
    Source.MadeOf profile.types (Source.typesLines model moment) ∧
      (∃ lines, Source.messagesLines model moment = .ok lines ∧
        Source.MadeOf profile.messages lines) ∧
      Source.MadeOf profile.profile (Source.profileLines model moment) := by
  obtain ⟨hlines, htypes, hmessages, hprofile⟩ := Source.render_eq_ok h
  have hordered : ({ model with messages := model.messages.map Source.ordered } :
      Model).UnbrokenExtents := by
    intro message hmessage field hfield
    obtain ⟨original, horiginal, rfl⟩ := List.mem_map.mp hmessage
    exact hextents original horiginal field (Order.mem_sortBy.mp hfield)
  rw [htypes, hmessages, hprofile]
  exact ⟨Source.madeOf_text (Source.unbroken_typesLines model moment),
    ⟨_, hlines, Source.madeOf_text (Source.unbroken_messagesText hordered moment)⟩,
    Source.madeOf_text (Source.unbroken_profileLines model moment)⟩

/-- A model of texts that hold line ends. -/
def raggedModel : Model where
  version := ⟨21, 0⟩
  types := [⟨"kind\n", .enum, [⟨"one\r\ntwo", 1, some "first\n# second\u2028third"⟩], none, none⟩]
  messages :=
    [⟨"event\u0085", 21, [.single ⟨0, "data\n", .base .uint8, ⟨none, none, some "m\r", false⟩, none,
      .array (some (.symbol "N\n"))⟩], 2⟩]
  unmatched := []

/-- The modules of the ragged model have the lines that were written, and no others. -/
theorem raggedModel_lines : raggedModel.UnbrokenExtents ∧ ∃ profile lines,
    raggedModel.render none = .ok profile ∧ Source.messagesLines raggedModel none = .ok lines ∧
      Source.MadeOf profile.messages lines ∧
      Source.MadeOf profile.types (Source.typesLines raggedModel none) := by
  have hextents : raggedModel.UnbrokenExtents := by
    intro message hmessage field hfield part hpart written hwritten
    obtain rfl := List.mem_singleton.mp hmessage
    obtain rfl := List.mem_singleton.mp hfield
    obtain rfl := List.mem_singleton.mp hpart
    cases hwritten
  have hrender : ∃ profile, raggedModel.render none = .ok profile := ⟨_, rfl⟩
  obtain ⟨profile, hprofile⟩ := hrender
  obtain ⟨htypes, ⟨lines, hlines, hmessages⟩, -⟩ :=
    lines_of_render raggedModel none profile hextents hprofile
  exact ⟨hextents, profile, lines, hprofile, hlines, hmessages, htypes⟩

end Model

end FitProfile
