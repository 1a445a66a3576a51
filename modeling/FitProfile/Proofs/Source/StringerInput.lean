import FitProfile.Proofs.Linking.Integrity
import FitProfile.Proofs.Text.Words
import FitProfile.Source.Profile
import FitProfile.Text.CommaList
/-!
# FitProfile.Proofs.Source.StringerInput -- names for another tool, and the list of them

The tool that makes values readable is given the names of the enumerated integer types as one
text, with commas in between. It reads each name as one word, so a name is scrubbed first: what
comes out is an identifier (`isIdentifier_scrubChars`), and an identifier stays as it is, so
scrubbing is a projection. A comma is not a word character, hence the commas of the list are those
between its names, and cutting at them gives the names back (`scrub_and_split`).
-/

namespace FitProfile

namespace Text

/-- Word characters only, the first of which is not a decimal digit. -/
structure IsIdentifier (cs : List Char) : Prop where
  word : ∀ c ∈ cs, isWord c = true
  start : ∀ c ∈ cs.head?, isDecimalDigit c = false

/-! ## Characters -/

theorem isWord_scrubChar (c : Char) : isWord (scrubChar c) = true := by
  unfold scrubChar
  split
  next hword => exact hword
  next => decide

theorem scrubChar_of_isWord {c : Char} (h : isWord c = true) : scrubChar c = c := if_pos h

/-- A character that is no decimal digit does not become one. -/
theorem isDecimalDigit_scrubChar {c : Char} (h : isDecimalDigit c = false) :
    isDecimalDigit (scrubChar c) = false := by
  unfold scrubChar
  split
  next => exact h
  next => decide

theorem map_scrubChar_of_isWord {cs : List Char} (h : ∀ c ∈ cs, isWord c = true) :
    cs.map scrubChar = cs := by
  rw [List.map_congr_left fun c hc => scrubChar_of_isWord (h c hc), List.map_id']

/-! ## Names -/

/-- Whatever a name is made of, it is an identifier once it is scrubbed. -/
theorem isIdentifier_scrubChars (cs : List Char) : IsIdentifier (scrubChars cs) := by
  have hwords : ∀ ds : List Char, ∀ c ∈ ds.map scrubChar, isWord c = true :=
    fun ds => List.forall_mem_map.mpr fun c _ => isWord_scrubChar c
  cases cs with
  | nil => exact ⟨nofun, nofun⟩
  | cons c rest =>
    rw [scrubChars]
    split
    next =>
      -- the underscore in front is neither a digit nor another character
      refine ⟨List.forall_mem_cons.mpr ⟨by decide, hwords _⟩, ?_⟩
      rintro _ ⟨⟩
      decide
    next hdigit =>
      refine ⟨hwords _, ?_⟩
      rintro _ ⟨⟩
      exact isDecimalDigit_scrubChar (Bool.eq_false_iff.mpr hdigit)

theorem scrubChars_of_isIdentifier {cs : List Char} (h : IsIdentifier cs) : scrubChars cs = cs := by
  cases cs with
  | nil => rfl
  | cons c rest =>
    have hdigit : isDecimalDigit c = false := h.start c rfl
    rw [scrubChars, if_neg (Bool.eq_false_iff.mp hdigit), map_scrubChar_of_isWord h.word]

theorem scrubChars_ne_nil {cs : List Char} (h : cs ≠ []) : scrubChars cs ≠ [] := by
  cases cs with
  | nil => exact absurd rfl h
  | cons c rest =>
    rw [scrubChars]
    split
    next => exact List.cons_ne_nil _ _
    next => exact List.cons_ne_nil _ _

theorem isIdentifier_scrub (text : String) : IsIdentifier (scrub text).toList := by
  rw [scrub, String.toList_ofList]
  exact isIdentifier_scrubChars _

/-- The identifiers are the texts that scrubbing leaves alone. -/
theorem scrub_eq_self_iff {text : String} : scrub text = text ↔ IsIdentifier text.toList := by
  constructor
  · intro h
    exact h ▸ isIdentifier_scrub text
  · intro h
    rw [scrub, scrubChars_of_isIdentifier h, String.ofList_toList]

theorem scrub_scrub (text : String) : scrub (scrub text) = scrub text :=
  scrub_eq_self_iff.mpr (isIdentifier_scrub text)

theorem scrub_ne_empty {text : String} (h : text ≠ "") : scrub text ≠ "" := by
  have hchars : text.toList ≠ [] := by simpa using h
  simpa [scrub] using scrubChars_ne_nil hchars

/-- A character that is not a word character is in no scrubbed name. -/
theorem notMem_scrub {c : Char} (h : isWord c = false) (text : String) :
    c ∉ (scrub text).toList := by
  intro hmem
  rw [(isIdentifier_scrub text).word c hmem] at h
  cases h

end Text

/-! ## The list of names -/

namespace Model

open FitProfile.Text

/-- The types whose names are listed: those with values over an integer type. -/
def listedTypes (model : Model) : List TypeDef :=
  model.types.filter fun type => type.isEnumerated && type.base.isInteger

theorem toList_stringerInput (model : Model) : model.stringerInput.toList =
    [','].intercalate (model.listedTypes.map fun type => (scrub type.name).toList) := by
  rw [stringerInput, String.toList_intercalate, List.map_map]
  rfl

/-- Every character of the list is a comma or a word character. -/
theorem mem_stringerInput {model : Model} {c : Char} (h : c ∈ model.stringerInput.toList) :
    c = ',' ∨ isWord c = true := by
  rw [toList_stringerInput] at h
  rcases mem_intercalate h with hcomma | ⟨_, hname, hc⟩
  · exact .inl (List.mem_singleton.mp hcomma)
  · obtain ⟨type, -, rfl⟩ := List.mem_map.mp hname
    exact .inr ((isIdentifier_scrub type.name).word c hc)

theorem split_stringerInput {model : Model} (h : model.listedTypes ≠ []) :
    (splitAtChar ',' model.stringerInput.toList).map String.ofList =
      model.listedTypes.map fun type => scrub type.name := by
  have hcomma : ∀ name ∈ model.listedTypes.map fun type => (scrub type.name).toList, ',' ∉ name :=
    List.forall_mem_map.mpr fun type _ => notMem_scrub (by decide) type.name
  rw [toList_stringerInput, splitAtChar_intercalate (by simpa using h) hcomma, List.map_map]
  exact List.map_congr_left fun type _ => String.ofList_toList

theorem stringerInput_of_render {model : Model} {moment : Option Moment} {profile : Profile}
    (h : model.render moment = .ok profile) : profile.stringerInput = model.stringerInput := by
  obtain ⟨_, -, h⟩ := Outcome.bind_eq_ok.mp h
  obtain ⟨_, -, h⟩ := Outcome.bind_eq_ok.mp h
  obtain ⟨_, -, hpure⟩ := Outcome.bind_eq_ok.mp h
  cases hpure
  rfl

/-- Scrubbing is a projection onto the identifiers that empties no name. And where a type has
values over an integer type, the list in the profile cut at its commas is the scrubbed names of
these types in the order of the model. -/
theorem scrub_and_split :
    (∀ text : String, IsIdentifier (scrub text).toList ∧
      (IsIdentifier text.toList → scrub text = text) ∧ scrub (scrub text) = scrub text ∧
      (text ≠ "" → scrub text ≠ "")) ∧
    ∀ model : Model, (∃ type ∈ model.types, type.isEnumerated ∧ type.base.isInteger) →
      (splitAtChar ',' model.stringerInput.toList).map String.ofList =
        model.listedTypes.map (fun type => scrub type.name) ∧
      ∀ (moment : Option Moment) (profile : Profile), model.render moment = .ok profile →
        profile.stringerInput = model.stringerInput := by
  refine ⟨fun text => ⟨isIdentifier_scrub text, scrub_eq_self_iff.mpr, scrub_scrub text,
    scrub_ne_empty⟩, ?_⟩
  intro model hlisted
  obtain ⟨type, hmem, hvalues, hinteger⟩ := hlisted
  refine ⟨split_stringerInput ?_, fun _ _ => stringerInput_of_render⟩
  apply List.ne_nil_of_mem (a := type)
  exact List.mem_filter.mpr ⟨hmem, by rw [hvalues, hinteger]; rfl⟩

/-- A workbook whose types have names with commas, line feeds and digits in front. The fourth type
has no value, and the fifth one is not over an integer type. -/
def scrubbedBook : Workbook where
  sheets :=
    [("Types",
      [["Type Name", "Base Type", "Value Name", "Value", "Comment"],
       ["mesg_num", "uint16"], ["", "", "event", "21"],
       ["3d,fix", "enum"], ["", "", "on", "1"], ["-2\n", "uint8"], ["", "", "two", "2"],
       ["void", "uint8"], ["ratio", "float32"], ["", "", "one", "1"]]),
     ("Messages",
      [["Message Name", "Field Def #", "Field Name", "Field Type", "Array", "Components", "Scale",
        "Offset", "Units", "Bits", "Accumulate", "Ref Field Name", "Ref Field Value", "Comment"],
       ["event"],
       ["", "3", "data", "uint32"]])]

/-- The comma inside a name is not one of the list. -/
theorem scrubbedBook_split : ∃ (model : Model) (profile : Profile),
    model.LinkedFrom .sdk20 ⟨21, 0⟩ scrubbedBook ∧ model.render none = .ok profile ∧
      scrub (scrub "3d,fix") = "_3d_fix" ∧ IsIdentifier "_3d_fix".toList ∧
      scrub "-2\n" ≠ "" ∧
      (splitAtChar ',' profile.stringerInput.toList).map String.ofList =
        ["mesg_num", "_3d_fix", "_2_"] := by
  have hlinked : ∃ (draft : Draft) (model : Model) (profile : Profile),
      (Draft.ofWorkbook .sdk20 ⟨21, 0⟩ scrubbedBook).outcome = .ok draft ∧
        ofDraft .sdk20 ⟨21, 0⟩ draft = .ok model ∧ model.render none = .ok profile ∧
        model.listedTypes.map (fun type => scrub type.name) = ["mesg_num", "_3d_fix", "_2_"] ∧
        ∃ type ∈ model.types, type.isEnumerated ∧ type.base.isInteger :=
    ⟨_, _, _, rfl, rfl, rfl, rfl, _, List.mem_cons_self, rfl, rfl⟩
  obtain ⟨draft, model, profile, hdraft, hmodel, hrender, hnames, hlisted⟩ := hlinked
  obtain ⟨hscrub, hlists⟩ := scrub_and_split
  obtain ⟨hsplit, hprofile⟩ := hlists model hlisted
  have hname : scrub "3d,fix" = "_3d_fix" := by decide
  obtain ⟨hidentifier, -, htwice, -⟩ := hscrub "3d,fix"
  refine ⟨model, profile, ⟨draft, hdraft, hmodel⟩, hrender, htwice.trans hname,
    hname ▸ hidentifier, (hscrub "-2\n").2.2.2 (by decide), ?_⟩
  rw [hprofile none profile hrender, hsplit, hnames]

end Model

end FitProfile
