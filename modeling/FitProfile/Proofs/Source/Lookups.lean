import FitProfile.Proofs.Source.Forms
import FitProfile.Proofs.Source.Tokens
/-!
# FitProfile.Proofs.Source.Lookups -- linked models can be rendered

What linking checks is enough for rendering. No reference of a linked model is refused
when it is rendered; the only fault left is an integer too long to write. And every type
that the code of the other two modules looks up is a key of the dictionary in the module
of the types.
-/

namespace FitProfile

open FitProfile.Text

namespace Source

/-- A key of the dictionary of the types at the end of a source text: an entry of the
dictionary starts with it. -/
def HasTypeKey (source key : String) : Prop :=
  ∃ before entries, source = text (before ++ block "FIELD_TYPES = \x7b" entries "\x7d") ∧
    Text.quoted key ++ ": FieldType(" ∈ entries

/-- Every type of a model is a key of the dictionary in the module of the types. -/
theorem hasTypeKey_types {model : Model} {moment : Option Moment} {key : String}
    (h : key ∈ typeNames model) : HasTypeKey (text (typesLines model moment)) key := by
  obtain ⟨type, hmem, rfl⟩ := List.mem_map.mp h
  refine ⟨_, _, rfl, List.mem_flatMap.mpr ⟨type, hmem, ?_⟩⟩
  exact List.mem_cons_self ..

theorem LooksUp.mono {declared other : String → Prop} {ts : List Token}
    (h : LooksUp declared ts) (himp : ∀ key, declared key → other key) : LooksUp other ts := by
  intro before after heq
  obtain ⟨key, rest, hkey, hafter⟩ := h before after heq
  exact ⟨key, rest, himp key hkey, hafter⟩

end Source

namespace Model

open Source

/-- What linking checks is enough for rendering. A model that is linked from a workbook is
rendered, with or without a moment, unless an integer in it is too long to write, and all
types that its messages and its profile module look up are keys of its types module. -/
theorem lookups_declared_of_render (rules : RuleSet) (version : Version) (book : Workbook)
    (model : Model) (hmodel : model.LinkedFrom rules version book) (moment : Option Moment) :
    (∀ fault, model.render moment = .error fault → fault = .tooManyDigitsToWrite) ∧
      ∀ profile, model.render moment = .ok profile →
        LooksUp (HasTypeKey profile.types) (tokens profile.messages) ∧
          LooksUp (HasTypeKey profile.types) (tokens profile.profile) := by
  have hrenders := renders_render hmodel.intact moment
  refine ⟨fun fault => hrenders.fault_eq, ?_⟩
  intro profile hprofile
  rw [hrenders.eq_of_ok hprofile]
  simp only [profileOf]
  refine ⟨?_, ?_⟩
  · exact (looksUp_text (lines_messages hmodel.intact moment)).mono fun _ => hasTypeKey_types
  · exact (looksUp_text (lines_profile model moment)).mono fun _ => hasTypeKey_types

/-- The event workbook is rendered with a moment, and looks up none but its three types. -/
theorem eventBook_lookups : ∃ (model : Model) (profile : Profile),
    model.LinkedFrom .sdk20 ⟨21, 0⟩ eventBook ∧ typeNames model = ["mesg_num", "event", "bool"] ∧
      model.render (some ⟨⟨2024, 5, 1⟩, .midnight⟩) = .ok profile ∧
      LooksUp (HasTypeKey profile.types) (tokens profile.messages) ∧
      LooksUp (HasTypeKey profile.types) (tokens profile.profile) := by
  have hrendered : ∃ (model : Model) (profile : Profile),
      model.LinkedFrom .sdk20 ⟨21, 0⟩ eventBook ∧
        typeNames model = ["mesg_num", "event", "bool"] ∧
        model.render (some ⟨⟨2024, 5, 1⟩, .midnight⟩) = .ok profile :=
    ⟨_, _, ⟨_, rfl, rfl⟩, rfl, rfl⟩
  obtain ⟨model, profile, hmodel, hnames, hprofile⟩ := hrendered
  obtain ⟨-, hlookups⟩ := lookups_declared_of_render .sdk20 ⟨21, 0⟩ eventBook model hmodel
    (some ⟨⟨2024, 5, 1⟩, .midnight⟩)
  exact ⟨model, profile, hmodel, hnames, hprofile, hlookups profile hprofile⟩

end Model

end FitProfile
