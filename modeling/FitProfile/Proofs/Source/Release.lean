import FitProfile.Proofs.Generating
import FitProfile.Proofs.RuleSet.Selection
import FitProfile.Proofs.Source.Scalings
/-!
# FitProfile.Proofs.Source.Release -- releases by their scaled numbers

The ranges of the rule sets compare releases part by part, and a minor part may be any number. The
scaled number has two places for it. It orders the releases, and tells them apart, as long as the
minor parts fit into these places; a greater one runs over into the next major release, and one
below zero into the one before. The ranges exclude this only at their ends, so that it can happen to
supported releases (`Version.scaled_lt_or_carries`). In the module of the release the scaled number
stands under its name once, and nothing else does (`Model.scaled_of_render`). So two profiles show
the same one exactly if those of their releases are equal.
-/

namespace FitProfile

open FitProfile.Number FitProfile.Outcome

/-! ## Supported releases -/

namespace RuleSet

variable {version : Version}

/-- The registered rule sets support the major releases 16 to 21. Only at the ends of their ranges
they bound the minor part, and only on one side. -/
theorem exists_select_registered_iff : (∃ rules, select registered version = .ok rules) ↔
    (16 ≤ version.major ∧ version.major ≤ 21) ∧
      (version.major = 16 ∨ version.major = 20 → 0 ≤ version.minor) ∧
      (version.major = 19 ∨ version.major = 21 → version.minor ≤ 99) := by
  rw [exists_select_iff]
  simp only [registered, List.exists_mem_cons_iff, List.not_mem_nil, false_and, exists_false,
    or_false, supports_iff, Version.le_iff, sdk16, sdk20]
  omega

end RuleSet

/-! ## The order of the scaled numbers -/

namespace Version

variable {a b : Version}

theorem scaled_lt_iff (a b : Version) :
    a.scaled < b.scaled ↔ a.minor < b.minor + 100 * (b.major - a.major) := by
  unfold scaled
  omega

/-- A minor part of more than two places, in a major release whose range allows it. -/
def Overruns (v : Version) : Prop := 100 ≤ v.minor ∧ v.major ∈ [16, 17, 18, 20]

/-- A minor part below zero, in a major release whose range allows it. -/
def Underruns (v : Version) : Prop := v.minor < 0 ∧ v.major ∈ [17, 18, 19, 21]

/-- The lower one of two supported releases has the lower scaled number, unless they are of
different major releases and the minor part of one of them does not fit into two places. -/
theorem scaled_lt_or_carries (ha : ∃ rules, RuleSet.select RuleSet.registered a = .ok rules)
    (hb : ∃ rules, RuleSet.select RuleSet.registered b = .ok rules) (hlt : a.lt b = true) :
    a.scaled < b.scaled ∨ a.major < b.major ∧ (a.Overruns ∨ b.Underruns) := by
  rw [RuleSet.exists_select_registered_iff] at ha hb
  rw [lt_iff] at hlt
  rw [scaled_lt_iff]
  simp only [Overruns, Underruns, List.mem_cons, List.not_mem_nil, or_false]
  omega

end Version

/-! ## The scaled number in the module of the release -/

namespace Source

/-- The name of the scaled number, with the blank in front of the equals sign. -/
def scaledName : String := "PROFILE_VERSION_SCALED "

theorem lacks_nameOfNumberLine (m : Message) : Lacks scaledName (nameOfNumberLine m) := by
  apply lacks_of_head
  intro c hc
  rw [nameOfNumberLine, String.append_assoc, String.append_assoc, String.toList_append,
    List.head?_append] at hc
  rcases Option.or_eq_some_iff.mp hc with hnumber | ⟨-, hcolon⟩
  · rcases Text.mem_decimal (List.mem_of_head? hnumber) with rfl | hdigit
    · decide
    · refine ⟨?_, ?_⟩
      · rintro rfl
        cases hdigit
      · rintro ⟨⟩
        cases hdigit
  · rw [String.toList_append] at hcolon
    obtain rfl : ':' = c := Option.some.inj hcolon
    decide

theorem lacks_numberOfNameLine (m : Message) : Lacks scaledName (numberOfNameLine m) := by
  apply lacks_of_head
  intro c hc
  rw [numberOfNameLine, String.append_assoc, String.append_assoc, String.toList_append, Text.quoted,
    String.toList_ofList] at hc
  obtain rfl : Text.quoteFor m.name.toList = c := Option.some.inj hc
  rcases Text.isQuote_quoteFor m.name.toList with hquote | hquote <;> rw [hquote] <;> decide

theorem arguments_timestampType (types : List TypeDef) :
    arguments scaledName (timestampType types).1 = [] := by
  unfold timestampType
  split <;> exact arguments_eq_nil (by decide)

/-- Under its name the module of the release has the scaled number, once. -/
theorem arguments_profileLines (model : Model) (moment : Option Moment) :
    arguments scaledName (profileLines model moment) =
      [' ' :: (decimal model.version.scaled).toList] := by
  have hversion : Lacks scaledName ("PROFILE_VERSION = (" ++ decimal model.version.major ++ ", " ++
      decimal model.version.minor ++ ")") := by
    unfold Lacks
    simp only [String.toList_append]
    rfl
  have hscaled : argument? scaledName
      ("PROFILE_VERSION_SCALED = " ++ decimal model.version.scaled).toList =
        some (' ' :: (decimal model.version.scaled).toList) := by
    rw [String.toList_append]
    rfl
  have htimestamp : ∀ type, Lacks scaledName ("FIELD_TYPE_TIMESTAMP = Field(name=" ++
      Text.quoted "timestamp" ++ ", type=" ++ type ++ ", def_num=" ++ decimal timestampNumber ++
      ", units=" ++ Text.quoted "s" ++ ")") := by
    intro type
    unfold Lacks
    simp only [String.toList_append]
    rfl
  have hnames : arguments scaledName (model.messages.map nameOfNumberLine) = [] :=
    arguments_eq_nil (List.forall_mem_map.mpr fun m _ => lacks_nameOfNumberLine m)
  have hnumbers : arguments scaledName (model.messages.map numberOfNameLine) = [] :=
    arguments_eq_nil (List.forall_mem_map.mpr fun m _ => lacks_numberOfNameLine m)
  have hhead : arguments scaledName (header .profile model.version moment) = [] :=
    arguments_header (by decide) _ _ _
  have hrelease : arguments scaledName ["", "",
      "PROFILE_VERSION = (" ++ decimal model.version.major ++ ", " ++
        decimal model.version.minor ++ ")",
      "PROFILE_VERSION_SCALED = " ++ decimal model.version.scaled, ""] =
        [' ' :: (decimal model.version.scaled).toList] := by
    have hempty : Lacks scaledName "" := by decide
    rw [arguments_cons_of_lacks hempty, arguments_cons_of_lacks hempty,
      arguments_cons_of_lacks hversion, arguments_cons_of_argument hscaled,
      arguments_cons_of_lacks hempty, arguments_nil]
  have hempty : arguments scaledName [""] = [] := arguments_eq_nil (by decide)
  rw [profileLines]
  simp only [arguments_append]
  rw [hhead, arguments_timestampType, hrelease, hempty, arguments_block (by decide) (by decide),
    hnames, arguments_block (by decide) (by decide), hnumbers,
    arguments_cons_of_lacks (htimestamp _)]
  rfl

end Source

namespace Model

/-- Whatever model is rendered, the scaled number of its release stands under its name, once. -/
theorem scaled_of_render {model : Model} {moment : Option Moment} {profile : Profile}
    (h : model.render moment = .ok profile) :
    Source.argumentsIn Source.scaledName profile.profile =
      [' ' :: (decimal model.version.scaled).toList] := by
  obtain ⟨-, -, -, hprofile⟩ := Source.render_eq_ok h
  rw [hprofile, Source.argumentsIn_text _ (Source.unbroken_profileLines model moment),
    Source.arguments_profileLines]

/-- Two profiles show the same scaled number exactly if their releases have the same. -/
theorem scaled_eq_iff_of_render {model other : Model} {moment moment' : Option Moment}
    {profile profile' : Profile} (h : model.render moment = .ok profile)
    (h' : other.render moment' = .ok profile') :
    Source.argumentsIn Source.scaledName profile.profile =
        Source.argumentsIn Source.scaledName profile'.profile ↔
      model.version.scaled = other.version.scaled := by
  rw [scaled_of_render h, scaled_of_render h']
  constructor
  · intro heq
    obtain ⟨-, hchars⟩ := List.cons.inj (List.singleton_injective heq)
    exact Text.decimal_inj (String.toList_inj.mp hchars)
  · intro heq
    rw [heq]

end Model

namespace Generator

/-- What is rendered for a release comes from a model of that release. -/
theorem exists_model_of_render {rules : RuleSet} {version : Version} {moment : Option Moment}
    {book : Workbook} {profile : Profile}
    (h : (render rules version moment book).outcome = .ok profile) :
    ∃ model : Model, model.version = version ∧ model.render moment = .ok profile := by
  obtain ⟨draft, model, -, hmodel, hprofile⟩ := render_eq_ok.mp h
  obtain ⟨-, hversion, -⟩ := Model.ofDraft_eq_ok hmodel
  exact ⟨model, hversion, hprofile⟩

end Generator

/-! ## Releases that the scaled number keeps apart -/

namespace Version

/-- Of two supported releases, the lower one has the lower scaled number exactly if its minor part
does not reach beyond the other release. That can only fail between two major releases, where a
minor part takes more than two places or is below zero; the ranges of the rule sets leave room for
that. A rendered profile shows the scaled number of its release once, and so two profiles show the
same one exactly if their releases have the same. -/
theorem scaled_of_supported (a b : Version)
    (ha : ∃ rules, RuleSet.select RuleSet.registered a = .ok rules)
    (hb : ∃ rules, RuleSet.select RuleSet.registered b = .ok rules) (hlt : a.lt b = true) :
    (a.scaled < b.scaled ↔ a.minor < b.minor + 100 * (b.major - a.major)) ∧
      (a.scaled < b.scaled ∨ a.major < b.major ∧ (a.Overruns ∨ b.Underruns)) ∧
      ∀ (model other : Model) (moment moment' : Option Moment) (profile profile' : Profile),
        model.version = a → other.version = b → model.render moment = .ok profile →
        other.render moment' = .ok profile' →
          Source.argumentsIn Source.scaledName profile.profile =
              [' ' :: (decimal a.scaled).toList] ∧
            (Source.argumentsIn Source.scaledName profile.profile =
              Source.argumentsIn Source.scaledName profile'.profile ↔ a.scaled = b.scaled) := by
  refine ⟨scaled_lt_iff a b, scaled_lt_or_carries ha hb hlt, ?_⟩
  rintro model other moment moment' profile profile' rfl rfl h h'
  exact ⟨Model.scaled_of_render h, Model.scaled_eq_iff_of_render h h'⟩

/-- A workbook with a message of one field, for every release. -/
def lapBook : Workbook where
  sheets :=
    [("Types",
      [["Type Name", "Base Type", "Value Name", "Value", "Comment"],
       ["mesg_num", "uint16"], ["", "", "lap", "19"]]),
     ("Messages",
      [["Message Name", "Field Def #", "Field Name", "Field Type", "Array", "Components", "Scale",
        "Offset", "Units", "Bits", "Accumulate", "Ref Field Name", "Ref Field Value", "Comment"],
       ["lap"],
       ["", "0", "count", "uint16"]])]

/-- The last release of the first rule set and the first one of the second have different scaled
numbers in the profiles of one workbook. -/
theorem scaled_of_neighbours : ∃ profile profile',
    (Generator.render .sdk16 ⟨19, 99⟩ none lapBook).outcome = .ok profile ∧
      (Generator.render .sdk20 ⟨20, 0⟩ none lapBook).outcome = .ok profile' ∧
      (⟨19, 99⟩ : Version).scaled < (⟨20, 0⟩ : Version).scaled ∧
      Source.argumentsIn Source.scaledName profile.profile ≠
        Source.argumentsIn Source.scaledName profile'.profile := by
  have hrendered : ∃ profile profile',
      (Generator.render .sdk16 ⟨19, 99⟩ none lapBook).outcome = .ok profile ∧
        (Generator.render .sdk20 ⟨20, 0⟩ none lapBook).outcome = .ok profile' := ⟨_, _, rfl, rfl⟩
  obtain ⟨profile, profile', h, h'⟩ := hrendered
  obtain ⟨model, hversion, hmodel⟩ := Generator.exists_model_of_render h
  obtain ⟨other, hversion', hother⟩ := Generator.exists_model_of_render h'
  obtain ⟨hlt, -, hsame⟩ :=
    scaled_of_supported ⟨19, 99⟩ ⟨20, 0⟩ ⟨.sdk16, rfl⟩ ⟨.sdk20, rfl⟩ (by decide)
  refine ⟨profile, profile', h, h', hlt.mpr (by decide), ?_⟩
  rw [ne_eq, (hsame model other none none profile profile' hversion hversion' hmodel hother).2]
  decide

/-- Release 16.100 lies below 17.0, and a rule set supports both. They have the same scaled number,
and the profiles of one workbook show it for both. -/
theorem scaled_of_longMinor :
    RuleSet.select RuleSet.registered ⟨16, 100⟩ = .ok .sdk16 ∧
      RuleSet.select RuleSet.registered ⟨17, 0⟩ = .ok .sdk16 ∧
      (⟨16, 100⟩ : Version).lt ⟨17, 0⟩ = true ∧
      ¬ (⟨16, 100⟩ : Version).scaled < (⟨17, 0⟩ : Version).scaled ∧
      ∃ profile profile',
        (Generator.render .sdk16 ⟨16, 100⟩ none lapBook).outcome = .ok profile ∧
          (Generator.render .sdk16 ⟨17, 0⟩ none lapBook).outcome = .ok profile' ∧
          Source.argumentsIn Source.scaledName profile.profile = [" 1700".toList] ∧
          Source.argumentsIn Source.scaledName profile'.profile = [" 1700".toList] := by
  have hrendered : ∃ profile profile',
      (Generator.render .sdk16 ⟨16, 100⟩ none lapBook).outcome = .ok profile ∧
        (Generator.render .sdk16 ⟨17, 0⟩ none lapBook).outcome = .ok profile' := ⟨_, _, rfl, rfl⟩
  obtain ⟨profile, profile', h, h'⟩ := hrendered
  refine ⟨rfl, rfl, by decide, by decide, profile, profile', h, h', ?_, ?_⟩
  · obtain ⟨model, hversion, hmodel⟩ := Generator.exists_model_of_render h
    rw [Model.scaled_of_render hmodel, hversion]
    rfl
  · obtain ⟨model, hversion, hmodel⟩ := Generator.exists_model_of_render h'
    rw [Model.scaled_of_render hmodel, hversion]
    rfl

end Version

end FitProfile
