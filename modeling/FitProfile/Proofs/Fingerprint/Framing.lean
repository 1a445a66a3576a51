import FitProfile.Fingerprint.Stream
import FitProfile.Proofs.RowOrder
import FitProfile.Proofs.Source.Outline
import FitProfile.Proofs.Source.StringerInput
/-!
# FitProfile.Proofs.Fingerprint.Framing -- the framed text identifies the profile

The frame of a profile has no lengths and no escapes: the parts stand one behind the other, with
marker lines between them. They can be told apart all the same. No line of a module is a marker,
since the body of a block is indented and the other lines have other beginnings
(`unmarked_types`, `unmarked_messages`, `unmarked_profile`), so each module ends in front of the
first marker; the input of the stringer tool has no line feed, so it ends with its line. The
message numbers without a message stand last, and as they are: their names may hold line feeds,
but the modules of the types and of the messages already decide which they are.
-/

namespace FitProfile

namespace Source

open FitProfile.Number FitProfile.Text

/-! ## Reading up to a marker -/

/-- Lines up to a marker are read back off a text, whatever follows the marker. -/
theorem lines_append_inj {marker : String} {lines others : List String} {rest more : List Char}
    (hmarker : '\n' ∉ marker.toList)
    (hl : ∀ line ∈ lines, '\n' ∉ line.toList) (ho : ∀ line ∈ others, '\n' ∉ line.toList)
    (hlines : marker ∉ lines) (hothers : marker ∉ others)
    (h : (text lines).toList ++ (marker.toList ++ '\n' :: rest) =
      (text others).toList ++ (marker.toList ++ '\n' :: more)) :
    lines = others ∧ rest = more := by
  simp only [toList_text] at h
  -- where one list of lines ends first, the next line of the other one is the marker
  induction lines generalizing others with
  | nil =>
    cases others with
    | nil =>
      simp only [List.flatMap_nil, List.nil_append] at h
      exact ⟨rfl, (append_cons_inj hmarker hmarker h).2⟩
    | cons other others =>
      simp only [List.flatMap_nil, List.nil_append, List.flatMap_cons, List.append_assoc,
        List.cons_append] at h
      have heq := String.toList_inj.mp (append_cons_inj hmarker (ho other (by simp)) h).1
      exact absurd (by simp [heq]) hothers
  | cons line lines ih =>
    cases others with
    | nil =>
      simp only [List.flatMap_nil, List.nil_append, List.flatMap_cons, List.append_assoc,
        List.cons_append] at h
      have heq := String.toList_inj.mp (append_cons_inj (hl line (by simp)) hmarker h).1
      exact absurd (by simp [heq]) hlines
    | cons other others =>
      simp only [List.flatMap_cons, List.append_assoc, List.cons_append] at h
      obtain ⟨hline, hrest⟩ := append_cons_inj (hl line (by simp)) (ho other (by simp)) h
      rw [List.mem_cons, not_or] at hlines hothers
      obtain ⟨rfl, hmore⟩ := ih (fun l hmem => hl l (by simp [hmem]))
        (fun l hmem => ho l (by simp [hmem])) hlines.2 hothers.2 hrest
      exact ⟨by rw [String.toList_inj.mp hline], hmore⟩

/-! ## No line of a module is a marker -/

/-- The lines in front of the parts behind the first one. -/
def markers : List String := ["# MESSAGES", "# PROFILE", "# STRINGER TYPE INPUT"]

/-- What markers begin with. -/
def markerStarts : List (List Char) := markers.map fun marker => marker.toList.take 3

/-- Lists of lines without a marker. -/
def Unmarked (lines : List String) : Prop := ∀ line ∈ lines, line ∉ markers

instance (lines : List String) : Decidable (Unmarked lines) :=
  inferInstanceAs (Decidable (∀ line ∈ lines, line ∉ markers))

theorem newline_notMem_marker : ∀ marker ∈ markers, '\n' ∉ marker.toList := by decide

theorem outer_marker : ∀ marker ∈ markers, Outer marker := by decide

/-- A line with another beginning is not a marker. -/
theorem notMarker_append {start : String}
    (h : 3 ≤ start.toList.length ∧ start.toList.take 3 ∉ markerStarts) (rest : String) :
    start ++ rest ∉ markers := by
  intro hmem
  apply h.2
  have htake : (start ++ rest).toList.take 3 = start.toList.take 3 := by
    rw [String.toList_append, List.take_append_of_le_length h.1]
  rw [← htake]
  exact List.mem_map_of_mem hmem

theorem Unmarked.append {lines others : List String} (hl : Unmarked lines)
    (ho : Unmarked others) : Unmarked (lines ++ others) := by
  intro line hmem
  rcases List.mem_append.mp hmem with hmem | hmem
  · exact hl line hmem
  · exact ho line hmem

theorem Unmarked.cons {line : String} {lines : List String} (h : line ∉ markers)
    (hl : Unmarked lines) : Unmarked (line :: lines) := by
  intro other hmem
  rcases List.mem_cons.mp hmem with rfl | hmem
  · exact h
  · exact hl other hmem

/-- The body of a block is indented, whatever it holds. -/
theorem Unmarked.block {head foot : String} (h : head ∉ markers ∧ foot ∉ markers)
    (body : List String) : Unmarked (block head body foot) := by
  have hbody : Unmarked (body.map deeper) := by
    intro line hline hmarker
    obtain ⟨inner, -, rfl⟩ := List.mem_map.mp hline
    exact deeper_ne_outer (outer_marker _ hmarker) rfl
  show Unmarked (head :: body.map deeper ++ [foot])
  apply (Unmarked.cons h.1 hbody).append
  intro line hmem
  rw [List.mem_singleton.mp hmem]
  exact h.2

theorem unmarked_header (m : Module) (version : Version) : Unmarked (header m version none) := by
  have hbanner : Unmarked banner := by decide
  have htitle : "# " ++ m.fileName ++ " -- " ++ m.title ∉ markers := by cases m <;> decide
  have hrelease : "# Exported from FIT SDK " ++ version.text ++ " Profile" ∉ markers := by
    rw [String.append_assoc]
    exact notMarker_append (by decide) _
  show Unmarked (banner ++ ["#", _, _] ++ [] ++ ["#", ""])
  refine ((hbanner.append ?_).append (by decide)).append (by decide)
  exact .cons (by decide) (.cons htitle (.cons hrelease (by decide)))

theorem unmarked_types (model : Model) : Unmarked (typesLines model none) := by
  apply Unmarked.append
  · exact (unmarked_header _ _).append (by decide)
  · exact .block (by decide) _

theorem unmarked_messages (model : Model) : Unmarked (messagesText model none) := by
  apply Unmarked.append
  · exact (unmarked_header _ _).append (by decide)
  · exact .block (by decide) _

theorem unmarked_profile (model : Model) : Unmarked (profileLines model none) := by
  have himports : Unmarked (timestampType model.types).1 := by
    unfold timestampType
    split <;> decide
  have hversion : Unmarked ["", "",
      "PROFILE_VERSION = (" ++ decimal model.version.major ++ ", " ++
        decimal model.version.minor ++ ")",
      "PROFILE_VERSION_SCALED = " ++ decimal model.version.scaled, ""] := by
    refine .cons (by decide) (.cons (by decide) (.cons ?_ (.cons ?_ (by decide))))
    · simp only [String.append_assoc]
      exact notMarker_append (by decide) _
    · exact notMarker_append (by decide) _
  have htimestamp : Unmarked ["FIELD_TYPE_TIMESTAMP = Field(name=" ++ Text.quoted "timestamp" ++
      ", type=" ++ (timestampType model.types).2 ++ ", def_num=" ++ decimal timestampNumber ++
      ", units=" ++ Text.quoted "s" ++ ")"] := by
    refine .cons ?_ (by decide)
    simp only [String.append_assoc]
    exact notMarker_append (by decide) _
  have hempty : Unmarked [""] := by decide
  have hnumbers :
      Unmarked (block "MESG_NUMS = \x7b" (model.messages.map nameOfNumberLine) "\x7d") :=
    .block (by decide) _
  have hnames : Unmarked (block "MESG_NAMES = \x7b" (model.messages.map numberOfNameLine) "\x7d") :=
    .block (by decide) _
  have hhead := ((unmarked_header .profile model.version).append himports).append hversion
  exact ((((hhead.append hnumbers).append hempty).append hnames).append hempty).append htimestamp

/-! ## The parts of a stream -/

theorem newline_notMem_stringerInput (model : Model) : '\n' ∉ model.stringerInput.toList := by
  intro hmem
  rcases Model.mem_stringerInput hmem with hcomma | hword
  · exact absurd hcomma (by decide)
  · exact absurd hword (by decide)

/-- The stream of a profile, with the ends of its marker lines in sight. -/
theorem toList_stream (p : Profile) : p.stream.toList =
    "# TYPES\n".toList ++ (p.types.toList ++
      ("# MESSAGES".toList ++ '\n' :: (p.messages.toList ++
        ("# PROFILE".toList ++ '\n' :: (p.profile.toList ++
          ("# STRINGER TYPE INPUT".toList ++ '\n' :: (p.stringerInput.toList ++
            '\n' :: ("# MESSAGE NUMS WITHOUT MESSAGE\n".toList ++
              (String.join (p.unmatched.map fun name => name ++ "\n")).toList)))))))) := by
  have hmessages : "# MESSAGES\n".toList = "# MESSAGES".toList ++ ['\n'] := by decide
  have hprofile : "# PROFILE\n".toList = "# PROFILE".toList ++ ['\n'] := by decide
  have hstringer : "# STRINGER TYPE INPUT\n".toList = "# STRINGER TYPE INPUT".toList ++ ['\n'] := by
    decide
  have hunmatched : "\n# MESSAGE NUMS WITHOUT MESSAGE\n".toList =
      '\n' :: "# MESSAGE NUMS WITHOUT MESSAGE\n".toList := by decide
  unfold Profile.stream
  simp only [String.toList_append, List.append_assoc]
  rw [hmessages, hprofile, hstringer, hunmatched]
  simp only [List.append_assoc, List.cons_append, List.nil_append]

/-- A stream determines the modules and the input of the stringer tool. -/
theorem parts_of_stream {model other : Model} (hm : model.Intact) (ho : other.Intact)
    (h : (profileOf model none).stream = (profileOf other none).stream) :
    typesLines model none = typesLines other none ∧
      messagesText model none = messagesText other none ∧
      profileLines model none = profileLines other none ∧
      model.stringerInput = other.stringerInput := by
  have hchars := congrArg String.toList h
  rw [toList_stream, toList_stream] at hchars
  simp only [profileOf] at hchars
  have htypesNewline : ∀ model : Model, ∀ line ∈ typesLines model none, '\n' ∉ line.toList := by
    intro model
    have hlines : Lines [] (typesLines model none) := lines_types model none
    exact hlines.newline_notMem
  have hprofileNewline : ∀ model : Model, ∀ line ∈ profileLines model none, '\n' ∉ line.toList :=
    fun model => (lines_profile model none).newline_notMem
  have hmarkers := newline_notMem_marker
  -- the parts are read one after the other, each up to the marker of the next one
  obtain ⟨htypes, hchars⟩ := lines_append_inj (hmarkers _ (by decide)) (htypesNewline model)
    (htypesNewline other) (fun hmem => unmarked_types model _ hmem (by decide))
    (fun hmem => unmarked_types other _ hmem (by decide)) (List.append_cancel_left hchars)
  obtain ⟨hmessages, hchars⟩ := lines_append_inj (hmarkers _ (by decide))
    (lines_messages hm none).newline_notMem (lines_messages ho none).newline_notMem
    (fun hmem => unmarked_messages model _ hmem (by decide))
    (fun hmem => unmarked_messages other _ hmem (by decide)) hchars
  obtain ⟨hprofile, hchars⟩ := lines_append_inj (hmarkers _ (by decide)) (hprofileNewline model)
    (hprofileNewline other) (fun hmem => unmarked_profile model _ hmem (by decide))
    (fun hmem => unmarked_profile other _ hmem (by decide)) hchars
  obtain ⟨hstringer, -⟩ := append_cons_inj (newline_notMem_stringerInput model)
    (newline_notMem_stringerInput other) hchars
  exact ⟨htypes, hmessages, hprofile, String.toList_inj.mp hstringer⟩

end Source

/-! ## Streams of workbooks -/

namespace Generator

/-- The framed text, and so its bytes, identifies the profile: two workbooks with the same stream
have equal profiles in all five parts, if the same type numbers the messages. -/
theorem profile_of_stream (rules rules' : RuleSet) (version version' : Version)
    (book book' : Workbook) (profile profile' : Profile)
    (hrender : (render rules version none book).outcome = .ok profile)
    (hrender' : (render rules' version' none book').outcome = .ok profile')
    (hnumbers : rules.messageNumberType = rules'.messageNumberType)
    (hstream : profile.stream.toUTF8 = profile'.stream.toUTF8) : profile = profile' := by
  obtain ⟨draft, model, hdraft, hmodel, hrender⟩ := render_eq_ok.mp hrender
  obtain ⟨draft', model', hdraft', hmodel', hrender'⟩ := render_eq_ok.mp hrender'
  have hlinked : model.LinkedFrom rules version book := ⟨draft, hdraft, hmodel⟩
  have hlinked' : model'.LinkedFrom rules' version' book' := ⟨draft', hdraft', hmodel'⟩
  have hprofile := (Source.renders_render hlinked.intact none).eq_of_ok hrender
  have hprofile' := (Source.renders_render hlinked'.intact none).eq_of_ok hrender'
  have htext := String.toByteArray_inj.mp hstream
  rw [hprofile, hprofile'] at htext
  obtain ⟨htypes, hmessages, hmodule, hstringer⟩ :=
    Source.parts_of_stream hlinked.intact hlinked'.intact htext
  -- the modules decide the names without a message, which the stream shows only as they are
  have houtline : model.outline = model'.outline :=
    Source.outline_of_text hlinked.intact hlinked'.intact (congrArg Source.text htypes)
      (congrArg Source.text hmessages)
  have hunmatched : model.unmatched = model'.unmatched :=
    hlinked.unmatched_eq hlinked' hnumbers houtline
  rw [hprofile, hprofile', Source.profileOf, Source.profileOf, htypes, hmessages, hmodule,
    hstringer, hunmatched]

/-- A workbook with line feeds and marker lines in its names and remarks. -/
def markedBook (remark : String) : Workbook where
  sheets :=
    [("Version", [["21.0"]]),
     ("Types",
      [["Type Name", "Base Type", "Value Name", "Value", "Comment"],
       ["mesg_num", "uint16"], ["", "", "lap\n# PROFILE\n", "19", "x\n# STRINGER TYPE INPUT\n"],
       ["", "", "event", "21"], ["\n# MESSAGES\n", "enum"], ["", "", "# PROFILE", "0"]]),
     ("Messages",
      [["Message Name", "Field Def #", "Field Name", "Field Type", "Array", "Components", "Scale",
        "Offset", "Units", "Bits", "Accumulate", "Ref Field Name", "Ref Field Value", "Comment"],
       ["event"],
       ["", "0", "# MESSAGES\n", "\n# MESSAGES\n", "", "", "", "", "", "", "", "", "", remark]])]

/-- A remark on a field leaves the stream as it is, so it leaves the profile. -/
theorem markedBook_profile : ∃ profile profile' : Profile,
    (render .sdk20 ⟨21, 0⟩ none (markedBook "")).outcome = .ok profile ∧
      (render .sdk20 ⟨21, 0⟩ none (markedBook "\n# PROFILE\n")).outcome = .ok profile' ∧
      RuleSet.sdk20.messageNumberType = RuleSet.sdk20.messageNumberType ∧
      profile.stream.toUTF8 = profile'.stream.toUTF8 ∧ profile = profile' := by
  have hrendered : ∃ profile profile' : Profile,
      (render .sdk20 ⟨21, 0⟩ none (markedBook "")).outcome = .ok profile ∧
        (render .sdk20 ⟨21, 0⟩ none (markedBook "\n# PROFILE\n")).outcome = .ok profile' ∧
        profile.stream.toUTF8 = profile'.stream.toUTF8 :=
    ⟨_, _, rfl, rfl, rfl⟩
  obtain ⟨profile, profile', hrender, hrender', hstream⟩ := hrendered
  exact ⟨profile, profile', hrender, hrender', rfl, hstream,
    profile_of_stream .sdk20 .sdk20 ⟨21, 0⟩ ⟨21, 0⟩ (markedBook "") (markedBook "\n# PROFILE\n")
      profile profile' hrender hrender' rfl hstream⟩

end Generator

end FitProfile
