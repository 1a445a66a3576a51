import FitProfile.Proofs.CommandLine.Overwriting
import FitProfile.Proofs.Source.Forms
/-!
# FitProfile.Proofs.CommandLine.Outputs -- the files of a profile

A profile is written to four files of different names in one directory. The three modules start
with the banner of generated files, and they still bear it when line ends are brought to a line
feed. For each way in which writing can go (`Writes`) it is shown here what the files hold
afterwards, which of them may have been written, and that writing the same profile once more
changes nothing.
-/

namespace FitProfile.CommandLine

open FitProfile.Outcome FileTree

variable {tree last : FileTree} {directory : String} {p : Profile} {ending? : Option Ending}

/-! ## The banner in what is generated -/

theorem unixLines_append {cs : List Char} (h : '\r' ∉ cs) (ds : List Char) :
    unixLines (cs ++ ds) = cs ++ unixLines ds := by
  induction cs with
  | nil => rfl
  | cons c cs ih =>
    rw [List.mem_cons, not_or] at h
    rw [List.cons_append, unixLines, ih h.2]
    · rfl
    · rintro rest rfl -
      exact h.1 rfl
    · rintro rfl
      exact h.1 rfl

theorem occursIn_append (part rest : List Char) : occursIn part (part ++ rest) = true := by
  have hfront : part.isPrefixOf (part ++ rest) = true :=
    List.isPrefixOf_iff_prefix.mpr (List.prefix_append part rest)
  cases hwhole : part ++ rest with
  | nil =>
    rw [(List.append_eq_nil_iff.mp hwhole).1]
    rfl
  | cons c cs =>
    rw [hwhole] at hfront
    rw [occursIn, hfront, Bool.true_or]

theorem carriageReturn_notMem_bannerText : '\r' ∉ Source.bannerText.toList := by
  have hlines : ∀ line ∈ Source.banner, '\r' ∉ line.toList := by
    simp only [Source.banner, List.forall_mem_cons]
    exact ⟨Source.notMem_rule (by decide) _,
      Source.notMem_bannerLine (by decide) (by decide) (by decide),
      Source.notMem_rule (by decide) _, by simp⟩
  intro hmem
  rw [Source.bannerText, String.toList_intercalate] at hmem
  rcases Text.mem_intercalate hmem with hfeed | ⟨part, hpart, hchar⟩
  · exact absurd hfeed (by decide)
  · obtain ⟨line, hline, rfl⟩ := List.mem_map.mp hpart
    exact hlines line hline hchar

/-- Lines are a text whose lines are joined by line feeds, with one more at the end. -/
theorem toList_text_cons (line : String) (lines : List String) :
    (Source.text (line :: lines)).toList = ("\n".intercalate (line :: lines)).toList ++ ['\n'] := by
  rw [Source.toList_text, String.toList_intercalate]
  induction lines generalizing line with
  | nil => simp
  | cons next lines ih =>
    rw [List.flatMap_cons, ih]
    simp only [List.map_cons, List.intercalate_cons_cons, List.append_assoc]
    rfl

/-- A module bears the banner, whatever follows its head. -/
theorem hasBanner_header (m : Source.Module) (version : Version) (moment : Option Moment)
    (lines : List String) :
    hasBanner (Source.text (Source.header m version moment ++ lines)) = true := by
  have hbanner : ∀ lines, hasBanner (Source.text (Source.banner ++ lines)) = true := by
    intro lines
    have hstart : (Source.text (Source.banner ++ lines)).toList =
        Source.bannerText.toList ++ '\n' :: (Source.text lines).toList := by
      have hown : (Source.text Source.banner).toList = Source.bannerText.toList ++ ['\n'] :=
        toList_text_cons _ _
      rw [Source.toList_text] at hown ⊢
      rw [List.flatMap_append, hown, Source.toList_text, List.append_assoc]
      rfl
    unfold hasBanner
    rw [hstart, unixLines_append carriageReturn_notMem_bannerText]
    exact occursIn_append _ _
  unfold Source.header
  simp only [List.append_assoc]
  exact hbanner _

/-- All modules of a profile bear the banner. -/
theorem hasBanner_of_render {model : Model} {moment : Option Moment}
    (h : model.render moment = .ok p) :
    ∀ file ∈ moduleFiles directory p, hasBanner file.2 = true := by
  obtain ⟨_, -, h⟩ := bind_eq_ok.mp h
  obtain ⟨messages, hmessages, h⟩ := bind_eq_ok.mp h
  obtain ⟨_, -, hpure⟩ := bind_eq_ok.mp h
  cases hpure
  obtain ⟨entries, -, hlines⟩ := bind_eq_ok.mp hmessages
  cases hlines
  simp only [moduleFiles, List.forall_mem_cons, List.not_mem_nil, false_implies, implies_true,
    and_true, Source.typesLines, Source.profileLines, List.append_assoc]
  exact ⟨hasBanner_header _ _ _ _, hasBanner_header _ _ _ _, hasBanner_header _ _ _ _⟩

/-! ## The files of a profile -/

/-- The names of the files that a profile is written to. -/
def outputNames : List String :=
  [Source.Module.types.fileName, Source.Module.messages.fileName, Source.Module.profile.fileName,
   stringerFileName]

theorem isName_of_mem_outputNames {name : String} (h : name ∈ outputNames) :
    Path.IsName name := by
  simp only [outputNames, List.mem_cons, List.not_mem_nil, or_false] at h
  rcases h with rfl | rfl | rfl | rfl
  · exact isName_fileName _
  · exact isName_fileName _
  · exact isName_fileName _
  · exact isName_stringerFileName

theorem map_fst_outputFiles (directory : String) (p : Profile) :
    (outputFiles directory p).map Prod.fst = outputNames.map (Path.join directory) := rfl

theorem exists_name_of_mem_outputFiles {file : String × String}
    (h : file ∈ outputFiles directory p) :
    ∃ name, Path.IsName name ∧ file.1 = Path.join directory name := by
  have hmem := List.mem_map_of_mem (f := Prod.fst) h
  rw [map_fst_outputFiles] at hmem
  obtain ⟨name, hname, heq⟩ := List.mem_map.mp hmem
  exact ⟨name, isName_of_mem_outputNames hname, heq.symm⟩

/-- No two files of a profile are the same. -/
theorem pairwise_outputFiles (hdirectory : directory.toList ≠ []) (p : Profile) :
    (outputFiles directory p).Pairwise fun file other =>
      ∀ (tree : FileTree) path, tree.LeadsTo file.1 path → ¬ tree.LeadsTo other.1 path := by
  have hdistinct : outputNames.Nodup := by decide
  have hpairs : ((outputFiles directory p).map Prod.fst).Pairwise fun s other =>
      ∀ (tree : FileTree) path, tree.LeadsTo s path → ¬ tree.LeadsTo other path := by
    rw [map_fst_outputFiles, List.pairwise_map]
    refine hdistinct.imp_of_mem ?_
    intro name other hname hother hne tree path hleads hleads'
    have hlast := getLast?_of_leadsTo_join hdirectory (isName_of_mem_outputNames hname) hleads
    have hlast' := getLast?_of_leadsTo_join hdirectory (isName_of_mem_outputNames hother) hleads'
    exact hne (Option.some.inj (hlast.symm.trans hlast'))
  exact List.pairwise_map.mp hpairs

/-- A file that cannot be written in a directory that is there: its text is too long, or a
directory stands in its place. -/
def Blocked (tree : FileTree) (s : String) : Prop :=
  longestPath < s.utf8ByteSize ∨ tree.hasDirectory s = true

/-- Where one file of a profile has been written, the directory is there, so another one that cannot
be written is blocked. -/
theorem blocked_of_write_error {first file : String × String} {fault : FileFault}
    (hdirectory : directory.toList ≠ []) (hfirst : first ∈ outputFiles directory p)
    (hleads : ∃ path, last.LeadsTo first.1 path) (hfile : file ∈ outputFiles directory p)
    (herror : last.write file.1 file.2 = .error fault) : Blocked last file.1 := by
  obtain ⟨name, hname, hfirst⟩ := exists_name_of_mem_outputFiles hfirst
  obtain ⟨other, hother, hfile⟩ := exists_name_of_mem_outputFiles hfile
  obtain ⟨path, hpath⟩ := hleads
  rw [hfirst, leadsTo_join_iff hdirectory hname] at hpath
  obtain ⟨-, above, -, habove⟩ := hpath
  rw [hfile] at herror ⊢
  by_cases hlong : longestPath < (Path.join directory other).utf8ByteSize
  · exact .inl hlong
  · exact .inr (hasDirectory_of_write_error hdirectory (hasDirectory_iff.mpr ⟨above, habove⟩)
      hother herror (Nat.le_of_not_lt hlong))

namespace Writes

/-- When all files have been written, they hold what they should. -/
theorem read (hdirectory : directory.toList ≠ []) (h : Writes tree directory p last ending?)
    (hnone : ending? = none) :
    ∀ file ∈ outputFiles directory p, last.read file.1 = .ok (.text file.2) := by
  cases h with
  | refused h => cases hnone
  | unchecked h => cases hnone
  | unmade h => cases hnone
  | begun hchecks hmade =>
    refine read_of_writeFiles (Option.map_eq_none_iff.mp hnone) ?_
      (pairwise_outputFiles hdirectory p)
    intro file hfile
    obtain ⟨name, hname, heq⟩ := exists_name_of_mem_outputFiles hfile
    rw [heq]
    exact Path.endsInSlash_join hname

/-- Where a file cannot be written, all files are as before, or it comes behind the first one. -/
theorem stops (hdirectory : directory.toList ≠ []) (h : Writes tree directory p last ending?)
    (hsome : ending? ≠ none) :
    SameFiles tree last ∨ (∃ fault, ending? = some (.fileFault fault)) ∧
      (∀ m : Source.Module, checkOverwrite tree (Path.join directory m.fileName) = .ok ()) ∧
      ∃ s ∈ (outputFileNames directory).tail, Blocked last s := by
  cases h with
  | refused h => exact .inl fun _ _ => Iff.rfl
  | unchecked h => exact .inl fun _ _ => Iff.rfl
  | unmade h =>
    have hsame := sameFiles_makeDirectories tree directory
    rw [h] at hsame
    exact .inl hsame
  | @begun made log hchecks hmade =>
    have hsame := sameFiles_makeDirectories tree directory
    rw [hmade] at hsame
    obtain ⟨fault, hfault⟩ :
        ∃ fault, (writeFiles made log (outputFiles directory p)).2.2 = some fault := by
      rw [← Option.ne_none_iff_exists']
      intro hnone
      exact hsome (by rw [hnone]; rfl)
    rw [hfault]
    obtain ⟨done, file, rest, hfiles, herror, hdone, hnil⟩ := exists_of_writeFiles_error hfault
    generalize (writeFiles made log (outputFiles directory p)).1 = last at herror hdone hnil ⊢
    cases done with
    | nil =>
      rw [hnil rfl]
      exact .inl hsame
    | cons first done =>
      refine .inr ⟨⟨fault, rfl⟩, ?_, file.1, ?_, ?_⟩
      · have hchecked := checkOverwrites_eq_ok.mp hchecks
        intro m
        cases m <;> exact hchecked _ (by simp [moduleFiles])
      · have htail : file ∈ (outputFiles directory p).tail := by
          rw [hfiles]
          simp
        exact List.map_tail ▸ List.mem_map_of_mem htail
      · have hmem : first ∈ outputFiles directory p ∧ file ∈ outputFiles directory p := by
          rw [hfiles]
          simp
        exact blocked_of_write_error hdirectory hmem.1 (hdone first List.mem_cons_self) hmem.2
          herror

/-- Writing a profile once more changes nothing. -/
theorem same (hdirectory : directory.toList ≠ [])
    (hbanner : ∀ file ∈ moduleFiles directory p, hasBanner file.2 = true)
    (hread : ∀ file ∈ outputFiles directory p, tree.read file.1 = .ok (.text file.2))
    (h : Writes tree directory p last ending?) : last = tree ∧ ending? = none := by
  have hchecks : checkOverwrites tree ((moduleFiles directory p).map Prod.fst) = .ok () := by
    rw [checkOverwrites_eq_ok, List.forall_mem_map]
    intro file hfile
    obtain ⟨⟨path, hpath⟩, hslash⟩ := read_eq_ok.mp (hread file (List.mem_append_left _ hfile))
    unfold checkOverwrite
    rw [find_eq_ok.mpr ⟨⟨path, hpath⟩, .inr hslash⟩]
    exact if_pos (hbanner file hfile)
  have hmade : tree.makeDirectories directory = (tree, none) := by
    apply makeDirectories_same
    obtain ⟨⟨path, hpath, -⟩, -⟩ := read_eq_ok.mp (hread _ List.mem_cons_self)
    obtain ⟨-, above, -, habove⟩ :=
      (leadsTo_join_iff hdirectory (isName_fileName .types)).mp hpath
    exact hasDirectory_iff.mpr ⟨above, habove⟩
  cases h with
  | refused h =>
    rw [hchecks] at h
    cases h
  | unchecked h =>
    rw [hchecks] at h
    cases h
  | unmade h =>
    rw [hmade] at h
    cases h
  | begun _ h =>
    rw [hmade] at h
    cases h
    obtain ⟨hsame, hnone⟩ := writeFiles_same hread _
    exact ⟨hsame, Option.map_eq_none_iff.mpr hnone⟩

theorem eq_none (h : Writes tree directory p last ending?)
    (hsuccess : ending?.getD (.status 0) = .status 0) : ending? = none := by
  cases h with
  | refused h => cases hsuccess
  | unchecked h => cases hsuccess
  | unmade h => cases hsuccess
  | begun _ _ =>
    generalize (writeFiles _ _ _).2.2 = fault? at hsuccess
    cases fault? with
    | none => rfl
    | some fault => cases hsuccess

theorem writesOnly (h : Writes tree directory p last ending?) :
    WritesOnly tree last fun path text =>
      ∃ file ∈ outputFiles directory p, text = file.2 ∧ last.LeadsTo file.1 path := by
  cases h with
  | refused h => exact .refl _ _
  | unchecked h => exact .refl _ _
  | unmade h =>
    have hmake := writesOnly_makeDirectories tree directory
    rw [h] at hmake
    exact hmake _
  | begun _ h =>
    have hmake := writesOnly_makeDirectories tree directory
    rw [h] at hmake
    exact (hmake _).trans (writesOnly_writeFiles _ _ _)

end Writes

end FitProfile.CommandLine
