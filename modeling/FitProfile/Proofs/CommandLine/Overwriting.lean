import FitProfile.Proofs.CommandLine.Running
/-!
# FitProfile.Proofs.CommandLine.Overwriting -- files that a run leaves alone

A run refuses to overwrite a module file that does not bear the banner of generated files. It
checks this by the texts of the paths before it makes the output directory, and writes by the
same texts afterwards, so the two have to lead to the same files. They do when the directory is
already there, and also when its text has no double dot, since such a text only goes on into
directories (`leadsTo_earlier`). `run_keeps_foreign_files` gathers what follows for all runs: a
file without the banner stays as it is, with two exceptions. The input of the stringer tool is
written without a check, and where a missing directory is named by way of a double dot, the
check sees none of the files that are there.
-/

namespace FitProfile.CommandLine

open FitProfile.Outcome

/-- Whether a file bears the banner of generated files; what is not text does not. -/
def Content.bearsBanner : Content → Bool
  | .text s => hasBanner s
  | .payload _ => false

namespace FileTree

variable {tree later : FileTree} {directory name : String} {path : Path} {content : Content}

/-! ## What the check sees -/

/-- A file that a checked text leads to bears the banner. -/
theorem bearsBanner_of_check {s : String} (hcheck : checkOverwrite tree s = .ok ())
    (hslash : Path.endsInSlash s = false) (hleads : tree.LeadsTo s path)
    (hfile : tree.get? path = some (.file content)) : content.bearsBanner = true := by
  have hfind : tree.find s = .ok (.file content) :=
    find_eq_ok.mpr ⟨⟨path, hleads, hfile⟩, .inr hslash⟩
  unfold checkOverwrite at hcheck
  rw [hfind] at hcheck
  cases content with
  | payload payload => cases hcheck
  | text s =>
    dsimp only at hcheck
    split at hcheck
    next hbanner => exact hbanner
    next => cases hcheck

/-- The text of a file in a directory led to the same file before, if the directory was there or
its text has no double dot. -/
theorem leadsTo_earlier {written : Path → Prop} (hkeeps : Keeps tree later written)
    (hdirectory : directory.toList ≠ []) (hname : Path.IsName name)
    (hleads : later.LeadsTo (Path.join directory name) path)
    (hfile : tree.get? path = some (.file content))
    (hsafe : tree.hasDirectory directory = true ∨ ".." ∉ tree.way directory) :
    tree.LeadsTo (Path.join directory name) path := by
  obtain ⟨hlong, above, rfl, habove, -⟩ := (leadsTo_join_iff hdirectory hname).mp hleads
  refine (leadsTo_join_iff hdirectory hname).mpr ⟨hlong, above, rfl, ?_⟩
  -- either way the directory was there, and its text led to it
  rcases hsafe with hthere | hdots
  · obtain ⟨earlier, hearlier, hat⟩ := hasDirectory_iff.mp hthere
    obtain rfl : earlier = above := (hkeeps.leadsTo hearlier).unique habove
    exact ⟨hearlier, hat⟩
  · have hat : tree.get? above = some .directory := directory_of_get?_append hfile (by simp)
    obtain ⟨htext, hwalks⟩ := leadsTo_iff.mp habove
    rw [hkeeps.way_eq] at hwalks
    exact ⟨leadsTo_iff.mpr ⟨htext, hwalks.earlier hdots hat⟩, hat⟩

end FileTree

open FileTree

variable {tree : FileTree}

/-! ## What a run writes to -/

theorem isName_fileName (m : Source.Module) : Path.IsName m.fileName := by
  cases m <;> exact ⟨by decide, by decide, by decide, by decide, by decide, by decide⟩

theorem isName_stringerFileName : Path.IsName stringerFileName :=
  ⟨by decide, by decide, by decide, by decide, by decide, by decide⟩

theorem checkOverwrites_eq_ok {names : List String} :
    checkOverwrites tree names = .ok () ↔ ∀ name ∈ names, checkOverwrite tree name = .ok () := by
  induction names with
  | nil => simp [checkOverwrites]
  | cons name rest ih =>
    rw [checkOverwrites, bind_eq_ok, List.forall_mem_cons, ← ih]
    constructor
    · rintro ⟨⟨⟩, hname, hrest⟩
      exact ⟨hname, hrest⟩
    · rintro ⟨hname, hrest⟩
      exact ⟨(), hname, hrest⟩

theorem exists_module_of_mem {directory : String} {p : Profile} {file : String × String}
    (h : file ∈ moduleFiles directory p) :
    ∃ m : Source.Module, file.1 = Path.join directory m.fileName := by
  simp only [moduleFiles, List.mem_cons, List.not_mem_nil, or_false] at h
  rcases h with rfl | rfl | rfl
  · exact ⟨.types, rfl⟩
  · exact ⟨.messages, rfl⟩
  · exact ⟨.profile, rfl⟩

/-- Files that a profile is written to: the input of the stringer tool, and the modules, once
all of them have been checked. -/
def IsOutput (tree later : FileTree) (directory : String) (path : Path) : Prop :=
  later.LeadsTo (Path.join directory stringerFileName) path ∨
    ∃ m : Source.Module, checkOverwrite tree (Path.join directory m.fileName) = .ok () ∧
      later.LeadsTo (Path.join directory m.fileName) path

theorem keeps_writeProfile (tree : FileTree) (log : List LogLine) (directory : String)
    (p : Profile) : Keeps tree (writeProfile tree log directory p).1
      (IsOutput tree (writeProfile tree log directory p).1 directory) := by
  have hwrites := writes_writeProfile tree log directory p
  generalize (writeProfile tree log directory p).1 = last at hwrites ⊢
  generalize (writeProfile tree log directory p).2.2 = ending? at hwrites
  have hdirectory := keeps_makeDirectories tree directory (IsOutput tree last directory)
  cases hwrites with
  | refused h => exact .refl _ _
  | unchecked h => exact .refl _ _
  | unmade h =>
    rw [h] at hdirectory
    exact hdirectory
  | begun hchecks hmade =>
    -- the directory comes first, then the modules, and the input of the stringer tool last
    rw [hmade] at hdirectory
    refine hdirectory.trans ((keeps_writeFiles _ _ _).mono ?_)
    rintro path ⟨file, hfile, hpath⟩
    rcases List.mem_append.mp hfile with hmodule | hstringer
    · have hcheck := checkOverwrites_eq_ok.mp hchecks _ (List.mem_map_of_mem hmodule)
      obtain ⟨m, hm⟩ := exists_module_of_mem hmodule
      rw [hm] at hpath hcheck
      exact .inr ⟨m, hcheck, hpath⟩
    · rw [List.mem_singleton.mp hstringer] at hpath
      exact .inl hpath

theorem nonempty_of_directory? {options : Options} {directory : String}
    (h : options.directory? = some directory) : directory.toList ≠ [] := by
  obtain ⟨-, hnonempty⟩ := Option.filter_eq_some_iff.mp h
  simpa using hnonempty

/-! ## Files without the banner -/

/-- A file without the banner is still there after every run, with the bytes it had, unless the
output directory is such that the input of the stringer tool is written there, or that a module
is written there which could not be found before: by way of a double dot, through a directory
that was missing.

This is about trees without links, where no two paths stand for one file. Whatever the digest that
fingerprints are made by, it plays no part, and neither does the number of directories that can be
made at once (`FileTree.deepestNesting`). -/
theorem run_keeps_foreign_files (now : Moment) (arguments : List String) (tree : FileTree)
    (digest : ByteArray → UInt64) (path : Path) (content : Content)
    (hfile : tree.get? path = some (.file content))
    (hforeign : content.bearsBanner = false) :
    (run now arguments tree digest).tree.get? path = some (.file content) ∨
      ∃ options directory, Options.parse arguments = .ok (some options) ∧
        options.directory? = some directory ∧
        ((run now arguments tree digest).tree.LeadsTo (Path.join directory stringerFileName) path ∨
          ".." ∈ tree.way directory ∧ tree.hasDirectory directory = false ∧
            ∃ m : Source.Module, (run now arguments tree digest).tree.LeadsTo
              (Path.join directory m.fileName) path) := by
  rcases run_tree now arguments tree digest with
    hsame | ⟨options, directory, log, p, hoptions, hdirectory, htree⟩
  · rw [hsame]
    exact .inl hfile
  · rw [htree]
    have hkeeps := keeps_writeProfile tree log directory p
    rcases hkeeps.files path content hfile with hstill | hstringer | ⟨m, hcheck, hleads⟩
    · exact .inl hstill
    · exact .inr ⟨options, directory, hoptions, hdirectory, .inl hstringer⟩
    · refine .inr ⟨options, directory, hoptions, hdirectory, .inr ?_⟩
      have hexposed : ¬ (tree.hasDirectory directory = true ∨ ".." ∉ tree.way directory) := by
        intro hsafe
        have hname := isName_fileName m
        have hearlier := leadsTo_earlier hkeeps (nonempty_of_directory? hdirectory) hname hleads
          hfile hsafe
        rw [bearsBanner_of_check hcheck (Path.endsInSlash_join hname) hearlier hfile] at hforeign
        cases hforeign
      rw [not_or, not_not, Bool.not_eq_true] at hexposed
      exact ⟨hexposed.2, hexposed.1, m, hleads⟩

/-- A workbook of one message with one field. -/
def singleBook : List (String × List (List Cell)) :=
  [("Types", [["Type Name", "Base Type", "Value Name", "Value", "Comment"],
      ["mesg_num", "uint16"], ["", "", "m", "0"]]),
   ("Messages", [["Message Name", "Field Def #", "Field Name", "Field Type", "Array",
      "Components", "Scale", "Offset", "Units", "Bits", "Accumulate", "Ref Field Name",
      "Ref Field Value", "Comment"], ["m"], ["", "0", "a", "uint8"]])].map
    fun sheet => (sheet.1, sheet.2.map fun row => row.map Cell.text)

/-- A working directory with a workbook, and notes at a path. -/
def notesTree (path : Path) : FileTree :=
  .ofEntries ["work"] [(["work", "P.xlsx"], .file (.payload (.book .xlsx singleBook))),
    (path, .file (.text "my notes\n"))]

/-- The arguments that write the profile of the workbook to a directory. -/
def outputArguments (directory : String) : List String :=
  ["--sdk", "20.14", "--no-timestamp", "-o", directory, "P.xlsx"]

/-- The first moment of a year. -/
def newYear : Moment := ⟨⟨2020, 1, 1⟩, ⟨0, 0, 0, 0, none⟩⟩

/-- Notes bear no banner. -/
theorem bearsBanner_notes : (Content.text "my notes\n").bearsBanner = false := by
  decide +kernel

/-- Notes in the output directory are such a file. -/
theorem notes_run : (notesTree ["work", "out", "notes.txt"]).get? ["work", "out", "notes.txt"] =
      some (.file (.text "my notes\n")) ∧ (Content.text "my notes\n").bearsBanner = false ∧
    ((run newYear (outputArguments "out") (notesTree ["work", "out", "notes.txt"])).tree.get?
        ["work", "out", "notes.txt"] = some (.file (.text "my notes\n")) ∨
      ∃ options directory, Options.parse (outputArguments "out") = .ok (some options) ∧
        options.directory? = some directory ∧
        ((run newYear (outputArguments "out") (notesTree ["work", "out", "notes.txt"])).tree.LeadsTo
            (Path.join directory stringerFileName) ["work", "out", "notes.txt"] ∨
          ".." ∈ (notesTree ["work", "out", "notes.txt"]).way directory ∧
            (notesTree ["work", "out", "notes.txt"]).hasDirectory directory = false ∧
            ∃ m : Source.Module, (run newYear (outputArguments "out")
              (notesTree ["work", "out", "notes.txt"])).tree.LeadsTo
                (Path.join directory m.fileName) ["work", "out", "notes.txt"])) :=
  have hnotes : (notesTree ["work", "out", "notes.txt"]).get? ["work", "out", "notes.txt"] =
      some (.file (.text "my notes\n")) := by decide
  ⟨hnotes, bearsBanner_notes, run_keeps_foreign_files newYear (outputArguments "out")
    (notesTree ["work", "out", "notes.txt"]) XxHash64.hash ["work", "out", "notes.txt"]
    (.text "my notes\n") hnotes bearsBanner_notes⟩

/-- The two exceptions do occur: notes under the name of the input of the stringer tool, and notes
under the name of a module in a directory that is named by way of one that is missing. -/
theorem notes_overwritten : (Content.text "my notes\n").bearsBanner = false ∧
    ((notesTree ["work", "out", "stringer_types.txt"]).get? ["work", "out", "stringer_types.txt"] =
        some (.file (.text "my notes\n")) ∧
      (run newYear (outputArguments "out")
        (notesTree ["work", "out", "stringer_types.txt"])).tree.get?
          ["work", "out", "stringer_types.txt"] = some (.file (.text "mesg_num\n"))) ∧
    (notesTree ["work", "b", "profile.py"]).get? ["work", "b", "profile.py"] =
        some (.file (.text "my notes\n")) ∧
      (run newYear (outputArguments "a/../b") (notesTree ["work", "b", "profile.py"])).tree.get?
        ["work", "b", "profile.py"] ≠ some (.file (.text "my notes\n")) :=
  ⟨bearsBanner_notes, ⟨by decide, by decide +kernel⟩, by decide, by decide +kernel⟩

end FitProfile.CommandLine
