import FitProfile.Proofs.CommandLine.Outputs
/-!
# FitProfile.Proofs.CommandLine.Repeating -- runs one after another

A run writes all of its files or none, as far as it can tell in advance: it looks for the modules
before it makes the directory, but not for the input of the stringer tool, and not whether the
texts of the paths can be used. What it has written stands in the way of no later run, since each
module starts with the banner of generated files, and a file that bears it can only be replaced by
one that bears it too. Where no moment is named, the same run once more leaves the tree as it is.
-/

namespace FitProfile.CommandLine

open FitProfile.Outcome FileTree

variable {now later : Moment} {options : Options} {arguments : List String}
variable {tree last : FileTree} {directory : String} {p : Profile}
variable {digest : ByteArray → UInt64}

/-! ## Runs one after another -/

theorem keeps_run (now : Moment) (arguments : List String) (tree : FileTree)
    (digest : ByteArray → UInt64) :
    Keeps tree (run now arguments tree digest).tree fun _ => True := by
  rcases run_tree now arguments tree digest with hsame | ⟨_, directory, log, p, -, -, htree⟩
  · rw [hsame]
    exact .refl _ _
  · rw [htree]
    exact (keeps_writeProfile tree log directory p).mono fun _ _ => trivial

/-- What a run writes are files of a profile that was rendered. -/
theorem writesOnly_run (now : Moment) (arguments : List String) (tree : FileTree)
    (digest : ByteArray → UInt64) :
    WritesOnly tree (run now arguments tree digest).tree fun path text =>
      ∃ directory p, directory.toList ≠ [] ∧
        (∃ (model : Model) (moment : Option Moment), model.render moment = .ok p) ∧
        ∃ file ∈ outputFiles directory p, text = file.2 ∧
          (run now arguments tree digest).tree.LeadsTo file.1 path := by
  rcases run_cases now arguments tree digest with
    hstops | ⟨_, -, -, htree, -⟩ | ⟨options, directory, p, log, -, hdirectory, hgenerates, htree, -⟩
  · rw [hstops.tree_eq]
    exact .refl _ _
  · rw [htree]
    exact .refl _ _
  · rw [htree]
    obtain ⟨content, -, hmakes⟩ := hgenerates
    refine (writes_writeProfile tree log directory p).writesOnly.mono fun path text hwritten => ?_
    exact ⟨directory, p, nonempty_of_directory? hdirectory,
      hmakes.exists_model.imp fun model hrender => ⟨_, hrender⟩, hwritten⟩

/-- Whether what stands at a path bears the banner, if it is a file. -/
def Bannered (tree : FileTree) (path : Path) : Prop :=
  ∀ content, tree.get? path = some (.file content) → content.bearsBanner = true

/-- A run replaces a module by a module. -/
theorem bannered_run {m : Source.Module} {path : Path} (hname : path.getLast? = some m.fileName)
    (h : Bannered tree path) (now : Moment) (arguments : List String)
    (digest : ByteArray → UInt64) :
    Bannered (run now arguments tree digest).tree path := by
  intro content hfile
  rcases writesOnly_run now arguments tree digest path content hfile with
    hstill |
    ⟨text, rfl, directory, p, hdirectory, ⟨model, moment, hrender⟩, file, hmem, rfl, hleads⟩
  · exact h content hstill
  · rcases List.mem_append.mp hmem with hmodule | hstringer
    · exact hasBanner_of_render hrender file hmodule
    · -- the input of the stringer tool has another name
      rw [List.mem_singleton.mp hstringer] at hleads
      have hlast := getLast?_of_leadsTo_join hdirectory isName_stringerFileName hleads
      rw [hname] at hlast
      cases m <;> exact absurd (Option.some.inj hlast) (by decide)

/-- The file trees that come about from one by runs, and by any other changes that leave the modules
in a directory alone. -/
inductive Evolves (tree : FileTree) (above : Path) : FileTree → Prop where
  | refl : Evolves tree above tree
  | run {last : FileTree} (h : Evolves tree above last) (now : Moment) (arguments : List String)
      (digest : ByteArray → UInt64) : Evolves tree above (run now arguments last digest).tree
  | change {last next : FileTree} (h : Evolves tree above last)
      (hmodules : ∀ m : Source.Module,
        next.get? (above ++ [m.fileName]) = last.get? (above ++ [m.fileName])) :
      Evolves tree above next

theorem Evolves.bannered {above : Path} (h : Evolves tree above last) (m : Source.Module)
    (hbanner : Bannered tree (above ++ [m.fileName])) : Bannered last (above ++ [m.fileName]) := by
  induction h with
  | refl => exact hbanner
  | run _ now arguments digest ih =>
    exact bannered_run List.getLast?_concat ih now arguments digest
  | change _ hmodules ih =>
    intro content hfile
    rw [hmodules m] at hfile
    exact ih content hfile

theorem exists_of_checkOverwrites_error {names : List String} {fault : OverwriteFault}
    (h : checkOverwrites tree names = .error fault) :
    ∃ name ∈ names, checkOverwrite tree name = .error fault := by
  induction names with
  | nil => cases h
  | cons name rest ih =>
    rcases bind_eq_error.mp h with hfirst | ⟨_, -, hrest⟩
    · exact ⟨name, List.mem_cons_self, hfirst⟩
    · obtain ⟨other, hmem, hother⟩ := ih hrest
      exact ⟨other, List.mem_cons_of_mem _ hmem, hother⟩

theorem exists_of_foreign {name s : String}
    (h : checkOverwrite tree name = .error (.foreign s)) :
    name = s ∧ ∃ path, tree.LeadsTo name path ∧ ¬ Bannered tree path := by
  unfold checkOverwrite at h
  split at h
  next => cases h
  next => cases h
  next => cases h
  next text hfind =>
    split at h
    next => cases h
    next hbanner =>
      cases h
      obtain ⟨⟨path, hleads, hfile⟩, -⟩ := find_eq_ok.mp hfind
      exact ⟨rfl, path, hleads, fun hall => hbanner (hall _ hfile)⟩

/-- A run is refused because of a file under the name of a module that does not bear the banner. -/
theorem exists_of_refused {s : String} (h : (run now arguments tree digest).ending = .refused s) :
    ∃ (m : Source.Module) (path : Path), tree.LeadsTo s path ∧ path.getLast? = some m.fileName ∧
      ¬ Bannered tree path := by
  rcases run_cases now arguments tree digest with
    hstops | ⟨_, -, -, -, hending⟩ | ⟨options, directory, p, log, -, hdirectory, -, -, hending⟩
  · exact absurd h (hstops.unrefused s)
  · rw [h] at hending
    cases hending
  · rw [h] at hending
    have hwrites := writes_writeProfile tree log directory p
    generalize (writeProfile tree log directory p).1 = last at hwrites
    generalize (writeProfile tree log directory p).2.2 = ending? at hwrites hending
    cases hwrites with
    | unchecked h => cases hending
    | unmade h => cases hending
    | begun _ _ =>
      generalize (writeFiles _ _ _).2.2 = fault? at hending
      cases fault? <;> cases hending
    | refused hcheck =>
      cases hending
      obtain ⟨name, hmem, hforeign⟩ := exists_of_checkOverwrites_error hcheck
      obtain ⟨rfl, path, hleads, hpath⟩ := exists_of_foreign hforeign
      obtain ⟨file, hfile, rfl⟩ := List.mem_map.mp hmem
      obtain ⟨m, hm⟩ := exists_module_of_mem hfile
      refine ⟨m, path, hleads, ?_, hpath⟩
      rw [hm] at hleads
      exact getLast?_of_leadsTo_join (nonempty_of_directory? hdirectory) (isName_fileName m) hleads

/-! ## All or nothing, and the same again -/

/-- What a run has come to that stops in the midst of its files: the modules have been checked, and
behind the first file there is one that cannot be written. -/
def StopsWriting (tree : FileTree) (arguments : List String) (result : RunResult) : Prop :=
  ∃ options directory fault, Options.parse arguments = .ok (some options) ∧
    options.directory? = some directory ∧ result.ending = .fileFault fault ∧
    (∀ m : Source.Module, checkOverwrite tree (Path.join directory m.fileName) = .ok ()) ∧
    ∃ s ∈ (outputFileNames directory).tail, Blocked result.tree s

theorem run_fails (h : (run now arguments tree digest).ending ≠ .status 0) :
    SameFiles tree (run now arguments tree digest).tree ∨
      StopsWriting tree arguments (run now arguments tree digest) := by
  rcases run_cases now arguments tree digest with
    hstops | ⟨_, -, -, -, hending⟩ |
    ⟨options, directory, p, log, hparse, hdirectory, -, htree, hending⟩
  · rw [hstops.tree_eq]
    exact .inl fun _ _ => Iff.rfl
  · exact absurd hending h
  · have hsome : (writeProfile tree log directory p).2.2 ≠ none := by
      intro hnone
      rw [hnone] at hending
      exact h hending
    rcases (writes_writeProfile tree log directory p).stops (nonempty_of_directory? hdirectory)
      hsome with hsame | ⟨⟨fault, hfault⟩, hchecks, s, hmem, hblocked⟩
    · rw [htree]
      exact .inl hsame
    · rw [hfault] at hending
      rw [← htree] at hblocked
      exact .inr ⟨options, directory, fault, hparse, hdirectory, hending, hchecks, s, hmem,
        hblocked⟩

/-- A run with success has written all files of the profile that it generates. -/
theorem run_succeeds (hparse : Options.parse arguments = .ok (some options))
    (hdirectory : options.directory? = some directory)
    (h : (run now arguments tree digest).ending = .status 0) :
    ∃ p, Generates now options tree p ∧ ∀ file ∈ outputFiles directory p,
      (run now arguments tree digest).tree.read file.1 = .ok (.text file.2) := by
  rcases run_cases now arguments tree digest with
    hstops | ⟨options', hparse', hnone, -, -⟩ |
    ⟨options', directory', p, log, hparse', hdirectory', hgenerates, htree, hending⟩
  · exact absurd h hstops.failed
  · rw [hparse] at hparse'
    cases hparse'
    rw [hdirectory] at hnone
    cases hnone
  · rw [hparse] at hparse'
    cases hparse'
    rw [hdirectory] at hdirectory'
    cases hdirectory'
    rw [h] at hending
    have hwrites := writes_writeProfile tree log directory p
    refine ⟨p, hgenerates, ?_⟩
    rw [htree]
    exact hwrites.read (nonempty_of_directory? hdirectory) (hwrites.eq_none hending.symm)

/-- Where the files of a profile are read, the modules in the directory bear the banner. -/
theorem exists_module_of_read (hdirectory : directory.toList ≠ [])
    (hgenerates : Generates now options tree p)
    (hread : ∀ file ∈ outputFiles directory p, last.read file.1 = .ok (.text file.2))
    (m : Source.Module) : ∃ above text, last.LeadsTo directory above ∧ hasBanner text = true ∧
      last.get? (above ++ [m.fileName]) = some (.file (.text text)) := by
  obtain ⟨text, hmem⟩ :
      ∃ text, (Path.join directory m.fileName, text) ∈ moduleFiles directory p := by
    cases m with
    | types => exact ⟨p.types, .head _⟩
    | messages => exact ⟨p.messages, .tail _ (.head _)⟩
    | profile => exact ⟨p.profile, .tail _ (.tail _ (.head _))⟩
  obtain ⟨content, -, hmakes⟩ := hgenerates
  obtain ⟨model, hrender⟩ := hmakes.exists_model
  obtain ⟨⟨path, hleads, hfile⟩, -⟩ := read_eq_ok.mp (hread _ (List.mem_append_left _ hmem))
  obtain ⟨-, above, rfl, habove, -⟩ :=
    (leadsTo_join_iff hdirectory (isName_fileName m)).mp hleads
  exact ⟨above, text, habove, hasBanner_of_render hrender _ hmem, hfile⟩

/-- A run is refused because of no file in a directory whose modules bear the banner. -/
theorem run_unrefused {above : Path}
    (hbanner : ∀ m : Source.Module, Bannered tree (above ++ [m.fileName])) {s : String}
    (h : (run now arguments tree digest).ending = .refused s) :
    ∃ path, tree.LeadsTo s path ∧ path.dropLast ≠ above := by
  obtain ⟨m, path, hleads, hlast, hforeign⟩ := exists_of_refused h
  refine ⟨path, hleads, ?_⟩
  rintro rfl
  have hpath : path.dropLast ++ [m.fileName] = path :=
    List.dropLast_append_getLast? _ (Option.mem_def.mpr hlast)
  have hmodule := hbanner m
  rw [hpath] at hmodule
  exact hforeign hmodule

/-- Where no moment is named and the files of the profile are there already, the same run once more
changes nothing. -/
theorem run_again (hparse : Options.parse arguments = .ok (some options))
    (hdirectory : options.directory? = some directory) (hmoment : options.timestamp = false)
    (hgenerates : Generates now options tree p)
    (hread : ∀ file ∈ outputFiles directory p, last.read file.1 = .ok (.text file.2))
    (hkeeps : Keeps tree last fun _ => True)
    (hwrites : WritesOnly tree last fun _ _ => True) :
    (run later arguments last digest).tree = last ∧
      (last.read options.workbook = tree.read options.workbook →
        (run later arguments last digest).ending = .status 0) := by
  obtain ⟨content, hcontent, hmakes⟩ := hgenerates
  have hmoments : options.moment now = options.moment later := by
    unfold Options.moment
    rw [hmoment]
    rfl
  rw [hmoments] at hmakes
  rcases run_generates later last hparse with ⟨hstops, hnone⟩ | ⟨q, log, warnings, hq, hfinish⟩
  · refine ⟨hstops.tree_eq, fun hsame => ?_⟩
    exact absurd ⟨content, hsame.trans hcontent, hmakes⟩ (hnone p)
  · obtain ⟨found, hfound, hmakes'⟩ := hq
    -- a workbook is no text, so it has not been written by a run
    obtain rfl : found = content := by
      obtain ⟨⟨path, hleads, hfile⟩, -⟩ := read_eq_ok.mp hcontent
      obtain ⟨⟨path', hleads', hfile'⟩, -⟩ := read_eq_ok.mp hfound
      obtain rfl : path = path' := (hkeeps.leadsTo hleads).unique hleads'
      rcases hwrites path found hfile' with hstill | ⟨text, rfl, -⟩
      · rw [hfile] at hstill
        cases hstill
        rfl
      · exact absurd hmakes' Makes.ne_text
    obtain rfl : p = q := hmakes.unique hmakes'
    obtain ⟨model, hrender⟩ := hmakes.exists_model
    obtain ⟨log', htree, hending⟩ := finish_of_directory hdirectory last log warnings p
    obtain ⟨hsame, hnone⟩ := (writes_writeProfile last log' directory p).same
      (nonempty_of_directory? hdirectory) (hasBanner_of_render hrender) hread
    rw [hfinish, htree, hending, hsame, hnone]
    exact ⟨rfl, fun _ => rfl⟩

/-- A run that does not end with success leaves the files as they were, unless it stops in the midst
of writing. A run into a directory that ends with success leaves the files of the profile there. No
run that comes later is refused because of a file in that directory, as long as nothing but runs
changes the modules there. And when no moment is named, the same run once more leaves all files and
directories as they are, and it ends with success again if the workbook is not one of the files that
were written.

This is about trees without links, where no two paths stand for one file. A run that is to make more
directories at once than `FileTree.deepestNesting` fails and leaves the files as they were; which
number that is plays no part. -/
theorem run_all_or_nothing {result : RunResult} (hrun : run now arguments tree digest = result) :
    (result.ending ≠ .status 0 →
      SameFiles tree result.tree ∨ StopsWriting tree arguments result) ∧
    ∀ options directory, Options.parse arguments = .ok (some options) →
      options.directory? = some directory → result.ending = .status 0 →
      ∃ p above, Generates now options tree p ∧ result.tree.LeadsTo directory above ∧
        (∀ file ∈ outputFiles directory p, result.tree.read file.1 = .ok (.text file.2)) ∧
        (∀ last, Evolves result.tree above last → ∀ later others s,
          (run later others last digest).ending = .refused s →
          ∃ path, last.LeadsTo s path ∧ path.dropLast ≠ above) ∧
        (options.timestamp = false → ∀ later,
          (run later arguments result.tree digest).tree = result.tree ∧
          (result.tree.read options.workbook = tree.read options.workbook →
            (run later arguments result.tree digest).ending = .status 0)) := by
  subst hrun
  refine ⟨run_fails, fun options directory hparse hdirectory hsuccess => ?_⟩
  obtain ⟨p, hgenerates, hread⟩ := run_succeeds hparse hdirectory hsuccess
  have hnonempty := nonempty_of_directory? hdirectory
  have hmodules := exists_module_of_read hnonempty hgenerates hread
  obtain ⟨above, -, habove, -, -⟩ := hmodules .types
  refine ⟨p, above, hgenerates, habove, hread, ?_, ?_⟩
  · intro last hevolves later others s hrefused
    refine run_unrefused (fun m => hevolves.bannered m ?_) hrefused
    obtain ⟨same, text, hsame, hbanner, hfile⟩ := hmodules m
    obtain rfl : above = same := habove.unique hsame
    intro content hcontent
    rw [hfile] at hcontent
    cases hcontent
    exact hbanner
  · intro hmoment later
    exact run_again hparse hdirectory hmoment hgenerates hread
      (keeps_run now arguments tree digest)
      ((writesOnly_run now arguments tree digest).mono fun _ _ _ => trivial)

/-- What the arguments for an output directory ask for. -/
def outputOptions (directory : String) : Options :=
  ⟨"P.xlsx", some "20.14", some directory, false, false, false⟩

/-- A run in a working directory with a workbook, and with notes in the place of a module. -/
def notesResult (directory : String) : RunResult :=
  run newYear (outputArguments directory) (notesTree ["work", "b", "profile.py"])

/-- A run is refused because of notes in one directory, before and after a run into another. -/
theorem notes_all_or_nothing :
    ((notesResult "b").ending ≠ .status 0 ∧
      (SameFiles (notesTree ["work", "b", "profile.py"]) (notesResult "b").tree ∨
        StopsWriting (notesTree ["work", "b", "profile.py"]) (outputArguments "b")
          (notesResult "b"))) ∧
    Options.parse (outputArguments "out") = .ok (some (outputOptions "out")) ∧
    (outputOptions "out").directory? = some "out" ∧ (outputOptions "out").timestamp = false ∧
    (notesResult "out").ending = .status 0 ∧
    (run newYear (outputArguments "b") (notesResult "out").tree).ending =
      .refused "b/profile.py" ∧
    ∃ p above, Generates newYear (outputOptions "out") (notesTree ["work", "b", "profile.py"]) p ∧
      (notesResult "out").tree.LeadsTo "out" above ∧
      (∀ file ∈ outputFiles "out" p, (notesResult "out").tree.read file.1 = .ok (.text file.2)) ∧
      (∃ path, (notesResult "out").tree.LeadsTo "b/profile.py" path ∧ path.dropLast ≠ above) ∧
      (run newYear (outputArguments "out") (notesResult "out").tree).tree =
        (notesResult "out").tree := by
  -- settled together, so that the run into the other directory is evaluated once
  have hends : (notesResult "b").ending ≠ .status 0 ∧ (notesResult "out").ending = .status 0 ∧
      (run newYear (outputArguments "b") (notesResult "out").tree).ending =
        .refused "b/profile.py" := by decide +kernel
  obtain ⟨hfails, hsuccess, hrefused⟩ := hends
  have hparse : Options.parse (outputArguments "out") = .ok (some (outputOptions "out")) := by
    decide +kernel
  have hdirectory : (outputOptions "out").directory? = some "out" := by decide
  have hrun : run newYear (outputArguments "out") (notesTree ["work", "b", "profile.py"]) =
      notesResult "out" := rfl
  obtain ⟨p, above, hgenerates, habove, hread, hlater, hagain⟩ :=
    (run_all_or_nothing hrun).2 (outputOptions "out") "out" hparse hdirectory hsuccess
  exact ⟨⟨hfails, (run_all_or_nothing rfl).1 hfails⟩, hparse, hdirectory, rfl, hsuccess, hrefused,
    p, above, hgenerates, habove, hread,
    hlater _ .refl newYear (outputArguments "b") _ hrefused, (hagain rfl newYear).1⟩

/-- A working directory with a workbook, and a directory in the place of the input of the stringer
tool. -/
def blockedTree : FileTree :=
  .ofEntries ["work"] [(["work", "P.xlsx"], .file (.payload (.book .xlsx singleBook))),
    (["work", "out", "stringer_types.txt"], .directory)]

/-- A run does stop in the midst of writing: it fails, and leaves modules that were not there. -/
theorem blocked_run_changes_files :
    (run newYear (outputArguments "out") blockedTree).ending ≠ .status 0 ∧
      ¬ SameFiles blockedTree (run newYear (outputArguments "out") blockedTree).tree := by
  have hnone : blockedTree.get? ["work", "out", "profile.py"] = none := by decide
  have hstops : (run newYear (outputArguments "out") blockedTree).ending ≠ .status 0 ∧
      ((run newYear (outputArguments "out") blockedTree).tree.get?
        ["work", "out", "profile.py"]).any (· != .directory) = true := by decide +kernel
  obtain ⟨hfails, hnew⟩ := hstops
  refine ⟨hfails, fun hsame => ?_⟩
  generalize hfound : (run newYear (outputArguments "out") blockedTree).tree.get?
    ["work", "out", "profile.py"] = found at hnew
  rcases found with _ | (_ | content)
  · cases hnew
  · cases hnew
  · have hearlier := (hsame _ content).mp hfound
    rw [hnone] at hearlier
    cases hearlier

end FitProfile.CommandLine
