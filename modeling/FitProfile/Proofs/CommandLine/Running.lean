import FitProfile.Proofs.CommandLine.Writing
import FitProfile.Proofs.Generating
/-!
# FitProfile.Proofs.CommandLine.Running -- how a run goes

A run with an output directory either stops before it looks at the directory, and then it leaves
the file tree as it is, or it has generated a profile and writes it (`run_cases`). Writing can stop
at the checks, at the directory or at one of four files (`Writes`); what follows about runs is
shown for these ways and not for the steps of the program.
-/

namespace FitProfile.CommandLine

open FitProfile.Outcome

instance decidableStatus : (ending : Ending) → (code : Nat) → Decidable (ending = .status code)
  | .status found, code => decidable_of_iff (found = code) (by simp)
  | .usage _, _ | .help, _ | .refused _, _ | .fileFault _, _ | .fault _, _ => isFalse nofun

instance decidableRefused : (ending : Ending) → (path : String) → Decidable (ending = .refused path)
  | .refused found, path => decidable_of_iff (found = path) (by simp)
  | .usage _, _ | .help, _ | .status _, _ | .fileFault _, _ | .fault _, _ => isFalse nofun

/-- The moment that a run names in what it generates. -/
def Options.moment (options : Options) (now : Moment) : Option Moment :=
  if options.timestamp then some now else none

/-- The profile that a file is made into. -/
def Makes (options : Options) (moment : Option Moment) (content : Content) (p : Profile) : Prop :=
  ∃ version generator, options.release = .found version ∧
    Generator.ofArguments (.integer version.major) (.integer version.minor)
      (.payload content.asPayload) = .ok generator ∧ (generator.generate moment).outcome = .ok p

/-- The profile that a run generates: it is made of the workbook that the arguments name. -/
def Generates (now : Moment) (options : Options) (tree : FileTree) (p : Profile) : Prop :=
  ∃ content, tree.read options.workbook = .ok content ∧
    Makes options (options.moment now) content p

variable {now : Moment} {options : Options} {arguments : List String} {tree : FileTree}
variable {directory : String} {p : Profile} {digest : ByteArray → UInt64}

theorem Makes.unique {moment : Option Moment} {content : Content} {q : Profile}
    (h : Makes options moment content p) (h' : Makes options moment content q) : p = q := by
  obtain ⟨version, generator, hversion, hgenerator, hprofile⟩ := h
  obtain ⟨version', generator', hversion', hgenerator', hprofile'⟩ := h'
  rw [hversion] at hversion'
  cases hversion'
  rw [hgenerator] at hgenerator'
  cases hgenerator'
  rw [hprofile] at hprofile'
  cases hprofile'
  rfl

/-- A text is no workbook. -/
theorem Makes.ne_text {moment : Option Moment} {s : String} :
    ¬ Makes options moment (.text s) p := by
  rintro ⟨version, generator, -, hgenerator, hprofile⟩
  obtain ⟨major, -, hgenerator⟩ := bind_eq_ok.mp hgenerator
  obtain ⟨minor, -, hgenerator⟩ := bind_eq_ok.mp hgenerator
  obtain ⟨payload, hpayload, hgenerator⟩ := bind_eq_ok.mp hgenerator
  obtain ⟨rules, -, hgenerator⟩ := bind_eq_ok.mp hgenerator
  obtain rfl : payload = .bytes s.toUTF8.toList := by
    unfold Generator.workbookData Content.asPayload at hpayload
    dsimp only at hpayload
    split at hpayload
    · cases hpayload
    · cases hpayload
      rfl
  cases pure_eq_ok.mp hgenerator
  obtain ⟨book, hbook, -⟩ := Generator.generate_eq_ok.mp hprofile
  cases hbook

/-- What a workbook is made into is rendered from a model. -/
theorem Makes.exists_model {moment : Option Moment} {content : Content}
    (h : Makes options moment content p) : ∃ model : Model, model.render moment = .ok p := by
  obtain ⟨version, generator, -, -, hprofile⟩ := h
  obtain ⟨book, -, hrender⟩ := Generator.generate_eq_ok.mp hprofile
  obtain ⟨draft, model, -, -, hrender⟩ := Generator.render_eq_ok.mp hrender
  exact ⟨model, hrender⟩

/-! ## From the arguments to the profile -/

/-- What a run has come to that stops before it has a profile. -/
structure StopsEarly (tree : FileTree) (result : RunResult) : Prop where
  tree_eq : result.tree = tree
  failed : result.ending ≠ .status 0
  unrefused : ∀ path, result.ending ≠ .refused path

/-- A run with a workbook stops early, or it finishes with the profile made of it. -/
theorem generate_makes (now : Moment) (tree : FileTree) {version : Version}
    (hversion : options.release = .found version) (content : Content) :
    StopsEarly tree (generate now options version tree content.asPayload digest) ∧
        (∀ p, ¬ Makes options (options.moment now) content p) ∨
      ∃ p log warnings, Makes options (options.moment now) content p ∧
        generate now options version tree content.asPayload digest =
          finish options tree log warnings p digest := by
  unfold generate
  dsimp only
  split
  next p houtcome =>
    obtain ⟨generator, hgenerator, hprofile⟩ := Reported.outcome_bind_eq_ok.mp houtcome
    exact .inr ⟨p, _, _, ⟨version, generator, hversion, hgenerator, hprofile⟩, rfl⟩
  next fault houtcome =>
    refine .inl ⟨?_, ?_⟩
    · split <;> exact ⟨rfl, nofun, nofun⟩
    · rintro p ⟨version', generator, hversion', hgenerator, hprofile⟩
      rw [hversion] at hversion'
      cases hversion'
      rw [Reported.outcome_bind_eq_ok.mpr ⟨generator, hgenerator, hprofile⟩] at houtcome
      cases houtcome

/-- A run stops early, or it finishes with the profile that it generates. -/
theorem run_generates (now : Moment) (tree : FileTree)
    (hparse : Options.parse arguments = .ok (some options)) :
    StopsEarly tree (run now arguments tree digest) ∧ (∀ p, ¬ Generates now options tree p) ∨
      ∃ p log warnings, Generates now options tree p ∧
        run now arguments tree digest = finish options tree log warnings p digest := by
  unfold run
  rw [hparse]
  dsimp only
  cases hrelease : options.release with
  | absent =>
    refine .inl ⟨⟨rfl, nofun, nofun⟩, ?_⟩
    rintro p ⟨content, -, version, generator, hversion, -⟩
    rw [hrelease] at hversion
    cases hversion
  | tooManyDigits count =>
    refine .inl ⟨⟨rfl, nofun, nofun⟩, ?_⟩
    rintro p ⟨content, -, version, generator, hversion, -⟩
    rw [hrelease] at hversion
    cases hversion
  | found version =>
    dsimp only
    cases hread : tree.read options.workbook with
    | error fault =>
      refine .inl ⟨?_, ?_⟩
      · cases fault <;> exact ⟨rfl, nofun, nofun⟩
      · rintro p ⟨content, hcontent, -⟩
        rw [hread] at hcontent
        cases hcontent
    | ok content =>
      dsimp only
      rcases generate_makes now tree hrelease content with
        ⟨hstops, hnone⟩ | ⟨p, log, warnings, hmakes, hfinish⟩
      · refine .inl ⟨hstops, ?_⟩
        rintro p ⟨content', hcontent, hmakes⟩
        rw [hread] at hcontent
        cases hcontent
        exact hnone p hmakes
      · exact .inr ⟨p, log, warnings, ⟨content, hread, hmakes⟩, hfinish⟩

theorem finish_of_directory (hdirectory : options.directory? = some directory) (tree : FileTree)
    (log : List LogLine) (warnings : List DuplicateName) (p : Profile) :
    ∃ log', (finish options tree log warnings p digest).tree =
        (writeProfile tree log' directory p).1 ∧
      (finish options tree log warnings p digest).ending =
        (writeProfile tree log' directory p).2.2.getD (.status 0) := by
  unfold finish
  rw [hdirectory]
  dsimp only
  split
  next heq => exact ⟨_, by rw [heq], by rw [heq]; rfl⟩
  next heq => exact ⟨_, by rw [heq], by rw [heq]; rfl⟩

/-- A run stops early, has nothing to write, or writes the profile that it generates. -/
theorem run_cases (now : Moment) (arguments : List String) (tree : FileTree)
    (digest : ByteArray → UInt64) :
    StopsEarly tree (run now arguments tree digest) ∨
      (∃ options, Options.parse arguments = .ok (some options) ∧ options.directory? = none ∧
        (run now arguments tree digest).tree = tree ∧
        (run now arguments tree digest).ending = .status 0) ∨
      ∃ options directory p log, Options.parse arguments = .ok (some options) ∧
        options.directory? = some directory ∧ Generates now options tree p ∧
        (run now arguments tree digest).tree = (writeProfile tree log directory p).1 ∧
        (run now arguments tree digest).ending =
          (writeProfile tree log directory p).2.2.getD (.status 0) := by
  cases hparse : Options.parse arguments with
  | error fault =>
    unfold run
    rw [hparse]
    exact .inl ⟨rfl, nofun, nofun⟩
  | ok found =>
    cases found with
    | none =>
      unfold run
      rw [hparse]
      exact .inl ⟨rfl, nofun, nofun⟩
    | some options =>
      rcases run_generates now tree hparse with
        ⟨hstops, -⟩ | ⟨p, log, warnings, hgenerates, hrun⟩
      · exact .inl hstops
      · rw [hrun]
        cases hdirectory : options.directory? with
        | none =>
          refine .inr (.inl ⟨options, rfl, hdirectory, ?_⟩)
          unfold finish
          rw [hdirectory]
          exact ⟨rfl, rfl⟩
        | some directory =>
          obtain ⟨log', htree, hending⟩ := finish_of_directory hdirectory tree log warnings p
          exact .inr (.inr ⟨options, directory, p, log', rfl, hdirectory, hgenerates, htree,
            hending⟩)

/-- A run leaves the tree as it is, or as writing a profile to the output directory leaves it. -/
theorem run_tree (now : Moment) (arguments : List String) (tree : FileTree)
    (digest : ByteArray → UInt64) :
    (run now arguments tree digest).tree = tree ∨
      ∃ options directory log p, Options.parse arguments = .ok (some options) ∧
        options.directory? = some directory ∧
        (run now arguments tree digest).tree = (writeProfile tree log directory p).1 := by
  rcases run_cases now arguments tree digest with
    hstops | ⟨_, -, -, htree, -⟩ | ⟨options, directory, p, log, hparse, hdirectory, -, htree, -⟩
  · exact .inl hstops.tree_eq
  · exact .inl htree
  · exact .inr ⟨options, directory, log, p, hparse, hdirectory, htree⟩

/-! ## From the profile to its files -/

/-- The files of a profile in a directory, with their texts. -/
def outputFiles (directory : String) (p : Profile) : List (String × String) :=
  moduleFiles directory p ++ [(Path.join directory stringerFileName, p.stringerInput ++ "\n")]

/-- The ways in which writing a profile ends: with the refusal to overwrite a file, a file that
cannot be checked, a directory that cannot be made, or with writing the files as far as possible. -/
inductive Writes (tree : FileTree) (directory : String) (p : Profile) :
    FileTree → Option Ending → Prop where
  | refused {path : String}
      (h : checkOverwrites tree ((moduleFiles directory p).map Prod.fst) = .error (.foreign path)) :
      Writes tree directory p tree (some (.refused path))
  | unchecked {fault : FileFault}
      (h : checkOverwrites tree ((moduleFiles directory p).map Prod.fst) = .error (.file fault)) :
      Writes tree directory p tree (some (.fileFault fault))
  | unmade {made : FileTree} {fault : FileFault}
      (h : tree.makeDirectories directory = (made, some fault)) :
      Writes tree directory p made (some (.fileFault fault))
  | begun {made : FileTree} {log : List LogLine}
      (hchecks : checkOverwrites tree ((moduleFiles directory p).map Prod.fst) = .ok ())
      (hmade : tree.makeDirectories directory = (made, none)) :
      Writes tree directory p (writeFiles made log (outputFiles directory p)).1
        ((writeFiles made log (outputFiles directory p)).2.2.map .fileFault)

theorem writes_writeProfile (tree : FileTree) (log : List LogLine) (directory : String)
    (p : Profile) : Writes tree directory p (writeProfile tree log directory p).1
      (writeProfile tree log directory p).2.2 := by
  unfold writeProfile
  dsimp only
  split
  next hcheck => exact .refused hcheck
  next hcheck => exact .unchecked hcheck
  next hchecks =>
    split
    next hmade => exact .unmade hmade
    next made hmade =>
      have hbegun : Writes tree directory p (writeFiles made log (outputFiles directory p)).1
          ((writeFiles made log (outputFiles directory p)).2.2.map .fileFault) :=
        .begun hchecks hmade
      rw [outputFiles, writeFiles_append] at hbegun
      -- the input of the stringer tool comes behind the modules
      split
      next hmodules =>
        rw [hmodules] at hbegun
        exact hbegun
      next modules log' hmodules =>
        rw [hmodules] at hbegun
        dsimp only [writeFiles] at hbegun
        split
        next hlast =>
          rw [hlast] at hbegun
          exact hbegun
        next hlast =>
          rw [hlast] at hbegun
          exact hbegun

end FitProfile.CommandLine
