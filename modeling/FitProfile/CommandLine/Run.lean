import FitProfile.CommandLine.Options
import FitProfile.CommandLine.FileTree
import FitProfile.Generator
import FitProfile.Fingerprint.Stream
/-!
# FitProfile.CommandLine.Run -- a run of the program

A run reads its arguments, the release and the workbook, generates the profile, and
writes the three modules and the input of the stringer tool into the output directory.
A module file that is already there must bear the banner of generated files, or the run
refuses to go on; this is settled for all three before any directory or file is made.
The fingerprint is printed on demand, and always when there is no output directory.

A run is a function of the arguments, the time, the file tree and the digest that
fingerprints are made by. Its result says how it ended, what it printed and logged, and
which file tree it leaves.
-/

namespace FitProfile.CommandLine

open FitProfile.Number

/-- How much a log line matters. -/
inductive LogLevel where
  | debug | info | error
  deriving DecidableEq, Repr

namespace LogLevel

/-- The name of a level. -/
def name : LogLevel → String
  | .debug => "DEBUG"
  | .info => "INFO"
  | .error => "ERROR"

end LogLevel

/-- A line of the log. -/
structure LogLine where
  logger : String
  level : LogLevel
  text : String
  deriving DecidableEq, Repr

namespace LogLine

/-- The line as it is written. -/
def written (l : LogLine) : String := l.logger ++ ": " ++ l.level.name ++ ": " ++ l.text

/-- A line of the program itself. -/
def ofProgram (level : LogLevel) (text : String) : LogLine := ⟨"generate_profile", level, text⟩

/-- The line of a step of progress. -/
def ofProgress : Progress → LogLine
  | .started version rules =>
    ⟨"fitgen.generator", .debug,
     "Generating profile for SDK " ++ version.text ++ " with rule set " ++ rules⟩
  | .opened sheets =>
    ⟨"fitgen.workbook", .debug, "Opened workbook with sheets: " ++ ", ".intercalate sheets⟩
  | .drafted types messages rules =>
    ⟨"fitgen.extractor", .debug,
     "Extracted " ++ decimal types ++ " types and " ++ decimal messages ++
       " messages using rule set " ++ rules⟩
  | .linked types messages unmatched =>
    ⟨"fitgen.resolver", .debug,
     "Resolved " ++ decimal types ++ " types, " ++ decimal messages ++ " messages (" ++
       decimal unmatched ++ " message numbers without a message)"⟩
  | .rendered version bytes =>
    ⟨"fitgen.renderer", .debug,
     "Rendered profile for SDK " ++ version.text ++ " (" ++ decimal bytes ++ " bytes)"⟩

end LogLine

/-- How a run ends. -/
inductive Ending where
  /-- With a status; zero is success. -/
  | status (code : Nat)
  /-- With a refusal of the arguments. -/
  | usage (fault : UsageFault)
  /-- After a call for help. -/
  | help
  /-- With the refusal to overwrite a file. -/
  | refused (path : String)
  /-- With a file or directory that cannot be used. -/
  | fileFault (fault : FileFault)
  /-- With a fault that is not one of the workbook. -/
  | fault (fault : Fault)

/-- The wording of the refusal to overwrite a file. -/
def refusalText (path : String) : String := "Couldn't find header in " ++ path ++ ". Exiting."

/-- What a run does. -/
structure RunResult where
  ending : Ending
  output : String
  log : List LogLine
  warnings : List DuplicateName
  tree : FileTree

/-- Line ends brought to a line feed. -/
def unixLines : List Char → List Char
  | [] => []
  | '\r' :: '\n' :: rest => '\n' :: unixLines rest
  | '\r' :: rest => '\n' :: unixLines rest
  | c :: rest => c :: unixLines rest

/-- Whether a text stands somewhere in another one. -/
def occursIn (part : List Char) : List Char → Bool
  | [] => part.isEmpty
  | c :: rest => part.isPrefixOf (c :: rest) || occursIn part rest

/-- Whether a text bears the banner of generated files. -/
def hasBanner (s : String) : Bool := occursIn Source.bannerText.toList (unixLines s.toList)

/-- Why a module file cannot be written. -/
inductive OverwriteFault where
  | foreign (path : String)
  | file (fault : FileFault)
  deriving DecidableEq, Repr

/-- Checks that nothing, or a generated file, stands at a path. -/
def checkOverwrite (tree : FileTree) (name : String) : Except OverwriteFault Unit :=
  match tree.find name with
  | .error _ => .ok ()
  | .ok .directory => .error (.file .isADirectory)
  | .ok (.file (.payload _)) => .error (.file .notText)
  | .ok (.file (.text s)) => if hasBanner s then .ok () else .error (.foreign name)

/-- Checks paths in order. -/
def checkOverwrites (tree : FileTree) : List String → Except OverwriteFault Unit
  | [] => .ok ()
  | name :: rest => do
    checkOverwrite tree name
    checkOverwrites tree rest

/-- The file of the input of the stringer tool. -/
def stringerFileName : String := "stringer_types.txt"

/-- The files that a run may write below a directory. -/
def outputFileNames (directory : String) : List String :=
  [Source.Module.types.fileName, Source.Module.messages.fileName, Source.Module.profile.fileName,
   stringerFileName].map (Path.join directory)

/-- The module files below a directory with their texts. -/
def moduleFiles (directory : String) (p : Profile) : List (String × String) :=
  [(Path.join directory Source.Module.types.fileName, p.types),
   (Path.join directory Source.Module.messages.fileName, p.messages),
   (Path.join directory Source.Module.profile.fileName, p.profile)]

/-- Writes files in order, up to the first that cannot be written; each attempt is logged. -/
def writeFiles (tree : FileTree) (log : List LogLine) :
    List (String × String) → FileTree × List LogLine × Option FileFault
  | [] => (tree, log, none)
  | (name, text) :: rest =>
    let log := log ++ [.ofProgram .info ("Writing to " ++ name)]
    match tree.write name text with
    | .ok tree => writeFiles tree log rest
    | .error fault => (tree, log, some fault)

/-- Writes a profile into a directory. -/
def writeProfile (tree : FileTree) (log : List LogLine) (directory : String) (p : Profile) :
    FileTree × List LogLine × Option Ending :=
  let files := moduleFiles directory p
  match checkOverwrites tree (files.map Prod.fst) with
  | .error (.foreign name) => (tree, log, some (.refused name))
  | .error (.file fault) => (tree, log, some (.fileFault fault))
  | .ok () =>
    match tree.makeDirectories directory with
    | (tree, some fault) => (tree, log, some (.fileFault fault))
    | (tree, none) =>
      match writeFiles tree log files with
      | (tree, log, some fault) => (tree, log, some (.fileFault fault))
      | (tree, log, none) =>
        match tree.write (Path.join directory stringerFileName) (p.stringerInput ++ "\n") with
        | .error fault => (tree, log, some (.fileFault fault))
        | .ok tree => (tree, log, none)

/-- Whether the program reports a fault itself; any other one ends it. -/
def isReported : Fault → Bool
  | .input _ _ | .integrity _ _ | .unsupportedVersion _ _ | .rendering _ => true
  | _ => false

/-- What the arguments say about the release. -/
def Options.release (options : Options) : Version.Reading :=
  options.sdk.elim .absent Version.read

/-- The release as the arguments give it; one that is left unsaid is an empty list. -/
def Options.releaseText (options : Options) : String :=
  (options.sdk.elim (.list []) Literal.text).written

/-- The directory that is written to; an empty name is none. -/
def Options.directory? (options : Options) : Option String :=
  options.outputDir.filter fun d => !d.toList.isEmpty

/-- Finishes a run that has generated a profile. -/
def finish (options : Options) (tree : FileTree) (log : List LogLine)
    (warnings : List DuplicateName) (p : Profile)
    (digest : ByteArray → UInt64 := XxHash64.hash) : RunResult :=
  let log :=
    if p.unmatched.isEmpty then log
    else log ++
      [.ofProgram .info ("Message numbers without a message: " ++ ", ".intercalate p.unmatched)]
  let printed := decimal (p.fingerprint digest).toNat ++ "\n"
  match options.directory? with
  | none => ⟨.status 0, printed, log, warnings, tree⟩
  | some directory =>
    match writeProfile tree log directory p with
    | (tree, log, some ending) => ⟨ending, "", log, warnings, tree⟩
    | (tree, log, none) =>
      ⟨.status 0, if options.fingerprint then printed else "", log, warnings, tree⟩

/-- Generates the profile of a workbook and finishes the run. -/
def generate (now : Moment) (options : Options) (version : Version) (tree : FileTree)
    (payload : Payload) (digest : ByteArray → UInt64 := XxHash64.hash) : RunResult :=
  let moment := if options.timestamp then some now else none
  let begun := [LogLine.ofProgram .info ("Generating profile from " ++ options.workbook)]
  let reported : Reported Profile := do
    let generator ← Reported.ofExcept
      (Generator.ofArguments (.integer version.major) (.integer version.minor) (.payload payload))
    generator.generate moment
  let log := begun ++ (if options.verbose then reported.steps.map .ofProgress else [])
  match reported.outcome with
  | .ok p => finish options tree log reported.warnings p digest
  | .error fault =>
    if isReported fault then
      ⟨.status 1, "", log ++ [.ofProgram .error fault.message], reported.warnings, tree⟩
    else ⟨.fault fault, "", log, reported.warnings, tree⟩

/-- A run of the program. -/
def run (now : Moment) (arguments : List String) (tree : FileTree)
    (digest : ByteArray → UInt64 := XxHash64.hash) : RunResult :=
  match Options.parse arguments with
  | .error fault => ⟨.usage fault, "", [], [], tree⟩
  | .ok none => ⟨.help, "", [], [], tree⟩
  | .ok (some options) =>
    match options.release with
    | .absent =>
      ⟨.status 2, "",
       [.ofProgram .error ("Invalid SDK version " ++ options.releaseText)], [], tree⟩
    | .tooManyDigits count => ⟨.fault (.tooManyDigitsToRead count), "", [], [], tree⟩
    | .found version =>
      match tree.read options.workbook with
      | .error .nullCharacter => ⟨.fileFault .nullCharacter, "", [], [], tree⟩
      | .error fault =>
        ⟨.status 1, "",
         [.ofProgram .error ("Couldn't read " ++ options.workbook ++ ": " ++ fault.text ++ ": " ++
           Text.quoted options.workbook)], [], tree⟩
      | .ok content => generate now options version tree content.asPayload digest

end FitProfile.CommandLine
