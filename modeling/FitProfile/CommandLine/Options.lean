import FitProfile.Text.Quoted
import FitProfile.Text.DecimalDigit
/-!
# FitProfile.CommandLine.Options -- the arguments of the program

The program takes the path of a workbook and options, in any order. A long option may be
shortened as long as it stays unambiguous and may carry its value behind an equals sign;
a short option may carry its value directly behind it, and short options without value
may share one dash, also with an equals sign after the first one. After a lone `--`
nothing is an option. A text that looks like a negative number or that has a space in it
is no option either, unless it is the start of one.

Arguments are first told apart one by one (`Token`), and then taken from left to right.
The options of one argument count only when all of them can be taken.

These are the rules of argparse, in the form it had before it was changed in two places.
Here a value `--` says nothing, also where it is attached as in `-o=--` (`optionText?`);
later it is the value. And here only the first option behind a dash may be followed by an
equals sign (`Parsed.takeAttached`): `-vo=out` names the directory `=out`, `-v=oout` is
read as `-v -o out`, and the `x` of `-vx` is a value that `-v` does not take. Later the
equals sign of `-vo=out` is dropped, the text behind that of `-v=oout` is refused, and
the `-x` in `-vx` is an option that is not recognized.
-/

namespace FitProfile.CommandLine

/-- The options of the program. -/
inductive OptionName where
  | help | sdk | outputDir | noTimestamp | fingerprint | verbose
  deriving DecidableEq, Repr

namespace OptionName

/-- The spellings of the options in order. -/
def spellings : List (String × OptionName) :=
  [("-h", .help), ("--help", .help), ("--sdk", .sdk), ("-o", .outputDir),
   ("--output-dir", .outputDir), ("--no-timestamp", .noTimestamp),
   ("--fingerprint", .fingerprint), ("-v", .verbose), ("--verbose", .verbose)]

/-- Options that take a value. -/
def takesValue : OptionName → Bool
  | .sdk | .outputDir => true
  | _ => false

/-- The spellings of an option, as messages name it. -/
def title (o : OptionName) : String :=
  "/".intercalate ((spellings.filter fun s => s.2 == o).map Prod.fst)

end OptionName

/-- The name of the program in its own messages. -/
def programName : String := "generate_profile.py"

/-- How the program is called. -/
def usageText : String :=
  "usage: " ++ programName ++
    " [-h] --sdk SDK [-o OUTPUT_DIR] [--no-timestamp] [--fingerprint] [-v] workbook"

/-- Why arguments are refused. -/
inductive UsageFault where
  | ambiguous (argument : String) (candidates : List String)
  | valueMissing (option : OptionName)
  | valueNotTaken (option : OptionName) (value : String)
  | argumentsMissing (names : List String)
  | notRecognized (arguments : List String)
  deriving DecidableEq, Repr

namespace UsageFault

/-- The wording of a fault. -/
def message : UsageFault → String
  | .ambiguous argument candidates =>
    "ambiguous option: " ++ argument ++ " could match " ++ ", ".intercalate candidates
  | .valueMissing option => "argument " ++ option.title ++ ": expected one argument"
  | .valueNotTaken option value =>
    "argument " ++ option.title ++ ": ignored explicit argument " ++ Text.quoted value
  | .argumentsMissing names =>
    "the following arguments are required: " ++ ", ".intercalate names
  | .notRecognized arguments => "unrecognized arguments: " ++ " ".intercalate arguments

/-- The line that the program ends with. -/
def line (fault : UsageFault) : String := programName ++ ": error: " ++ fault.message

end UsageFault

/-- What an argument is by itself. A text may be attached to an option: behind an equals
sign, or directly behind a short option. -/
inductive Token where
  | plain (s : String)
  | separator
  | option (name : OptionName) (isLong : Bool) (attached : Option (List Char))
  | unknownOption (s : String)
  deriving DecidableEq, Repr

/-- Splits a text at its first equals sign. -/
def splitAtEquals? (cs : List Char) : Option (List Char × List Char) :=
  match cs.dropWhile (· != '=') with
  | _ :: value => some (cs.takeWhile (· != '='), value)
  | [] => none

/-- The option of an exact spelling. -/
def exactOption? (cs : List Char) : Option OptionName :=
  OptionName.spellings.lookup (String.ofList cs)

/-- Whether a spelling has two dashes. -/
def isLongSpelling : List Char → Bool
  | '-' :: '-' :: _ => true
  | _ => false

/-- The spellings that an argument may stand for, with the text attached to each. -/
def candidates (cs : List Char) : List (String × OptionName × Option (List Char)) :=
  if isLongSpelling cs then
    let start := (splitAtEquals? cs).elim cs Prod.fst
    (OptionName.spellings.filter fun s => start.isPrefixOf s.1.toList).map
      fun s => (s.1, s.2, (splitAtEquals? cs).map Prod.snd)
  else
    OptionName.spellings.filterMap fun s =>
      if s.1.toList = cs.take 2 then some (s.1, s.2, some (cs.drop 2))
      else if cs.isPrefixOf s.1.toList then some (s.1, s.2, none)
      else none

/-- Whether a text looks like a negative number. A line feed may follow it. -/
def looksNegative (cs : List Char) : Bool :=
  let body := (cs.drop 1)
  let body := if body.getLast? = some '\n' then body.dropLast else body
  let whole := body.takeWhile Text.isDecimalDigit
  match body.dropWhile Text.isDecimalDigit with
  | [] => !whole.isEmpty
  | '.' :: places => !places.isEmpty && places.all Text.isDecimalDigit
  | _ => false

/-- Tells what an argument is, if it does not follow a separator. -/
def classify (s : String) : Except UsageFault Token :=
  let cs := s.toList
  match cs with
  | '-' :: _ :: _ =>
    match exactOption? cs with
    | some name => .ok (.option name (isLongSpelling cs) none)
    | none =>
      match (splitAtEquals? cs).bind fun (start, value) =>
          (exactOption? start).map fun name =>
            Token.option name (isLongSpelling start) (some value) with
      | some token => .ok token
      | none =>
        match candidates cs with
        | [(spelling, name, attached)] =>
          .ok (.option name (isLongSpelling spelling.toList) attached)
        | [] =>
          if looksNegative cs || cs.contains ' ' then .ok (.plain s) else .ok (.unknownOption s)
        | several => .error (.ambiguous s (several.map Prod.fst))
  | _ => .ok (.plain s)

/-- Tells what the arguments are: after the first separator all are plain. -/
def tokens : List String → Except UsageFault (List Token)
  | [] => .ok []
  | s :: rest =>
    if s = "--" then .ok (.separator :: rest.map .plain)
    else do
      let token ← classify s
      let others ← tokens rest
      return token :: others

/-- What the value of an option says: the text `--` says nothing, however it is given. -/
def optionText? (value : String) : Option String := if value = "--" then none else some value

/-- What the arguments have said so far. The option for the release may have been given
without saying anything. -/
structure Parsed where
  workbook : Option String
  sdk : Option (Option String)
  outputDir : Option String
  noTimestamp : Bool
  fingerprint : Bool
  verbose : Bool
  help : Bool
  extras : List String
  deriving DecidableEq, Repr

namespace Parsed

/-- Nothing said yet. -/
def start : Parsed := ⟨none, none, none, false, false, false, false, []⟩

/-- Takes an option without value. -/
def setFlag (p : Parsed) : OptionName → Parsed
  | .help => { p with help := true }
  | .noTimestamp => { p with noTimestamp := true }
  | .fingerprint => { p with fingerprint := true }
  | .verbose => { p with verbose := true }
  | _ => p

/-- Takes the value of an option. -/
def setValue (p : Parsed) (value : String) : OptionName → Parsed
  | .sdk => { p with sdk := some (optionText? value) }
  | .outputDir => { p with outputDir := optionText? value }
  | _ => p

/-- Takes an argument that nothing asked for. -/
def addExtra (p : Parsed) (s : String) : Parsed := { p with extras := p.extras ++ [s] }

/-- Takes an option and the text attached to it; the second part is an option that still
waits for its value. Behind a short option without value the text names the next one; an
equals sign there is part of the value of that option. -/
def takeAttached (p : Parsed) (name : OptionName) (isLong : Bool) (attached : List Char) :
    Except UsageFault (Parsed × Option OptionName) :=
  if name.takesValue then .ok (p.setValue (String.ofList attached) name, none)
  else match attached with
    | [] => .error (.valueNotTaken name "")
    | c :: rest =>
      match if isLong then none else exactOption? ['-', c] with
      | none => .error (.valueNotTaken name (String.ofList attached))
      | some next =>
        if !rest.isEmpty then takeAttached (p.setFlag name) next false rest
        else if next.takesValue then .ok (p.setFlag name, some next)
        else .ok ((p.setFlag name).setFlag next, none)

/-- Takes the tokens from left to right, up to a call for help. -/
def takeTokens (p : Parsed) : List Token → Except UsageFault Parsed
  | [] => .ok p
  | .unknownOption s :: rest => takeTokens (p.addExtra s) rest
  | .option name isLong attached :: rest => do
    let (p, waiting) ← match attached with
      | some attached => p.takeAttached name isLong attached
      | none => if name.takesValue then .ok (p, some name) else .ok (p.setFlag name, none)
    match waiting, rest with
    | none, rest => if p.help then return p else takeTokens p rest
    | some name, .plain value :: rest =>
      if p.help then return p else takeTokens (p.setValue value name) rest
    | some name, _ => throw (.valueMissing name)
  | .separator :: .plain s :: rest =>
    if p.workbook.isNone then takeTokens { p with workbook := some s } rest
    else takeTokens ((p.addExtra "--").addExtra s) rest
  | .separator :: rest => takeTokens (p.addExtra "--") rest
  | .plain s :: .separator :: rest =>
    if p.workbook.isNone then takeTokens { p with workbook := some s } rest
    else takeTokens ((p.addExtra s).addExtra "--") rest
  | .plain s :: rest =>
    if p.workbook.isNone then takeTokens { p with workbook := some s } rest
    else takeTokens (p.addExtra s) rest

end Parsed

/-- What the program is asked to do. The release may be left unsaid, and so may the
directory to write to. -/
structure Options where
  workbook : String
  sdk : Option String
  outputDir : Option String
  timestamp : Bool
  fingerprint : Bool
  verbose : Bool
  deriving DecidableEq, Repr

namespace Options

/-- Reads the arguments; `none` is a call for help. -/
def parse (arguments : List String) : Except UsageFault (Option Options) := do
  let tokens ← tokens arguments
  let p ← Parsed.start.takeTokens tokens
  if p.help then return none
  match p.workbook, p.sdk with
  | some workbook, some sdk =>
    if p.extras.isEmpty then
      return some { workbook := workbook, sdk := sdk, outputDir := p.outputDir
                    timestamp := !p.noTimestamp, fingerprint := p.fingerprint
                    verbose := p.verbose }
    else throw (.notRecognized p.extras)
  | workbook, sdk =>
    throw (.argumentsMissing ((if workbook.isNone then ["workbook"] else []) ++
      (if sdk.isNone then [OptionName.sdk.title] else [])))

end Options

end FitProfile.CommandLine
