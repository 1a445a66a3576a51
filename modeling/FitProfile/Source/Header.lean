import FitProfile.Source.Layout
import FitProfile.Calendar.Basic
import FitProfile.Version
/-!
# FitProfile.Source.Header -- the head of a generated module

Each generated module starts with a banner of three lines, by which generated files are
known again, followed by its name and title, the release, and the moment of generation
where that is wanted.
-/

namespace FitProfile.Source

/-- The width of the banner. -/
def bannerWidth : Nat := 78

/-- A title in the middle of a rule; of an odd number of places to fill, the greater part
stands behind the title. -/
def bannerLine (title : String) : String :=
  let inner := "   " ++ title ++ "   "
  let free := bannerWidth - inner.length
  String.ofList (List.replicate (free / 2) '#') ++ inner ++
    String.ofList (List.replicate (free - free / 2) '#')

/-- The banner of generated files. -/
def banner : List String :=
  let rule := String.ofList (List.replicate bannerWidth '#')
  [rule, bannerLine "AUTOMATICALLY GENERATED DEFINITION FILE", rule]

/-- The banner as it stands in a file, without the end of its last line. -/
def bannerText : String := "\n".intercalate banner

/-- The generated modules. -/
inductive Module where
  | types
  | messages
  | profile
  deriving DecidableEq, Repr

namespace Module

/-- The name of a module. -/
def name : Module → String
  | .types => "profile_types"
  | .messages => "profile_messages"
  | .profile => "profile"

/-- The file of a module. -/
def fileName (m : Module) : String := m.name ++ ".py"

/-- The title of a module. -/
def title : Module → String
  | .types => "FIT SDK Profile Types"
  | .messages => "FIT SDK Profile Messages"
  | .profile => "FIT SDK Profile Metadata"

end Module

/-- The module of the runtime that generated modules import from. -/
def recordsModule : String := "fit.records"

/-- The head of a module. -/
def header (m : Module) (version : Version) (moment : Option Moment) : List String :=
  banner ++
  ["#", "# " ++ m.fileName ++ " -- " ++ m.title,
   "# Exported from FIT SDK " ++ version.text ++ " Profile"] ++
  (match moment with
    | some t => ["# Created on " ++ t.stamp ++ " by fitgen"]
    | none => []) ++
  ["#", ""]

end FitProfile.Source
