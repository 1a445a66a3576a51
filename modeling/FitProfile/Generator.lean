import FitProfile.RuleSet.Registry
import FitProfile.Workbook.Payload
import FitProfile.Draft.OfWorkbook
import FitProfile.Model.OfDraft
import FitProfile.Source.Profile
/-!
# FitProfile.Generator -- from a workbook file to a profile

A generator stands for one release and one workbook file. It is made from arguments that
are checked in a fixed order: the two parts of the release, the data, and that a rule set
covers the release. Generating opens the file, reads a draft, links it and renders the
model; the first fault ends the work, and no partial profile is made.
-/

namespace FitProfile

/-- What a generator is given as the data of a workbook. -/
inductive DataArgument where
  | payload (p : Payload)
  | other (value : Literal)

/-- A generator for one release and one workbook file. -/
structure Generator where
  version : Version
  rules : RuleSet
  payload : Payload

namespace Generator

/-- A part of a release: an integer that is not negative. -/
def versionPart (name : String) : Literal → Except Fault Int
  | .integer n =>
    if n < 0 then .error (.worded [n] (.input (.versionPartNegative name n) {})) else .ok n
  | value => .error (.worded value.integers (.input (.versionPartNotInteger name value) {}))

/-- A workbook file that is not empty. -/
def workbookData : DataArgument → Except Fault Payload
  | .payload p => if p.isEmpty then .error (.input .dataEmpty {}) else .ok p
  | .other value => .error (.input (.dataNotBytes value.kindName) {})

/-- Makes a generator. -/
def ofArguments (major minor : Literal) (data : DataArgument) : Except Fault Generator := do
  let major ← versionPart "major" major
  let minor ← versionPart "minor" minor
  let payload ← workbookData data
  let rules ← RuleSet.select RuleSet.registered ⟨major, minor⟩
  return ⟨⟨major, minor⟩, rules, payload⟩

/-- A short description for logs. -/
def summary (g : Generator) : String :=
  "<Generator: SDK " ++ g.version.text ++ " (" ++ g.rules.title ++ ")>"

/-- Reads a workbook and links what it says. -/
def link (rules : RuleSet) (version : Version) (book : Workbook) : Reported Model := do
  let draft ← Draft.ofWorkbook rules version book
  let model ← Reported.ofExcept (Model.ofDraft rules version draft)
  Reported.note (.progress
    (.linked model.types.length model.messages.length model.unmatched.length))
  return model

/-- Reads, links and renders a workbook. -/
def render (rules : RuleSet) (version : Version) (moment : Option Moment) (book : Workbook) :
    Reported Profile := do
  let model ← link rules version book
  let profile ← Reported.ofExcept (model.render moment)
  Reported.note (.progress (.rendered version profile.sourceBytes))
  return profile

/-- Generates the profile; `moment` is the moment of generation to name, if any. -/
def generate (g : Generator) (moment : Option Moment) : Reported Profile := do
  Reported.note (.progress (.started g.version g.rules.text))
  let book ← Reported.ofExcept g.payload.toWorkbook
  Reported.note (.progress (.opened book.sheetNames))
  render g.rules g.version moment book

end Generator

end FitProfile
