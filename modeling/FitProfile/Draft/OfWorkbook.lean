import FitProfile.Draft.TypesSheet
import FitProfile.Draft.MessagesSheet
/-!
# FitProfile.Draft.OfWorkbook -- reading a workbook

The release that a workbook declares is the first version text in the cells of the
version sheet, row by row. Where the rule set or the workbook has no such sheet, none is
declared; a sheet without a version text is a fault, and so is a declared release other
than the requested one. After that the Types sheet is read, then the Messages sheet.
-/

namespace FitProfile.Draft

/-- The first version text among cells. -/
def firstVersion? : List String → Except Fault (Option Version)
  | [] => .ok none
  | cell :: rest =>
    match Version.read cell with
    | .found version => .ok (some version)
    | .tooManyDigits count => .error (.tooManyDigitsToRead count)
    | .absent => firstVersion? rest

/-- The release that a workbook declares, if it has a sheet for it. -/
def declaredVersion? (rules : RuleSet) (book : Workbook) : Except Fault (Option Version) :=
  match rules.versionSheet with
  | none => .ok none
  | some name =>
    if name = "" ∨ !book.hasSheet name then .ok none
    else do
      let sheet ← book.sheet (some name)
      match ← firstVersion? (sheet.rows.flatMap Row.cells) with
      | some version => return some version
      | none => throw (.input .versionMissing { sheet := some name })

/-- A declared release other than the requested one, unless the requested one is too long to
write. -/
def versionFault (rules : RuleSet) (found requested : Version) : Fault :=
  .worded requested.numbers
    (.input (.versionDiffers found requested) { sheet := rules.versionSheet })

/-- Reads a workbook for a requested release. -/
def ofWorkbook (rules : RuleSet) (version : Version) (book : Workbook) : Reported Draft := do
  let declared ← Reported.ofExcept (declaredVersion? rules book)
  match declared with
  | some found =>
    if found ≠ version then Reported.ofExcept (.error (versionFault rules found version))
  | none => pure ()
  let typesSheet ← Reported.ofExcept (book.sheet rules.typesSheet)
  let types ← TypesSheet.read rules typesSheet
  let messagesSheet ← Reported.ofExcept (book.sheet rules.messagesSheet)
  let messages ← Reported.ofExcept (MessagesSheet.read rules messagesSheet)
  Reported.note (.progress (.drafted types.length messages.length rules.text))
  return ⟨types, messages, declared⟩

end FitProfile.Draft
