import FitProfile.RuleSet.Basic
import FitProfile.Fault
import FitProfile.Order.Insertion
/-!
# FitProfile.RuleSet.Registry -- the rule sets of all supported releases

Two rule sets are registered, which differ in where the release is declared and in
whether the accumulate column is required. A registry is sound when every rule set has a
range, maps known columns only and all that it requires, and no two ranges meet. The rule
set for a release is the first one whose range holds it.
-/

namespace FitProfile

/-- The header labels of the Types sheet. -/
def typesHeaders : List (String × String) :=
  [("type_name", "Type Name"), ("base_type", "Base Type"), ("value_name", "Value Name"),
   ("value", "Value"), ("comment", "Comment")]

/-- The header labels of the Messages sheet. -/
def messagesHeaders : List (String × String) :=
  [("message_name", "Message Name"), ("field_num", "Field Def #"), ("field_name", "Field Name"),
   ("field_type", "Field Type"), ("array", "Array"), ("components", "Components"),
   ("scale", "Scale"), ("offset", "Offset"), ("units", "Units"), ("bits", "Bits"),
   ("accumulate", "Accumulate"), ("ref_field_name", "Ref Field Name"),
   ("ref_field_value", "Ref Field Value"), ("comment", "Comment")]

/-- The columns that every Types sheet must have. -/
def requiredTypes : List String := ["type_name", "base_type", "value_name", "value"]

/-- The columns that every Messages sheet must have. -/
def requiredMessages : List String :=
  ["message_name", "field_num", "field_name", "field_type", "array", "components", "scale",
   "offset", "units", "bits", "ref_field_name", "ref_field_value"]

namespace RuleSet

/-- The rules of the releases 16 to 19, whose workbooks do not declare a release. -/
def sdk16 : RuleSet where
  name := some "sdk16"
  minVersion := ⟨16, 0⟩
  maxVersion := ⟨19, 99⟩
  typesSheet := some "Types"
  messagesSheet := some "Messages"
  versionSheet := none
  typesColumns := typesHeaders
  messagesColumns := messagesHeaders
  requiredTypesColumns := requiredTypes
  requiredMessagesColumns := requiredMessages
  implicitTypes := [("bool", "enum")]
  messageNumberType := some "mesg_num"
  hexValues := true

/-- The rules of the releases 20 and 21. -/
def sdk20 : RuleSet where
  name := some "sdk20"
  minVersion := ⟨20, 0⟩
  maxVersion := ⟨21, 99⟩
  typesSheet := some "Types"
  messagesSheet := some "Messages"
  versionSheet := some "Version"
  typesColumns := typesHeaders
  messagesColumns := messagesHeaders
  requiredTypesColumns := requiredTypes
  requiredMessagesColumns := requiredMessages ++ ["accumulate"]
  implicitTypes := [("bool", "enum")]
  messageNumberType := some "mesg_num"
  hexValues := true

/-- The registered rule sets. -/
def registered : List RuleSet := [sdk16, sdk20]

end RuleSet

/-- What is wrong with a registry. -/
inductive RegistryFault where
  | emptyRange (rules : RuleSet)
  | unknownColumns (rules : RuleSet) (columns : List String)
  | typesColumnUnmapped (rules : RuleSet) (column : String)
  | messagesColumnUnmapped (rules : RuleSet) (column : String)
  | overlap (lower upper : RuleSet)
  /-- A range in the wording is too long to write. -/
  | tooManyDigits
  deriving DecidableEq, Repr

namespace RegistryFault

/-- The wording of a fault. -/
def message : RegistryFault → String
  | .emptyRange rules => "Rule set " ++ rules.text ++ " has an empty version range"
  | .unknownColumns rules columns =>
    "Rule set " ++ rules.text ++ " maps unknown columns: " ++ ", ".intercalate columns
  | .typesColumnUnmapped rules column =>
    "Rule set " ++ rules.text ++ " requires unmapped types column " ++ Text.quoted column
  | .messagesColumnUnmapped rules column =>
    "Rule set " ++ rules.text ++ " requires unmapped messages column " ++ Text.quoted column
  | .overlap lower upper => "Rule sets " ++ lower.text ++ " and " ++ upper.text ++ " overlap"
  | .tooManyDigits => Fault.tooManyDigitsToWrite.message

/-- A fault that names rule sets with their ranges, unless one of the ranges is too long to
write. -/
def worded (named : List RuleSet) (fault : RegistryFault) : RegistryFault :=
  if (named.flatMap RuleSet.bounds).all Number.isWritable then fault else .tooManyDigits

end RegistryFault

namespace RuleSet

/-- The columns that a rule set maps although no sheet has them, each once and in
ascending order. -/
def unknownColumns (rules : RuleSet) : List String :=
  let types := (rules.typesColumns.map Prod.fst).filter fun key =>
    !(TypesColumn.all.map TypesColumn.key).contains key
  let messages := (rules.messagesColumns.map Prod.fst).filter fun key =>
    !(MessagesColumn.all.map MessagesColumn.key).contains key
  Order.sortBy (fun a b => decide (a ≤ b)) (types ++ messages).eraseDups

/-- Checks a rule set by itself. -/
def check (rules : RuleSet) : Except RegistryFault Unit :=
  if rules.maxVersion.lt rules.minVersion then .error (.worded [rules] (.emptyRange rules))
  else if !rules.unknownColumns.isEmpty then
    .error (.worded [rules] (.unknownColumns rules rules.unknownColumns))
  else
    match rules.requiredTypesColumns.find? fun key => (rules.typesColumns.lookup key).isNone with
    | some key => .error (.worded [rules] (.typesColumnUnmapped rules key))
    | none =>
      match rules.requiredMessagesColumns.find? fun key =>
          (rules.messagesColumns.lookup key).isNone with
      | some key => .error (.worded [rules] (.messagesColumnUnmapped rules key))
      | none => .ok ()

/-- Checks each rule set by itself, in order. -/
def checkEach : List RuleSet → Except RegistryFault Unit
  | [] => .ok ()
  | rules :: rest => do
    rules.check
    checkEach rest

/-- Checks that each range lies above the one before it. -/
def checkAscending : List RuleSet → Except RegistryFault Unit
  | lower :: upper :: rest =>
    if upper.minVersion.le lower.maxVersion then
      .error (.worded [lower, upper] (.overlap lower upper))
    else checkAscending (upper :: rest)
  | _ => .ok ()

/-- Checks a registry, in ascending order of the least releases. -/
def checkRegistry (registry : List RuleSet) : Except RegistryFault Unit := do
  let ordered := Order.sortBy (fun a b => a.minVersion.le b.minVersion) registry
  checkEach ordered
  checkAscending ordered

/-- The ranges of a registry. -/
def supportedRanges (registry : List RuleSet) : List String := registry.map rangeText

/-- The integers in the wording of a release that no range of a registry holds. -/
def unsupportedNumbers (registry : List RuleSet) (version : Version) : List Int :=
  version.numbers ++ registry.flatMap bounds

/-- A release that no range of a registry holds, unless the release or one of the ranges is too
long to write. -/
def unsupportedFault (registry : List RuleSet) (version : Version) : Fault :=
  .worded (unsupportedNumbers registry version)
    (.unsupportedVersion version (supportedRanges registry))

/-- The first rule set of a registry whose range holds a release. -/
def select (registry : List RuleSet) (version : Version) : Except Fault RuleSet :=
  match registry.find? fun rules => rules.supports version with
  | some rules => .ok rules
  | none => .error (unsupportedFault registry version)

end RuleSet

end FitProfile
