import FitProfile.Version
import FitProfile.Literal
/-!
# FitProfile.RuleSet.Basic -- what varies between releases

A rule set covers a range of releases. It says which sheets hold the types, the messages
and the release, which header label stands over which piece of information, which of
these columns a sheet must have, and three rules of reading: the types that fields use
without a declaration, the type that numbers the messages, and whether integers may be
written in hexadecimal.
-/

namespace FitProfile

/-- The columns of the Types sheet. -/
inductive TypesColumn where
  | typeName | baseType | valueName | value | comment
  deriving DecidableEq, Repr

namespace TypesColumn

/-- All columns of the Types sheet. -/
def all : List TypesColumn := [.typeName, .baseType, .valueName, .value, .comment]

/-- The name of a column in a rule set. -/
def key : TypesColumn → String
  | .typeName => "type_name"
  | .baseType => "base_type"
  | .valueName => "value_name"
  | .value => "value"
  | .comment => "comment"

end TypesColumn

/-- The columns of the Messages sheet. -/
inductive MessagesColumn where
  | messageName | fieldNumber | fieldName | fieldType | array | components | scale | offset
  | units | bits | accumulate | refFieldName | refFieldValue | comment
  deriving DecidableEq, Repr

namespace MessagesColumn

/-- All columns of the Messages sheet. -/
def all : List MessagesColumn :=
  [.messageName, .fieldNumber, .fieldName, .fieldType, .array, .components, .scale, .offset,
   .units, .bits, .accumulate, .refFieldName, .refFieldValue, .comment]

/-- The name of a column in a rule set. -/
def key : MessagesColumn → String
  | .messageName => "message_name"
  | .fieldNumber => "field_num"
  | .fieldName => "field_name"
  | .fieldType => "field_type"
  | .array => "array"
  | .components => "components"
  | .scale => "scale"
  | .offset => "offset"
  | .units => "units"
  | .bits => "bits"
  | .accumulate => "accumulate"
  | .refFieldName => "ref_field_name"
  | .refFieldValue => "ref_field_value"
  | .comment => "comment"

end MessagesColumn

/-- The rules for a range of releases. The columns are pairs of a column name and the
header label it is found by. Rules made by hand may leave out their name, a sheet or the
type that numbers the messages; a sheet or a type that is left out is never found. -/
structure RuleSet where
  name : Option String
  minVersion : Version
  maxVersion : Version
  typesSheet : Option String
  messagesSheet : Option String
  versionSheet : Option String
  typesColumns : List (String × String)
  messagesColumns : List (String × String)
  requiredTypesColumns : List String
  requiredMessagesColumns : List String
  implicitTypes : List (String × String)
  messageNumberType : Option String
  hexValues : Bool
  deriving DecidableEq, Repr

namespace RuleSet

/-- Whether the range of a rule set holds a release. -/
def supports (rules : RuleSet) (version : Version) : Bool :=
  rules.minVersion.le version && version.le rules.maxVersion

/-- The range of a rule set. -/
def rangeText (rules : RuleSet) : String := rules.minVersion.text ++ "-" ++ rules.maxVersion.text

/-- The integers in the text of the range. -/
def bounds (rules : RuleSet) : List Int := rules.minVersion.numbers ++ rules.maxVersion.numbers

/-- The name of a rule set in texts. -/
def title (rules : RuleSet) : String := (Literal.ofText? rules.name).shown

/-- The name and the range of a rule set. -/
def text (rules : RuleSet) : String := rules.title ++ " (" ++ rules.rangeText ++ ")"

end RuleSet

end FitProfile
