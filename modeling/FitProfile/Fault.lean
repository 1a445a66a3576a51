import FitProfile.Literal
import FitProfile.Version
/-!
# FitProfile.Fault -- what can be wrong, and where

A fault has a cause and, for the causes that lie in the workbook, a location: sheet, row,
column, message and field, as far as they are known. The wording of every cause stands in
this module alone. Rows are counted from zero here and from one in the wording, as
spreadsheets do.

Faults of the input (cells that cannot be read) and of its integrity (cells that
contradict each other) are kept apart, as are those of rendering, of an unsupported
release and of integers beyond the limit on decimal digits.
-/

namespace FitProfile

open FitProfile.Number

/-- A place in the workbook, as far as it is known. -/
structure Location where
  sheet : Option String := none
  row : Option Int := none
  column : Option String := none
  message : Option String := none
  field : Option String := none
  deriving DecidableEq, Repr

namespace Location

/-- The known parts, each with its name. -/
def parts (location : Location) : List String :=
  [location.sheet.map ("sheet: " ++ ·), location.row.map fun r => "row: " ++ decimal (r + 1),
   location.column.map ("column: " ++ ·), location.message.map ("message: " ++ ·),
   location.field.map ("field: " ++ ·)].filterMap id

/-- The integers in the wording. -/
def numbers (location : Location) : List Int := (location.row.map (· + 1)).toList

/-- A text followed by the location in square brackets, if any part of it is known. -/
def annotate (location : Location) (text : String) : String :=
  match location.parts with
  | [] => text
  | parts => text ++ " [" ++ ", ".intercalate parts ++ "]"

end Location

/-- File formats of a workbook. -/
inductive Format where
  | xlsx
  | xls
  deriving DecidableEq, Repr

namespace Format

/-- The name of a format. -/
def name : Format → String
  | .xlsx => "xlsx"
  | .xls => "xls"

end Format

/-- What is wrong with the input. -/
inductive InputCause where
  | dataEmpty
  | dataUnreadable (format : Format)
  | dataOfNoFormat (start : List UInt8)
  | dataNotBytes (kind : String)
  | versionPartNotInteger (part : String) (value : Literal)
  | versionPartNegative (part : String) (value : Int)
  | sheetMissing (name : Option String)
  | sheetEmpty
  | columnMissing (label : String)
  | versionMissing
  | versionDiffers (declared requested : Version)
  | invalidInteger (text : String)
  | invalidNumber (text : String)
  | invalidFlag (text : String)
  | invalidArray (text : String)
  | baseTypeUnknown (baseType type : String)
  | valueOutsideType (value : String)
  | valueMissing (value : String)
  | fieldOutsideMessage (field : String)
  | fieldNameMissing
  | fieldTypeMissing
  | referenceCountsDiffer (names values : Nat)
  | entryCountDiffers (expected : Int) (got : Nat)
  | componentWithoutBits (component : String)
  | subfieldWithoutParent (subfield : String)
  | subfieldWithoutReference (subfield : String)

namespace InputCause

/-- The wording of a cause. -/
def text : InputCause → String
  | .dataEmpty => "Workbook data is empty"
  | .dataUnreadable format => "Unreadable " ++ format.name ++ " workbook"
  | .dataOfNoFormat start =>
    "Workbook data is neither xlsx nor xls (starts with " ++ Text.quotedBytes start ++ ")"
  | .dataNotBytes kind => "Workbook data must be bytes, got " ++ kind
  | .versionPartNotInteger part value =>
    "SDK " ++ part ++ " version must be an int, got " ++ value.written
  | .versionPartNegative part value =>
    "SDK " ++ part ++ " version must not be negative, got " ++ decimal value
  | .sheetMissing name => "Workbook has no sheet named " ++ (Literal.ofText? name).written
  | .sheetEmpty => "Sheet is empty"
  | .columnMissing label => "Missing required column " ++ Text.quoted label
  | .versionMissing => "No version found"
  | .versionDiffers declared requested =>
    "Workbook declares SDK version " ++ declared.text ++ " but " ++ requested.text ++
      " was requested"
  | .invalidInteger text => "Invalid integer " ++ Text.quoted text
  | .invalidNumber text => "Invalid number " ++ Text.quoted text
  | .invalidFlag text => "Invalid flag " ++ Text.quoted text
  | .invalidArray text => "Invalid array specification " ++ Text.quoted text
  | .baseTypeUnknown baseType type =>
    "Unknown base type " ++ Text.quoted baseType ++ " for type " ++ Text.quoted type
  | .valueOutsideType value => "Value " ++ Text.quoted value ++ " outside of any type"
  | .valueMissing value => "Missing value for " ++ Text.quoted value
  | .fieldOutsideMessage field => "Field " ++ Text.quoted field ++ " outside of any message"
  | .fieldNameMissing => "Missing field name"
  | .fieldTypeMissing => "Missing field type"
  | .referenceCountsDiffer names values =>
    decimal names ++ " reference fields but " ++ decimal values ++ " reference values"
  | .entryCountDiffers expected got =>
    "Expected " ++ decimal expected ++ " comma separated values, got " ++ decimal got
  | .componentWithoutBits component =>
    "Component " ++ Text.quoted component ++ " has no bit count"
  | .subfieldWithoutParent subfield =>
    "Subfield " ++ Text.quoted subfield ++ " has no parent field"
  | .subfieldWithoutReference subfield =>
    "Subfield " ++ Text.quoted subfield ++ " has no reference field"

end InputCause

/-- What contradicts itself in the input. -/
inductive IntegrityCause where
  | duplicateValue (value : Int) (type owner : String)
  | duplicateType (type : String)
  | messageNumberTypeMissing (type : Option String)
  | duplicateFieldNumber (number : Int) (owner : String)
  | duplicateFieldName (field : String)
  | duplicateMessage (message : String)
  | messageWithoutNumber (message type : String)
  | declaredNumberDiffers (message : String) (declared : Int) (type : String) (number : Int)
  | messageNumberTaken (number : Int) (owner message : String)
  | referenceOnMainField
  | fieldTypeUnknown (type : String)
  | componentsOnNonInteger (type : String)
  | componentUnknown (component : String)
  | componentOfItself (component : String)
  | componentBitsNotPositive (component : String) (bits : Int)
  | componentBeyondCarrier (component : String) (first last : Int) (carrier : String) (width : Int)
  | componentsOverlap (earlier later : String)
  | referenceUnknown (reference : String)
  | referenceToItself (reference : String)
  | referenceTypeUnknown (reference type : String)
  | referenceNotMatchable (reference type : String)
  | referenceValueInvalid (value reference type : String)
  | referenceValueOutOfRange (value reference baseType : String)
  | duplicateReferenceValue (value reference : String)
  | subfieldsClash (earlier later reference value : String)

namespace IntegrityCause

/-- The wording of a cause. -/
def text : IntegrityCause → String
  | .duplicateValue value type owner =>
    "Duplicate value " ++ decimal value ++ " in type " ++ Text.quoted type ++
      " (also used by " ++ Text.quoted owner ++ ")"
  | .duplicateType type => "Duplicate type name " ++ Text.quoted type
  | .messageNumberTypeMissing type => "No " ++ (Literal.ofText? type).written ++ " type found"
  | .duplicateFieldNumber number owner =>
    "Duplicate field number " ++ decimal number ++ " (also used by " ++ Text.quoted owner ++ ")"
  | .duplicateFieldName field => "Duplicate field name " ++ Text.quoted field
  | .duplicateMessage message => "Duplicate message " ++ Text.quoted message
  | .messageWithoutNumber message type =>
    "Message " ++ Text.quoted message ++ " has no " ++ Text.quoted type ++ " entry"
  | .declaredNumberDiffers message declared type number =>
    "Message " ++ Text.quoted message ++ " declares number " ++ decimal declared ++ " but " ++
      Text.quoted type ++ " says " ++ decimal number
  | .messageNumberTaken number owner message =>
    "Message number " ++ decimal number ++ " used by " ++ Text.quoted owner ++ " and " ++
      Text.quoted message
  | .referenceOnMainField => "Field with a field number cannot have reference conditions"
  | .fieldTypeUnknown type => "Unknown field type " ++ Text.quoted type
  | .componentsOnNonInteger type => "Components on non integer type " ++ Text.quoted type
  | .componentUnknown component =>
    "Component " ++ Text.quoted component ++ " names no field of this message"
  | .componentOfItself component =>
    "Component " ++ Text.quoted component ++ " expands into its own field"
  | .componentBitsNotPositive component bits =>
    "Component " ++ Text.quoted component ++ " has " ++ decimal bits ++ " bits"
  | .componentBeyondCarrier component first last carrier width =>
    "Component " ++ Text.quoted component ++ " needs bits " ++ decimal first ++ ".." ++
      decimal last ++ " but " ++ Text.quoted carrier ++ " only has " ++ decimal width ++ " bits"
  | .componentsOverlap earlier later =>
    "Components " ++ Text.quoted earlier ++ " and " ++ Text.quoted later ++ " overlap"
  | .referenceUnknown reference => "Reference field " ++ Text.quoted reference ++ " not found"
  | .referenceToItself reference => "Field " ++ Text.quoted reference ++ " references itself"
  | .referenceTypeUnknown reference type =>
    "Reference field " ++ Text.quoted reference ++ " has unknown type " ++ Text.quoted type
  | .referenceNotMatchable reference type =>
    "Reference field " ++ Text.quoted reference ++ " of type " ++ Text.quoted type ++
      " cannot be matched"
  | .referenceValueInvalid value reference type =>
    "Reference value " ++ Text.quoted value ++ " is not valid for " ++ Text.quoted reference ++
      " (type " ++ type ++ ")"
  | .referenceValueOutOfRange value reference baseType =>
    "Reference value " ++ Text.quoted value ++ " out of range for " ++ Text.quoted reference ++
      " (" ++ baseType ++ ")"
  | .duplicateReferenceValue value reference =>
    "Duplicate reference value " ++ Text.quoted value ++ " for " ++ Text.quoted reference
  | .subfieldsClash earlier later reference value =>
    "Subfields " ++ Text.quoted earlier ++ " and " ++ Text.quoted later ++ " both apply when " ++
      reference ++ " is " ++ Text.quoted value

/-- The integers in the wording that come from cells. -/
def numbers : IntegrityCause → List Int
  | .duplicateValue value _ _ => [value]
  | .duplicateFieldNumber number _ => [number]
  | .declaredNumberDiffers _ declared _ number => [declared, number]
  | .messageNumberTaken number _ _ => [number]
  | .componentBitsNotPositive _ bits => [bits]
  | .componentBeyondCarrier _ first last _ width => [first, last, width]
  | _ => []

end IntegrityCause

/-- What cannot be rendered. -/
inductive RenderCause where
  | fieldKindUnknown (kind : Literal) (field : String)
  | typeNotInModel (type : String)
  | notAType (value : Literal)

namespace RenderCause

/-- The wording of a cause. -/
def text : RenderCause → String
  | .fieldKindUnknown kind field =>
    "Unknown field kind " ++ kind.written ++ " for " ++ Text.quoted field
  | .typeNotInModel type => "Type " ++ Text.quoted type ++ " is not part of the model"
  | .notAType value => "Unexpected field type " ++ value.written

end RenderCause

/-- Everything that ends the work on a workbook. -/
inductive Fault where
  /-- A cell, a sheet or an argument cannot be read. -/
  | input (cause : InputCause) (location : Location)
  /-- Cells contradict each other. -/
  | integrity (cause : IntegrityCause) (location : Location)
  /-- No rule set covers the release. -/
  | unsupportedVersion (version : Version) (supported : List String)
  /-- The model cannot be rendered. -/
  | rendering (cause : RenderCause)
  /-- A dynamic field stands where only a field with a scaling of its own can. -/
  | nestedDynamicField
  /-- The extent of a carrier made by hand is no number of elements. -/
  | carrierNotMeasurable (carrier : String)
  /-- A type made by hand names a base type that does not exist. -/
  | baseTypeNotDefined (baseType : String)
  /-- Decimal text with more digits than are read. -/
  | tooManyDigitsToRead (count : Nat)
  /-- An integer with more digits than are written. -/
  | tooManyDigitsToWrite

namespace Fault

/-- A fault with integers in its wording, unless one of them is too long to write. -/
def worded (numbers : List Int) (fault : Fault) : Fault :=
  if numbers.all isWritable then fault else .tooManyDigitsToWrite

/-- A contradiction, as far as it can be worded. -/
def ofIntegrity (cause : IntegrityCause) (location : Location) : Fault :=
  worded (cause.numbers ++ location.numbers) (.integrity cause location)

/-- Asks that integers can be written. -/
def writable (numbers : List Int) : Except Fault Unit :=
  if numbers.all isWritable then .ok () else .error .tooManyDigitsToWrite

/-- The wording of an unsupported release. -/
def unsupportedText (version : Version) (supported : List String) : String :=
  "Unsupported SDK version " ++ version.text ++ " (supported: " ++
    (if (", ".intercalate supported).toList.isEmpty then "none"
     else ", ".intercalate supported) ++ ")"

/-- The limit on decimal digits, as faults name it. -/
def limitText : String :=
  "Exceeds the limit (" ++ decimal digitLimit ++ " digits) for integer string conversion"

/-- What to do about the limit, as faults name it. -/
def limitAdvice : String := "; use sys.set_int_max_str_digits() to increase the limit"

/-- The text of a fault, with its location. -/
def message : Fault → String
  | .input cause location => location.annotate cause.text
  | .integrity cause location => location.annotate cause.text
  | .unsupportedVersion version supported => unsupportedText version supported
  | .rendering cause => cause.text
  | .nestedDynamicField => "A nested dynamic field has no scaling"
  | .carrierNotMeasurable carrier =>
    "The bits of " ++ Text.quoted carrier ++ " cannot be measured"
  | .baseTypeNotDefined baseType => Text.quoted baseType
  | .tooManyDigitsToRead count =>
    limitText ++ ": value has " ++ decimal count ++ " digits" ++ limitAdvice
  | .tooManyDigitsToWrite => limitText ++ limitAdvice

end Fault

end FitProfile
