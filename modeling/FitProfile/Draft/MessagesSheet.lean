import FitProfile.Draft.Basic
import FitProfile.Draft.Blocks
import FitProfile.Draft.SheetReader
import FitProfile.Text.CommaList
/-!
# FitProfile.Draft.MessagesSheet -- reading the Messages sheet

A row with a message name opens a message. A row with a field number or a field name
holds a field of the message above it; any other row is a separator. A field row without
number, or with the number of the main field above it and with reference fields, is a
subfield of that main field and takes its number; every other one is a main field.

The component column holds a list. Where it does, the scale, offset, units, bits and
accumulate columns hold one entry for each component, or a single entry that counts for
all of them.
-/

namespace FitProfile.Draft

open FitProfile.Number

namespace MessagesSheet

/-- Rows that open a message. -/
def isMessageRow (r : SheetReader) (row : Row) : Bool :=
  r.get row MessagesColumn.messageName.key != ""

/-- Rows that hold a field, if they do not open a message. -/
def isFieldRow (r : SheetReader) (row : Row) : Bool :=
  r.get row MessagesColumn.fieldNumber.key != "" || r.get row MessagesColumn.fieldName.key != ""

/-! ## Arrays -/

/-- The text between square brackets without the white space around it. A line feed may
follow the closing bracket. -/
def insideBrackets? : List Char → Option (List Char)
  | '[' :: rest =>
    match rest.reverse with
    | ']' :: inside => some (Text.trimBy Text.isBlank inside.reverse)
    | '\n' :: ']' :: inside => some (Text.trimBy Text.isBlank inside.reverse)
    | _ => none
  | _ => none

/-- Reads an array specification, if there is one: `[N]`, or a count in decimal digits
between the brackets. -/
def readExtent (r : SheetReader) (row : Row) (text : String) : Except Fault (Option Extent) :=
  if text.toList.isEmpty then .ok none
  else
    let invalid := r.fault row MessagesColumn.array.key (.invalidArray text)
    match insideBrackets? text.toList with
    | none => .error invalid
    | some ['N'] => .ok (some .remaining)
    | some inside =>
      if inside.isEmpty || !inside.all Text.isDecimalDigit then .error invalid
      else if digitLimit < inside.length then .error (.tooManyDigitsToRead inside.length)
      else .ok (some (.count (Version.runValue inside)))

/-! ## Components -/

/-- The entries of a list cell, one for each of `count` components: none stands for empty
entries, a single one for all of them. -/
def spread (r : SheetReader) (row : Row) (key : String) (count : Int) (text : String) :
    Except Fault (List String) :=
  match Text.commaList text with
  | [] => .ok (List.replicate count.toNat "")
  | [entry] => .ok (List.replicate count.toNat entry)
  | entries =>
    if (entries.length : Int) = count then .ok entries
    else .error (r.fault row key (.entryCountDiffers count entries.length))

/-- The texts that state one component. -/
structure ComponentTexts where
  name : String
  scale : String
  offset : String
  units : String
  bits : String
  accumulate : String
  deriving DecidableEq, Repr

/-- Lines up the entries of the six columns. -/
def lineUp : List String → List String → List String → List String → List String →
    List String → List ComponentTexts
  | name :: names, scale :: scales, offset :: offsets, units :: unitss, bits :: bitss,
    accumulate :: accumulates =>
    ⟨name, scale, offset, units, bits, accumulate⟩ ::
      lineUp names scales offsets unitss bitss accumulates
  | _, _, _, _, _, _ => []

/-- Reads one component. -/
def readComponent (r : SheetReader) (row : Row) (texts : ComponentTexts) :
    Except Fault ComponentEntry := do
  if texts.bits.toList.isEmpty then
    throw (r.fault row MessagesColumn.bits.key (.componentWithoutBits texts.name))
  let scale ← r.readNumber row MessagesColumn.scale.key texts.scale
  let offset ← r.readNumber row MessagesColumn.offset.key texts.offset
  let bits ← r.readInteger row MessagesColumn.bits.key texts.bits
  let accumulate ← r.readFlag row MessagesColumn.accumulate.key texts.accumulate
  return { name := texts.name, scale := SheetReader.asScale scale
           offset := SheetReader.asOffset offset, units := SheetReader.nonEmpty? texts.units
           bits := bits, accumulate := accumulate }

/-- Reads components one after the other. -/
def readEach (r : SheetReader) (row : Row) :
    List ComponentTexts → Except Fault (List ComponentEntry)
  | [] => .ok []
  | texts :: rest => do
    let component ← readComponent r row texts
    let components ← readEach r row rest
    return component :: components

/-- Reads the components of a row with the given names. -/
def readComponents (r : SheetReader) (row : Row) (names : List String) :
    Except Fault (List ComponentEntry) := do
  let column (key : String) := spread r row key names.length (r.get row key)
  let scales ← column MessagesColumn.scale.key
  let offsets ← column MessagesColumn.offset.key
  let units ← column MessagesColumn.units.key
  let bits ← column MessagesColumn.bits.key
  let accumulates ← column MessagesColumn.accumulate.key
  readEach r row (lineUp names scales offsets units bits accumulates)

/-! ## Fields -/

/-- The scaling of a field without components. -/
structure OwnScaling where
  scale : Option Quantity
  offset : Option Quantity
  units : Option String
  accumulate : Bool
  deriving DecidableEq, Repr

/-- Reads the scaling of a field without components. -/
def readScaling (r : SheetReader) (row : Row) : Except Fault OwnScaling := do
  let get := r.get row
  let scale ← r.readNumber row MessagesColumn.scale.key (get MessagesColumn.scale.key)
  let offset ← r.readNumber row MessagesColumn.offset.key (get MessagesColumn.offset.key)
  let units := SheetReader.nonEmpty? (get MessagesColumn.units.key)
  let accumulate ←
    r.readFlag row MessagesColumn.accumulate.key (get MessagesColumn.accumulate.key)
  return ⟨SheetReader.asScale scale, SheetReader.asOffset offset, units, accumulate⟩

/-- Reads components, or the scaling that a field without components has itself. -/
def readContents (r : SheetReader) (row : Row) :
    Except Fault (List ComponentEntry × OwnScaling) := do
  match Text.commaList (r.get row MessagesColumn.components.key) with
  | [] =>
    let scaling ← readScaling r row
    return ([], scaling)
  | names =>
    let components ← readComponents r row names
    return (components, ⟨none, none, none, false⟩)

/-- Reads the number of a row, if there is one. -/
def readNumber (r : SheetReader) (row : Row) : Except Fault (Option Int) :=
  let text := r.get row MessagesColumn.fieldNumber.key
  if text.toList.isEmpty then .ok none
  else (r.readInteger row MessagesColumn.fieldNumber.key text).map some

/-- Reads a field row of a message: the number in it, if there is one, and the rest. -/
def readField (r : SheetReader) (message : String) (row : Row) :
    Except Fault (Option Int × FieldSpec) := do
  let name := r.get row MessagesColumn.fieldName.key
  let typeName := r.get row MessagesColumn.fieldType.key
  if name.toList.isEmpty then
    throw (r.messageFault row MessagesColumn.fieldName.key message .fieldNameMissing)
  if typeName.toList.isEmpty then
    throw (r.fieldFault row MessagesColumn.fieldType.key message name .fieldTypeMissing)
  let refNames := Text.commaList (r.get row MessagesColumn.refFieldName.key)
  let refValues := Text.commaList (r.get row MessagesColumn.refFieldValue.key)
  if refNames.length ≠ refValues.length then
    throw (r.fieldFault row MessagesColumn.refFieldValue.key message name
      (.referenceCountsDiffer refNames.length refValues.length))
  let (components, scaling) ← readContents r row
  let number ← readNumber r row
  let extent ← readExtent r row (r.get row MessagesColumn.array.key)
  return (number,
    { row := row.index, name := name, typeName := typeName, extent := extent
      components := components, scale := scaling.scale, offset := scaling.offset
      units := scaling.units, accumulate := scaling.accumulate, refNames := refNames
      refValues := refValues
      comment := SheetReader.nonEmpty? (r.get row MessagesColumn.comment.key) })

/-- Reads the field rows of a message. `current` is the main field above them, with the
subfields found so far. -/
def readFields (r : SheetReader) (message : String) (current : Option FieldBlock) :
    List Row → Except Fault (List FieldBlock)
  | [] => .ok current.toList
  | row :: rest => do
    let (number, spec) ← readField r message row
    match number, current with
    | none, none =>
      throw (r.messageFault row MessagesColumn.fieldNumber.key message
        (.subfieldWithoutParent spec.name))
    | some n, none => readFields r message (some ⟨⟨spec, n⟩, []⟩) rest
    | none, some block =>
      if spec.hasReference then
        readFields r message
          (some { block with subfields := block.subfields ++ [⟨spec, block.main.number⟩] }) rest
      else
        throw (r.messageFault row MessagesColumn.refFieldName.key message
          (.subfieldWithoutReference spec.name))
    | some n, some block =>
      if n = block.main.number ∧ spec.hasReference then
        readFields r message
          (some { block with subfields := block.subfields ++ [⟨spec, block.main.number⟩] }) rest
      else do
        let blocks ← readFields r message (some ⟨⟨spec, n⟩, []⟩) rest
        return block :: blocks

/-! ## Messages -/

/-- Reads a message: the row that opens it and the rows below. -/
def readMessage (r : SheetReader) (block : Row × List Row) : Except Fault MessageBlock := do
  let (head, rows) := block
  let name := r.get head MessagesColumn.messageName.key
  let declared ← readNumber r head
  let fields ← readFields r name none (rows.filter (isFieldRow r))
  return ⟨name, declared, head.index, fields⟩

/-- Reads messages one after the other. -/
def readMessages (r : SheetReader) : List (Row × List Row) → Except Fault (List MessageBlock)
  | [] => .ok []
  | block :: rest => do
    let message ← readMessage r block
    let messages ← readMessages r rest
    return message :: messages

/-- Reads rows, of which those in front of the first message must not hold fields. -/
def readRows (r : SheetReader) (rows : List Row) : Except Fault (List MessageBlock) :=
  let (lead, blocks) := cutBlocks (isMessageRow r) rows
  match lead.find? (isFieldRow r) with
  | some row =>
    .error (r.fault row MessagesColumn.fieldName.key
      (.fieldOutsideMessage (r.get row MessagesColumn.fieldName.key)))
  | none => readMessages r blocks

/-- Opens the sheet. -/
def reader (rules : RuleSet) (sheet : Sheet) : Except Fault SheetReader :=
  SheetReader.ofSheet sheet rules.messagesColumns rules.requiredMessagesColumns rules.hexValues

/-- Reads the sheet. -/
def read (rules : RuleSet) (sheet : Sheet) : Except Fault (List MessageBlock) := do
  let r ← reader rules sheet
  readRows r (sheet.rowsBelow r.header)

end MessagesSheet

end FitProfile.Draft
