import FitProfile.Model.Fields
/-!
# FitProfile.Model.OfDraft -- linking a draft

Linking turns a draft into a model, or names the first contradiction. The types come
first. Then each message, in the order of the sheet, finds its number among the values of
the type that numbers messages, by its name. Messages are put in ascending order of their
numbers at the end, and the names of that type that no message bears are listed.
-/

namespace FitProfile

open FitProfile.Draft

namespace Model

/-- The type that numbers the messages. -/
def messageNumberType (rules : RuleSet) (types : List TypeDef) : Except Fault TypeDef :=
  match rules.messageNumberType.bind (TypeTable.find? types) with
  | some type => .ok type
  | none =>
    .error (.ofIntegrity (.messageNumberTypeMissing rules.messageNumberType)
      { sheet := rules.typesSheet })

/-- The number of a message: the one of its name, which must agree with a declared one and
must not be taken by one of the messages `known`. -/
def messageNumber (c : LinkContext) (numbers : TypeDef) (known : List Message) :
    Except Fault Int :=
  let message := c.message
  if known.any fun m => m.name == message.name then
    .error (c.messageFault (.duplicateMessage message.name))
  else
    match numbers.valueOf? message.name with
    | none => .error (c.messageFault (.messageWithoutNumber message.name numbers.name))
    | some number =>
      match message.declaredNumber.filter fun declared => declared != number with
      | some declared =>
        .error (c.messageFault
          (.declaredNumberDiffers message.name declared numbers.name number))
      | none =>
        match known.find? fun m => m.number == number with
        | some owner =>
          .error (c.messageFault (.messageNumberTaken number owner.name message.name))
        | none => .ok number

/-- Links a message below the messages `known`. -/
def linkMessage (c : LinkContext) (numbers : TypeDef) (known : List Message) :
    Except Fault Message := do
  c.checkBlocks [] c.message.fields
  let number ← messageNumber c numbers known
  let fields ← c.linkFields
  return ⟨c.message.name, number, fields, c.message.row⟩

/-- Links messages one after the other. -/
def linkMessages (sheet : Option String) (types : List TypeDef) (numbers : TypeDef)
    (known : List Message) : List MessageBlock → Except Fault (List Message)
  | [] => .ok known
  | block :: rest => do
    let message ← linkMessage ⟨sheet, types, block⟩ numbers known
    linkMessages sheet types numbers (known ++ [message]) rest

/-- The names of the numbers that no message bears, each once and in ascending order. -/
def unmatchedNames (numbers : TypeDef) (messages : List Message) : List String :=
  let free := (numbers.values.map TypeValue.name).filter fun name =>
    !(messages.map Message.name).contains name
  Order.sortBy (fun a b => decide (a ≤ b)) free.eraseDups

/-- Links a draft. -/
def ofDraft (rules : RuleSet) (version : Version) (draft : Draft) : Except Fault Model := do
  let types ← TypeTable.ofDraft rules draft.types
  let numbers ← messageNumberType rules types
  let linked ← linkMessages rules.messagesSheet types numbers [] draft.messages
  let messages := Order.sortBy (fun a b => decide (a.number ≤ b.number)) linked
  return ⟨version, types, messages, unmatchedNames numbers messages⟩

end Model

end FitProfile
