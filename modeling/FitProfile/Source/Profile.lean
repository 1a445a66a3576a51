import FitProfile.Source.MessagesModule
import FitProfile.Source.ProfileModule
import FitProfile.Text.Identifier
import FitProfile.Reported
/-!
# FitProfile.Source.Profile -- rendering a model

A profile is the text of the three modules, the list of the enumerated integer types for
the tool that makes their values readable, and the message numbers without a message. It
depends on nothing but the model and, where that is wanted, the moment of generation.
-/

namespace FitProfile

open FitProfile.Number

/-- Everything that is generated from a workbook. -/
structure Profile where
  types : String
  messages : String
  profile : String
  stringerInput : String
  unmatched : List String
  deriving DecidableEq, Repr

namespace Profile

/-- Bytes of the three modules. -/
def sourceBytes (p : Profile) : Nat :=
  p.types.utf8ByteSize + p.messages.utf8ByteSize + p.profile.utf8ByteSize

end Profile

namespace Model

/-- The names of the enumerated integer types, made fit for another tool and separated by
commas. -/
def stringerInput (model : Model) : String :=
  ",".intercalate ((model.types.filter fun t => t.isEnumerated && t.base.isInteger).map
    fun t => Text.scrub t.name)

/-- Renders a model; `moment` is the moment of generation to name, if any. The modules are
written one after the other: types, messages, and the release last. -/
def render (model : Model) (moment : Option Moment) : Except Fault Profile := do
  Fault.writable (Source.typesIntegers model)
  let messages ← Source.messagesLines model moment
  Fault.writable [model.version.scaled]
  return { types := Source.text (Source.typesLines model moment)
           messages := Source.text messages
           profile := Source.text (Source.profileLines model moment)
           stringerInput := model.stringerInput
           unmatched := model.unmatched }

end Model

end FitProfile
