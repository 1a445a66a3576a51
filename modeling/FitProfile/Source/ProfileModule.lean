import FitProfile.Source.TypesModule
/-!
# FitProfile.Source.ProfileModule -- the module of the release

The module of the release holds the release, the message names by number, the numbers by
name, and the timestamp field that all messages share. The timestamp has the type
`date_time` where the model declares it, and else the base type of that type.
-/

namespace FitProfile.Source

open FitProfile.Number

/-- The number of the timestamp field. -/
def timestampNumber : Int := 253

/-- The name of the type of moments. -/
def dateTimeName : String := "date_time"

/-- The imports of the module and the expression of the type of the timestamp. -/
def timestampType (types : List TypeDef) : List String × String :=
  if types.any fun t => t.name == dateTimeName then
    (["from " ++ recordsModule ++ " import Field", "",
      "from ." ++ Module.types.name ++ " import FIELD_TYPES"],
     "FIELD_TYPES[" ++ Text.quoted dateTimeName ++ "]")
  else (["from " ++ recordsModule ++ " import BASE_TYPES, Field"], baseExpression .uint32)

/-- The line of a message in the dictionary of the names. -/
def nameOfNumberLine (m : Message) : String := decimal m.number ++ ": " ++ Text.quoted m.name ++ ","

/-- The line of a message in the dictionary of the numbers. -/
def numberOfNameLine (m : Message) : String := Text.quoted m.name ++ ": " ++ decimal m.number ++ ","

/-- The lines of the module. -/
def profileLines (model : Model) (moment : Option Moment) : List String :=
  let (imports, type) := timestampType model.types
  let version := model.version
  header .profile version moment ++ imports ++
  ["", "",
   "PROFILE_VERSION = (" ++ decimal version.major ++ ", " ++ decimal version.minor ++ ")",
   "PROFILE_VERSION_SCALED = " ++ decimal version.scaled, ""] ++
  block "MESG_NUMS = \x7b" (model.messages.map nameOfNumberLine) "\x7d" ++ [""] ++
  block "MESG_NAMES = \x7b" (model.messages.map numberOfNameLine) "\x7d" ++ [""] ++
  ["FIELD_TYPE_TIMESTAMP = Field(name=" ++ Text.quoted "timestamp" ++ ", type=" ++ type ++
     ", def_num=" ++ decimal timestampNumber ++ ", units=" ++ Text.quoted "s" ++ ")"]

end FitProfile.Source
