import FitProfile.Number.Decimal
/-!
# FitProfile.BaseType -- the base types of the binary protocol

The seventeen types that a field is stored as. Each has a fixed identifier, whose lowest
five bits number the type, a size in bytes, and, when it is an integer type, a range.
-/

namespace FitProfile

open FitProfile.Number

/-- A base type of the protocol. -/
inductive BaseType where
  | enum | sint8 | uint8 | sint16 | uint16 | sint32 | uint32 | string | float32 | float64
  | uint8z | uint16z | uint32z | byte | sint64 | uint64 | uint64z
  deriving DecidableEq, Repr, Inhabited

namespace BaseType

/-- All base types. -/
def all : List BaseType :=
  [.enum, .sint8, .uint8, .sint16, .uint16, .sint32, .uint32, .string, .float32, .float64,
   .uint8z, .uint16z, .uint32z, .byte, .sint64, .uint64, .uint64z]

/-- The name in the workbook. -/
def name : BaseType → String
  | .enum => "enum" | .sint8 => "sint8" | .uint8 => "uint8" | .sint16 => "sint16"
  | .uint16 => "uint16" | .sint32 => "sint32" | .uint32 => "uint32" | .string => "string"
  | .float32 => "float32" | .float64 => "float64" | .uint8z => "uint8z"
  | .uint16z => "uint16z" | .uint32z => "uint32z" | .byte => "byte" | .sint64 => "sint64"
  | .uint64 => "uint64" | .uint64z => "uint64z"

/-- The identifier in a file. -/
def identifier : BaseType → Nat
  | .enum => 0x00 | .sint8 => 0x01 | .uint8 => 0x02 | .sint16 => 0x83 | .uint16 => 0x84
  | .sint32 => 0x85 | .uint32 => 0x86 | .string => 0x07 | .float32 => 0x88 | .float64 => 0x89
  | .uint8z => 0x0a | .uint16z => 0x8b | .uint32z => 0x8c | .byte => 0x0d | .sint64 => 0x8e
  | .uint64 => 0x8f | .uint64z => 0x90

/-- Bytes of one element. -/
def size : BaseType → Nat
  | .enum | .sint8 | .uint8 | .string | .uint8z | .byte => 1
  | .sint16 | .uint16 | .uint16z => 2
  | .sint32 | .uint32 | .float32 | .uint32z => 4
  | .float64 | .sint64 | .uint64 | .uint64z => 8

/-- Bits of one element. -/
def bits (b : BaseType) : Nat := b.size * 8

/-- The number of the type: the lowest five bits of the identifier. -/
def typeNumber (b : BaseType) : Nat := b.identifier % 32

/-- Types that hold negative numbers. -/
def isSigned : BaseType → Bool
  | .sint8 | .sint16 | .sint32 | .sint64 | .float32 | .float64 => true
  | _ => false

/-- Types that hold integers. -/
def isInteger : BaseType → Bool
  | .string | .float32 | .float64 => false
  | _ => true

/-- The least and the greatest number that an integer type holds. -/
def range? (b : BaseType) : Option (Int × Int) :=
  if b.isInteger then
    if b.isSigned then some (-(Nat.pow 2 (b.bits - 1) : Int), (Nat.pow 2 (b.bits - 1) : Int) - 1)
    else some (0, (Nat.pow 2 b.bits : Int) - 1)
  else none

/-- The base type of a name. -/
def ofName? (name : String) : Option BaseType := all.find? fun b => b.name == name

/-- The base type of an identifier. -/
def ofIdentifier? (identifier : Int) : Option BaseType :=
  all.find? fun b => (b.identifier : Int) == identifier

/-- The identifier in upper-case hexadecimal digits, filled up to a width. -/
def identifierDigits (b : BaseType) (width : Nat) : String :=
  let digits := (Nat.toDigits 16 b.identifier).map Char.toUpper
  String.ofList (List.replicate (width - digits.length) '0' ++ digits)

/-- A short description for logs. -/
def summary (b : BaseType) : String :=
  "<BaseType: " ++ b.name ++ " (#" ++ decimal b.typeNumber ++ " [0x" ++ b.identifierDigits 1 ++
    "])>"

theorem mem_all (b : BaseType) : b ∈ all := by cases b <;> decide

end BaseType

end FitProfile
