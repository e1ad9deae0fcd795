import ModScript.Tree
import ModScript.Json.Text

/-!
# Types of variables and native functions

How a named variable lies in memory, which types a native function takes and returns, and how a script
presents a raw argument. Every type has one name, by which data files refer to it.
-/

namespace ModScript

/-! ## Variables -/

/-- The representation of a variable in memory. -/
inductive VariableType
  | int8 | uint8 | int16 | uint16 | int32 | uint32 | int64 | uint64
  | float | double | pointer | block | utf8String | utf16String | ansiString
deriving DecidableEq, Repr

namespace VariableType

/-- Every representation, in the order in which scripts list them. -/
def all : List VariableType :=
  [int8, uint8, int16, uint16, int32, uint32, int64, uint64, float, double, pointer, block,
    utf8String, utf16String, ansiString]

def name : VariableType → String
  | int8 => "Int8"
  | uint8 => "UInt8"
  | int16 => "Int16"
  | uint16 => "UInt16"
  | int32 => "Int32"
  | uint32 => "UInt32"
  | int64 => "Int64"
  | uint64 => "UInt64"
  | float => "Float"
  | double => "Double"
  | pointer => "Pointer"
  | block => "Block"
  | utf8String => "Utf8String"
  | utf16String => "Utf16String"
  | ansiString => "AnsiString"

/-- The type of that name. -/
def ofName? (s : String) : Option VariableType := all.find? fun kind => kind.name == s

/-- The width in bytes, for types of fixed width. -/
def width : VariableType → Option Nat
  | int8 | uint8 => some 1
  | int16 | uint16 => some 2
  | int32 | uint32 | float => some 4
  | int64 | uint64 | double | pointer => some 8
  | block | utf8String | utf16String | ansiString => none

/-- Only raw blocks need a size in their definition. -/
def requiresSize (kind : VariableType) : Bool := kind == block

def toJson (kind : VariableType) : Json := .string kind.name

end VariableType

/-! ## Native functions -/

/-- A type of the native calling convention; `void` is for returns only. -/
inductive NativeType
  | void | int | int8 | int16 | int32 | uint | uint8 | uint16 | uint32 | uint64 | int64
  | float | double | pointer | bool
deriving DecidableEq, Repr

/-- How a raw argument or return value is presented to a callback. -/
inductive Conversion
  | signed32 | unsigned32 | signed64 | unsigned64 | opaqueValue
deriving DecidableEq, Repr

namespace NativeType

instance : Inhabited NativeType := ⟨void⟩

def all : List NativeType :=
  [void, int, int8, int16, int32, uint, uint8, uint16, uint32, uint64, int64, float, double,
    pointer, bool]

def name : NativeType → String
  | void => "void"
  | int => "int"
  | int8 => "int8"
  | int16 => "int16"
  | int32 => "int32"
  | uint => "uint"
  | uint8 => "uint8"
  | uint16 => "uint16"
  | uint32 => "uint32"
  | uint64 => "uint64"
  | int64 => "int64"
  | float => "float"
  | double => "double"
  | pointer => "pointer"
  | bool => "bool"

/-- The type of that name. -/
def ofName? (s : String) : Option NativeType := all.find? fun type => type.name == s

def isVoid (type : NativeType) : Bool := type == void

def conversion : NativeType → Conversion
  | int | int8 | int16 | int32 | bool => .signed32
  | uint | uint8 | uint16 | uint32 => .unsigned32
  | int64 => .signed64
  | uint64 => .unsigned64
  | float | double | pointer | void => .opaqueValue

def toJson (type : NativeType) : Json := .string type.name

end NativeType

/-! ## Reading names -/

/-- In data files of objects the payload of a named value is `null`. -/
def nullPayload : Tree → Bool
  | .null => true
  | _ => false

/-- In configuration files, which have no `null`, the payload is an empty table or list. -/
def emptyPayload : Tree → Bool
  | .table [] => true
  | .list [] => true
  | _ => false

def VariableType.ofTree? : Tree → Option VariableType := Tree.named? nullPayload ofName?

def NativeType.ofTree? : Tree → Option NativeType := Tree.named? nullPayload ofName?

end ModScript
