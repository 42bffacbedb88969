import DeviceHost.Numeral.Floating
import DeviceHost.Text.Ascii

/-!
# Values

A resource of a device has a declared type, and what is read from it or written to it is a value of
one of these types. The width and the sign of a number belong to its type and are never changed on
the way: a `Uint8` stays a `Uint8`.
-/

namespace DeviceHost

/-- The declared type of a device resource. -/
inductive ValueType
  | bool
  | string
  | binary
  | uint8
  | uint16
  | uint32
  | uint64
  | int8
  | int16
  | int32
  | int64
  | float32
  | float64
  deriving Repr, DecidableEq, Inhabited

namespace ValueType

/-- Every value type. -/
def all : List ValueType :=
  [bool, string, binary, uint8, uint16, uint32, uint64, int8, int16, int32, int64, float32, float64]

/-- The name by which documents and answers give a type. -/
def name : ValueType → String
  | bool => "Bool"
  | string => "String"
  | binary => "Binary"
  | uint8 => "Uint8"
  | uint16 => "Uint16"
  | uint32 => "Uint32"
  | uint64 => "Uint64"
  | int8 => "Int8"
  | int16 => "Int16"
  | int32 => "Int32"
  | int64 => "Int64"
  | float32 => "Float32"
  | float64 => "Float64"

/-- The type of a name; the case of its letters does not count. -/
def ofName? (s : String) : Option ValueType :=
  all.find? fun t => Text.sameLetters t.name s

/-- The refusal of a name that no type has. -/
def unknownMessage (s : String) : String :=
  s!"unknown value type '{s}'"

@[simp] theorem mem_all (t : ValueType) : t ∈ all := by
  cases t <;> decide

end ValueType

/-- A typed value that a driver reads or writes. -/
inductive Value
  | bool (v : Bool)
  | string (v : String)
  | binary (v : List UInt8)
  | uint8 (v : UInt8)
  | uint16 (v : UInt16)
  | uint32 (v : UInt32)
  | uint64 (v : UInt64)
  | int8 (v : Int8)
  | int16 (v : Int16)
  | int32 (v : Int32)
  | int64 (v : Int64)
  | float32 (v : Numeral.Floating .single)
  | float64 (v : Numeral.Floating .double)
  deriving DecidableEq

/-- The type of a value. -/
def Value.type : Value → ValueType
  | bool _ => .bool
  | string _ => .string
  | binary _ => .binary
  | uint8 _ => .uint8
  | uint16 _ => .uint16
  | uint32 _ => .uint32
  | uint64 _ => .uint64
  | int8 _ => .int8
  | int16 _ => .int16
  | int32 _ => .int32
  | int64 _ => .int64
  | float32 _ => .float32
  | float64 _ => .float64

end DeviceHost
