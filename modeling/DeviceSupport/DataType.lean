/-! Data types and directions.

A `DataType` tags every request and response; its numbers are shared with packages and with the
kernel side. An `Opcode` says whether a primitive reads or writes. -/
namespace DeviceSupport
set_option autoImplicit false

inductive DataType where
  | uint8
  | uint16
  | uint32
  | uint64
  | guid
  | temperature
  | binary
  | string
  | unicode
  | int8
  | int16
  | int32
  | int64
  | void
  | power
  | bit
  | percent
  | time
  | structured
  | package
  | blob
  | table
  | auto
  | frequency
  deriving DecidableEq, Repr, Inhabited

namespace DataType

def all : List DataType :=
  [.uint8, .uint16, .uint32, .uint64, .guid, .temperature, .binary, .string, .unicode, .int8,
    .int16, .int32, .int64, .void, .power, .bit, .percent, .time, .structured, .package, .blob,
    .table, .auto, .frequency]

def code : DataType → UInt32
  | .uint8 => 1
  | .uint16 => 2
  | .uint32 => 3
  | .uint64 => 4
  | .guid => 5
  | .temperature => 6
  | .binary => 7
  | .string => 8
  | .unicode => 9
  | .int8 => 11
  | .int16 => 12
  | .int32 => 13
  | .int64 => 14
  | .void => 24
  | .power => 26
  | .bit => 27
  | .percent => 29
  | .time => 31
  | .structured => 32
  | .package => 33
  | .blob => 34
  | .table => 35
  | .auto => 36
  | .frequency => 40

/-- The spelling of a type in messages. -/
def label : DataType → String
  | .uint8 => "Uint8"
  | .uint16 => "Uint16"
  | .uint32 => "Uint32"
  | .uint64 => "Uint64"
  | .guid => "Guid"
  | .temperature => "Temperature"
  | .binary => "Binary"
  | .string => "String"
  | .unicode => "Unicode"
  | .int8 => "Int8"
  | .int16 => "Int16"
  | .int32 => "Int32"
  | .int64 => "Int64"
  | .void => "Void"
  | .power => "Power"
  | .bit => "Bit"
  | .percent => "Percent"
  | .time => "Time"
  | .structured => "Structure"
  | .package => "Dsp"
  | .blob => "Blob"
  | .table => "Table"
  | .auto => "Auto"
  | .frequency => "Frequency"

def name (t : DataType) : String := t.label.toUpper

instance : ToString DataType := ⟨fun t => s!"{t.name}({t.code})"⟩

def ofCode? (code : UInt32) : Option DataType := all.find? (·.code = code)

def ofLabel? (label : String) : Option DataType := all.find? (·.label = label)

/-- Bytes given to a response of this type when its caller leaves the size open. -/
def defaultSize : DataType → Nat
  | .uint64 | .int64 | .frequency => 8
  | .string => 128
  | .unicode => 256
  | .binary | .table => 4096
  | _ => 4

theorem ofCode?_code (t : DataType) : ofCode? t.code = some t := by cases t <;> decide

theorem ofLabel?_label (t : DataType) : ofLabel? t.label = some t := by cases t <;> decide

end DataType

inductive Opcode where
  | get
  | set
  deriving DecidableEq, Repr, Inhabited

namespace Opcode

def code : Opcode → UInt32
  | .get => 1
  | .set => 2

/-- The spelling of an opcode in messages. -/
def label : Opcode → String
  | .get => "Get"
  | .set => "Set"

def ofCode? (code : UInt32) : Option Opcode :=
  if code = 1 then some .get else if code = 2 then some .set else none

def ofLabel? (label : String) : Option Opcode :=
  if label = "Get" then some .get else if label = "Set" then some .set else none

end Opcode

end DeviceSupport
