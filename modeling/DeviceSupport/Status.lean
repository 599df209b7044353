/-! Status codes.

The numbers are exchanged with peers and never change; `ofCode?` is the inverse of `code`. -/
namespace DeviceSupport
set_option autoImplicit false

inductive Status where
  | ok
  | notSupported
  | unspecified
  | unsupportedActionType
  | needLargerBuffer
  | packageShort
  | packageSizeInvalid
  | primitiveSizeInvalid
  | messageInvalid
  | noMemory
  | participantNotFound
  | parameterIsNull
  | parameterOutOfBounds
  | nullPrimitive
  | needProfile
  | primitiveNotFound
  | timeout
  | needAlgorithm
  | unsupportedAlgorithm
  deriving DecidableEq, Repr, Inhabited

namespace Status

def all : List Status :=
  [.ok, .notSupported, .unspecified, .unsupportedActionType, .needLargerBuffer, .packageShort,
    .packageSizeInvalid, .primitiveSizeInvalid, .messageInvalid, .noMemory, .participantNotFound,
    .parameterIsNull, .parameterOutOfBounds, .nullPrimitive, .needProfile, .primitiveNotFound,
    .timeout, .needAlgorithm, .unsupportedAlgorithm]

def code : Status → UInt32
  | .ok => 0
  | .notSupported => 1002
  | .unspecified => 1003
  | .unsupportedActionType => 1202
  | .needLargerBuffer => 1300
  | .packageShort => 1600
  | .packageSizeInvalid => 1601
  | .primitiveSizeInvalid => 1603
  | .messageInvalid => 1700
  | .noMemory => 1800
  | .participantNotFound => 2200
  | .parameterIsNull => 2300
  | .parameterOutOfBounds => 2301
  | .nullPrimitive => 2400
  | .needProfile => 2401
  | .primitiveNotFound => 2404
  | .timeout => 2600
  | .needAlgorithm => 2900
  | .unsupportedAlgorithm => 2901

/-- The published name of a status. -/
def name : Status → String
  | .ok => "Ok"
  | .notSupported => "NotSupported"
  | .unspecified => "Unspecified"
  | .unsupportedActionType => "UnsupportedActionType"
  | .needLargerBuffer => "NeedLargerBuffer"
  | .packageShort => "CpcShort"
  | .packageSizeInvalid => "CpcSizeInvalid"
  | .primitiveSizeInvalid => "CpcPrimitiveSizeInvalid"
  | .messageInvalid => "IpcDataInvalid"
  | .noMemory => "NoMemory"
  | .participantNotFound => "ParticipantNotFound"
  | .parameterIsNull => "ParameterIsNull"
  | .parameterOutOfBounds => "ParameterOutOfBounds"
  | .nullPrimitive => "NullPrimitive"
  | .needProfile => "NeedDsp"
  | .primitiveNotFound => "PrimitiveNotFoundInDsp"
  | .timeout => "Timeout"
  | .needAlgorithm => "NeedAlgorithm"
  | .unsupportedAlgorithm => "UnsupportedAlgorithm"

instance : ToString Status := ⟨fun s => s!"{s.name} ({s.code})"⟩

def ofCode? (code : UInt32) : Option Status := all.find? (·.code = code)

theorem ofCode?_code (s : Status) : ofCode? s.code = some s := by cases s <;> decide

end Status

end DeviceSupport
