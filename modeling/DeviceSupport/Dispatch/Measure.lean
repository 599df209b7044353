import DeviceSupport.Units.Conversion

/-! Types that a dispatch treats in a way of their own.

A `Measure` crosses to an action as a word in the hardware's unit, while callers see the normal
unit. A result whose type its caller leaves open is handed back in its `widened` type. -/
namespace DeviceSupport
set_option autoImplicit false

inductive Measure where
  | temperature
  | power
  deriving DecidableEq, Repr, Inhabited

namespace Measure

def ofType? : DataType → Option Measure
  | .temperature => some .temperature
  | .power => some .power
  | _ => none

/-- Between the normal unit and the hardware's, in the direction of the opcode. -/
def convert (m : Measure) (word : UInt32) (actionType : ActionType) (algorithm : Option Algorithm)
    (opcode : Opcode) : Except Fault UInt32 :=
  match m with
  | .temperature => convertTemperature .normalized word actionType algorithm opcode
  | .power => convertPower .normalized word actionType algorithm opcode

end Measure

/-- Narrow numbers become words, and wide text becomes text. -/
def DataType.widened : DataType → DataType
  | .bit | .time | .uint8 | .uint16 => .uint32
  | .unicode => .string
  | other => other

end DeviceSupport
