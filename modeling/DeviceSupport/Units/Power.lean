/-! Power units.

A value is scaled by the units per watt and rounded down; what does not fit a word becomes the
greatest word. -/
namespace DeviceSupport
set_option autoImplicit false

inductive PowerUnit where
  | watts
  | deciWatts
  | centiWatts
  | milliWatts
  /-- A thirty-second of a watt. -/
  | atom
  /-- An eighth of a watt. -/
  | core
  deriving DecidableEq, Repr, Inhabited

namespace PowerUnit

def all : List PowerUnit := [.watts, .deciWatts, .centiWatts, .milliWatts, .atom, .core]

/-- The unit that callers see. -/
def normalized : PowerUnit := .milliWatts

def perWatt : PowerUnit → Nat
  | .watts => 1
  | .deciWatts => 10
  | .centiWatts => 100
  | .milliWatts => 1000
  | .atom => 32
  | .core => 8

def convert (input output : PowerUnit) (value : UInt32) : UInt32 :=
  if value = 0 ∨ input = output then value
  else
    let scaled := value.toNat * output.perWatt / input.perWatt
    if scaled < UInt32.size then UInt32.ofNat scaled else 0xFFFFFFFF

end PowerUnit

end DeviceSupport
