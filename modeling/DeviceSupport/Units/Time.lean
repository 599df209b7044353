import DeviceSupport.Fault

/-! Time units.

A value is converted through microseconds and rounded down; what does not fit a word is refused. -/
namespace DeviceSupport
set_option autoImplicit false

inductive TimeUnit where
  | seconds
  | deciSeconds
  | centiSeconds
  | milliSeconds
  | microSeconds
  deriving DecidableEq, Repr, Inhabited

namespace TimeUnit

def all : List TimeUnit := [.seconds, .deciSeconds, .centiSeconds, .milliSeconds, .microSeconds]

/-- The unit that callers see. -/
def normalized : TimeUnit := .milliSeconds

instance : ToString TimeUnit where
  toString
    | .seconds => "Seconds"
    | .deciSeconds => "DeciSeconds"
    | .centiSeconds => "CentiSeconds"
    | .milliSeconds => "MilliSeconds"
    | .microSeconds => "MicroSeconds"

def micros : TimeUnit → Nat
  | .seconds => 1000000
  | .deciSeconds => 100000
  | .centiSeconds => 10000
  | .milliSeconds => 1000
  | .microSeconds => 1

def convert (input output : TimeUnit) (value : UInt32) : Except Fault UInt32 :=
  if value = 0 ∨ input = output then .ok value
  else
    let scaled := value.toNat * input.micros / output.micros
    if scaled < UInt32.size then .ok (UInt32.ofNat scaled)
    else .error (.parameterOutOfBounds s!"{value} {input} does not fit in {output}")

end TimeUnit

end DeviceSupport
