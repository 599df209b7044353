/-! Temperature units.

A value is converted through thousandths of a degree: scaled up, moved between the Kelvin and the
Celsius scale, and rounded to the nearest step of the new unit, a half going up. Zero is left alone
by every conversion, and so is any value whose unit does not change. -/
namespace DeviceSupport
set_option autoImplicit false

inductive TemperatureUnit where
  | kelvin
  | deciKelvin
  | centiKelvin
  | milliKelvin
  | celsius
  | deciCelsius
  | centiCelsius
  | milliCelsius
  deriving DecidableEq, Repr, Inhabited

namespace TemperatureUnit

def all : List TemperatureUnit :=
  [.kelvin, .deciKelvin, .centiKelvin, .milliKelvin, .celsius, .deciCelsius, .centiCelsius,
    .milliCelsius]

/-- The unit that callers see. -/
def normalized : TemperatureUnit := .celsius

/-- Zero Celsius in tenths of a Kelvin. -/
def kelvinBaseDeci : Int := 2732

/-- Zero Celsius in thousandths of a Kelvin. -/
def kelvinBase : Int := kelvinBaseDeci * 100

def isKelvin : TemperatureUnit → Bool
  | .kelvin | .deciKelvin | .centiKelvin | .milliKelvin => true
  | _ => false

/-- One step of the unit, in thousandths of a degree. -/
def step : TemperatureUnit → Int
  | .kelvin | .celsius => 1000
  | .deciKelvin | .deciCelsius => 100
  | .centiKelvin | .centiCelsius => 10
  | .milliKelvin | .milliCelsius => 1

/-- What to add, in thousandths of a degree, to change from one scale to the other. -/
def shift (input output : TemperatureUnit) : Int :=
  match input.isKelvin, output.isKelvin with
  | true, false => -kelvinBase
  | false, true => kelvinBase
  | _, _ => 0

def convert (input output : TemperatureUnit) (value : Int) : Int :=
  if value = 0 ∨ input = output then value
  else (value * input.step + shift input output + output.step / 2) / output.step

end TemperatureUnit

end DeviceSupport
