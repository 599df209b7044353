import DeviceSupport.Profile.Records
import DeviceSupport.Units.Power
import DeviceSupport.Units.Temperature
import DeviceSupport.Units.Time

/-! Conversions between the unit of a hardware action and the unit callers see.

Each action type names its conversions in its `Algorithm`, by the code of a `ConversionKind`. On a
get the hardware's word becomes the caller's, on a set the caller's becomes the hardware's.
Temperatures travel as words read as signed numbers. -/
namespace DeviceSupport
set_option autoImplicit false

inductive ConversionKind where
  | powerDeciWatts
  | powerMilliWatts
  | powerNone
  | powerCore
  /-- Half-degree steps above -50 degrees. -/
  | temperatureHalfSteps
  | temperatureDeciKelvin
  | temperatureNone
  /-- Degrees below the greatest junction temperature. -/
  | temperatureBelowMax
  | timeNone
  | temperatureMilliCelsius
  | powerAtom
  | timeDeciSeconds
  | timeMilliSeconds
  deriving DecidableEq, Repr, Inhabited

namespace ConversionKind

/-- The kinds by code. -/
def all : List ConversionKind :=
  [.powerDeciWatts, .powerMilliWatts, .powerNone, .powerCore, .temperatureHalfSteps,
    .temperatureDeciKelvin, .temperatureNone, .temperatureBelowMax, .timeNone,
    .temperatureMilliCelsius, .powerAtom, .timeDeciSeconds, .timeMilliSeconds]

def code : ConversionKind → UInt32
  | .powerDeciWatts => 0
  | .powerMilliWatts => 1
  | .powerNone => 2
  | .powerCore => 3
  | .temperatureHalfSteps => 4
  | .temperatureDeciKelvin => 5
  | .temperatureNone => 6
  | .temperatureBelowMax => 7
  | .timeNone => 8
  | .temperatureMilliCelsius => 9
  | .powerAtom => 10
  | .timeDeciSeconds => 11
  | .timeMilliSeconds => 12

def label : ConversionKind → String
  | .powerDeciWatts => "PowerDeciW"
  | .powerMilliWatts => "PowerMilliW"
  | .powerNone => "PowerNone"
  | .powerCore => "PowerUnitCore"
  | .temperatureHalfSteps => "TempPchCore"
  | .temperatureDeciKelvin => "TempDeciK"
  | .temperatureNone => "TempNone"
  | .temperatureBelowMax => "TempTjmaxCore"
  | .timeNone => "TimeNone"
  | .temperatureMilliCelsius => "TempMilliC"
  | .powerAtom => "PowerUnitAtom"
  | .timeDeciSeconds => "TimeDeciS"
  | .timeMilliSeconds => "TimeMilliS"

def ofCode? (code : UInt32) : Option ConversionKind := all.find? (·.code = code)

theorem ofCode?_code (k : ConversionKind) : ofCode? k.code = some k := by cases k <;> decide

theorem code_of_ofCode? {code : UInt32} {kind : ConversionKind} (h : ofCode? code = some kind) :
    kind.code = code := by
  have hcode := List.find?_some h
  exact of_decide_eq_true hcode

end ConversionKind

/-! ## Signed words -/

/-- A word read as a signed number. -/
def signedOfWord (w : UInt32) : Int := w.toInt32.toInt

/-- The low 32 bits of a signed number. -/
def wordOfSigned (v : Int) : UInt32 := UInt32.ofNat (v % 4294967296).toNat

/-! ## By algorithm -/

namespace Algorithm

/-- The kind a code stands for; a code that stands for none is a fault. -/
def kindOf (code : UInt32) : Except Fault ConversionKind :=
  match ConversionKind.ofCode? code with
  | some kind => .ok kind
  | none => .error (.unsupportedAlgorithm code)

end Algorithm

/-- The algorithm that an action type needs. -/
def requireAlgorithm (actionType : ActionType) (algorithm : Option Algorithm) :
    Except Fault Algorithm :=
  match algorithm with
  | some algorithm => .ok algorithm
  | none => .error (.needAlgorithm actionType.code)

/-- Between the hardware's unit and the caller's, in the direction of the opcode. -/
def TemperatureUnit.transfer (hardware caller : TemperatureUnit) (opcode : Opcode) (v : Int) :
    Int :=
  match opcode with
  | .get => convert hardware caller v
  | .set => convert caller hardware v

def convertTemperature (caller : TemperatureUnit) (word : UInt32) (actionType : ActionType)
    (algorithm : Option Algorithm) (opcode : Opcode) : Except Fault UInt32 := do
  let algorithm ← requireAlgorithm actionType algorithm
  let kind ← Algorithm.kindOf algorithm.temperature
  let v := signedOfWord word
  let transfer (hardware : TemperatureUnit) : UInt32 :=
    wordOfSigned (hardware.transfer caller opcode v)
  match kind with
  | .temperatureMilliCelsius => return transfer .milliCelsius
  | .temperatureDeciKelvin => return transfer .deciKelvin
  | .temperatureNone => return transfer .celsius
  | .temperatureBelowMax =>
    let max := signedOfWord algorithm.constant1
    match opcode with
    | .get => return wordOfSigned (TemperatureUnit.celsius.convert caller (max - v))
    | .set => return wordOfSigned (max - caller.convert .celsius v)
  | .temperatureHalfSteps =>
    match opcode with
    | .get => return wordOfSigned (TemperatureUnit.celsius.convert caller (v.tdiv 2 - 50))
    | .set => return wordOfSigned (caller.convert .celsius v * 2 + 100)
  | other => throw (.unsupportedAlgorithm other.code)

def convertPower (caller : PowerUnit) (word : UInt32) (actionType : ActionType)
    (algorithm : Option Algorithm) (opcode : Opcode) : Except Fault UInt32 := do
  let algorithm ← requireAlgorithm actionType algorithm
  let kind ← Algorithm.kindOf algorithm.power
  let transfer (hardware : PowerUnit) : UInt32 :=
    match opcode with
    | .get => hardware.convert caller word
    | .set => caller.convert hardware word
  match kind with
  | .powerNone => return word
  | .powerDeciWatts => return transfer .deciWatts
  | .powerMilliWatts => return transfer .milliWatts
  | .powerAtom => return transfer .atom
  | .powerCore => return transfer .core
  | other => throw (.unsupportedAlgorithm other.code)

def convertTime (caller : TimeUnit) (word : UInt32) (actionType : ActionType)
    (algorithm : Option Algorithm) (opcode : Opcode) : Except Fault UInt32 := do
  let algorithm ← requireAlgorithm actionType algorithm
  let kind ← Algorithm.kindOf algorithm.time
  let transfer (hardware : TimeUnit) : Except Fault UInt32 :=
    match opcode with
    | .get => hardware.convert caller word
    | .set => caller.convert hardware word
  match kind with
  | .timeNone => return word
  | .timeDeciSeconds => transfer .deciSeconds
  | .timeMilliSeconds => transfer .milliSeconds
  | other => throw (.unsupportedAlgorithm other.code)

end DeviceSupport
