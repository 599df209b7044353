import DeviceSupport.ActionType
import DeviceSupport.DataType
import DeviceSupport.EventType
import DeviceSupport.Profile.Tuple

/-! The records of a profile: who the device is (`Descriptor`), its domains, its primitives with
their alternative actions, the unit conversions per action type, and the events it declares. -/
namespace DeviceSupport
set_option autoImplicit false

/-! ## Identity -/

/-- The kind of bus that enumerates a device. -/
inductive Bus where
  | acpi
  | pci
  | platform
  | other (code : UInt32)
  deriving DecidableEq, Repr, Inhabited

namespace Bus

def ofCode (code : UInt32) : Bus :=
  if code = 0 then .acpi else if code = 1 then .pci else if code = 2 then .platform else .other code

def code : Bus → UInt32
  | .acpi => 0
  | .pci => 1
  | .platform => 2
  | .other code => code

instance : ToString Bus where
  toString
    | .acpi => "Acpi"
    | .pci => "Pci"
    | .platform => "Platform"
    | .other code => s!"Other({code})"

end Bus

structure Descriptor where
  code : String := ""
  majorVersion : UInt8 := 0
  minorVersion : UInt8 := 0
  name : String := ""
  description : String := ""
  /-- The type of a platform device. -/
  kind : String := ""
  acpiDevice : String := ""
  acpiUid : String := ""
  acpiType : String := ""
  acpiScope : String := ""
  pciVendorId : String := ""
  pciDeviceId : String := ""
  bus : Bus := .acpi
  pciBus : String := ""
  pciDevice : String := ""
  pciFunction : String := ""
  pciRevision : String := ""
  pciClass : String := ""
  pciSubClass : String := ""
  pciProgIf : String := ""
  deriving DecidableEq, Repr, Inhabited

/-! ## Domains -/

/-- Capability bits, and one detail byte for each of the first `count` of them. -/
structure Capability where
  flags : UInt32
  count : UInt8
  mask : List UInt8
  deriving DecidableEq, Repr, Inhabited

structure Domain where
  size : UInt32
  name : String
  description : String
  qualifier : UInt16
  guid : List UInt8
  priority : UInt32
  domainType : UInt32
  primitiveCount : UInt32
  capability : Capability
  deriving DecidableEq, Repr, Inhabited

namespace Domain

def qualifierText (d : Domain) : String := Qualifier.text d.qualifier

def supportsCapability (d : Domain) (bit : UInt32) : Bool :=
  bit < 32 && d.capability.flags.toNat.testBit bit.toNat

/-- The detail byte of the `i`-th declared capability. -/
def capabilityDetail? (d : Domain) (i : Nat) : Option UInt8 :=
  if i < d.capability.count.toNat then d.capability.mask[i]? else none

end Domain

/-! ## Primitives -/

inductive Param where
  | text (value : String)
  | number (value : UInt32)
  deriving DecidableEq, Repr, Inhabited

/-- The parameters of an action by slot; a slot may be vacant. -/
abbrev Params := List (Option Param)

namespace Params

def slots : Nat := 5

/-- The first five parameters, with vacant slots behind them. -/
def ofList (params : List (Option Param)) : Params :=
  params.take slots ++ List.replicate (slots - params.length) none

end Params

structure Action where
  size : UInt32
  actionType : ActionType
  priority : UInt32
  /-- Whether the kernel side runs the action. -/
  isKernel : Bool
  params : Params
  deriving DecidableEq, Repr, Inhabited

structure Primitive where
  tuple : Tuple
  size : UInt32
  operation : UInt32
  requestType : UInt32
  requestSchema : String
  resultType : UInt32
  resultSchema : String
  /-- Alternatives, in the order in which they are tried. -/
  actions : List Action
  deriving DecidableEq, Repr, Inhabited

namespace Primitive

/-- Anything that does not read, writes. -/
def opcode (p : Primitive) : Opcode :=
  if Opcode.ofCode? p.operation = some .get then .get else .set

def requestDataType? (p : Primitive) : Option DataType := DataType.ofCode? p.requestType

def resultDataType? (p : Primitive) : Option DataType := DataType.ofCode? p.resultType

end Primitive

/-! ## Conversions and events -/

/-- The unit conversions of one action type. -/
structure Algorithm where
  actionType : ActionType
  temperature : UInt32
  constant1 : UInt32
  constant2 : UInt32
  power : UInt32
  time : UInt32
  size : UInt32
  deriving DecidableEq, Repr, Inhabited

inductive EventGroup where
  | framework
  | power
  | sensor
  | acpi
  | code
  | other (number : UInt32)
  deriving DecidableEq, Repr, Inhabited

namespace EventGroup

def ofNumber (n : UInt32) : EventGroup :=
  if n = 0 then .framework
  else if n = 1 then .power
  else if n = 2 then .sensor
  else if n = 3 then .acpi
  else if n = 4 then .code
  else .other n

def number : EventGroup → UInt32
  | .framework => 0
  | .power => 1
  | .sensor => 2
  | .acpi => 3
  | .code => 4
  | .other n => n

instance : ToString EventGroup where
  toString
    | .framework => "Dptf"
    | .power => "Power"
    | .sensor => "Sensor"
    | .acpi => "Acpi"
    | .code => "Code"
    | .other n => s!"Other({n})"

end EventGroup

structure Event where
  name : String
  key : List UInt8
  eventType : EventType
  guid : List UInt8
  group : EventGroup
  dataType : UInt32
  deriving DecidableEq, Repr, Inhabited

end DeviceSupport
