import DeviceSupport.Profile.Records

/-! What a package is made from.

A `PackageSpec` says everything an image can hold; `Package.encode` writes it. Padding is the
number of zero bytes behind the last part of a record. -/
namespace DeviceSupport
set_option autoImplicit false

structure ActionSpec where
  actionType : ActionType
  isKernel : Bool
  priority : UInt32 := 0
  params : Params := Params.ofList []
  padding : Nat := 0
  deriving DecidableEq, Repr, Inhabited

/-- Fills a slot; there is no slot beyond the last. -/
def ActionSpec.withParam (a : ActionSpec) (slot : Nat) (param : Param) : ActionSpec :=
  { a with params := a.params.set slot (some param) }

structure PrimitiveSpec where
  opcode : Opcode
  tuple : Tuple
  requestType : UInt32
  resultType : UInt32
  actions : List ActionSpec := []
  padding : Nat := 0
  deriving DecidableEq, Repr, Inhabited

structure DomainSpec where
  name : String
  qualifier : String
  domainType : UInt32 := 0
  priority : UInt32 := 0
  guid : List UInt8 := List.replicate 16 0
  capabilityFlags : UInt32 := 0
  /-- Detail bytes of the capabilities; an image holds the first 32. -/
  capabilityDetail : List UInt8 := []
  primitives : List PrimitiveSpec := []
  padding : Nat := 0
  deriving DecidableEq, Repr, Inhabited

/-- Power and time are left as they are unless something else is said. -/
structure AlgorithmSpec where
  actionType : ActionType
  temperature : UInt32
  constant1 : UInt32 := 0
  constant2 : UInt32 := 0
  power : UInt32 := 2
  time : UInt32 := 8
  deriving DecidableEq, Repr, Inhabited

structure EventSpec where
  name : String
  eventType : EventType
  guid : List UInt8 := List.replicate 16 0
  group : UInt32 := 0
  key : String := ""
  deriving DecidableEq, Repr, Inhabited

structure PackageSpec where
  descriptor : Descriptor
  domains : List DomainSpec := []
  algorithms : List AlgorithmSpec := []
  events : List EventSpec := []
  deriving DecidableEq, Repr, Inhabited

/-- A package that is named by its code, in version 1.0. -/
def PackageSpec.named (code : String) : PackageSpec :=
  { descriptor := { code := code, name := code, majorVersion := 1 } }

/-! ## How a device is enumerated -/

namespace Descriptor

def onAcpi (d : Descriptor) (device type uid : String) : Descriptor :=
  { d with bus := .acpi, acpiDevice := device, acpiType := type, acpiUid := uid }

def onPci (d : Descriptor) (vendor device bus function : String) : Descriptor :=
  { d with
    bus := .pci, pciVendorId := vendor, pciDeviceId := device, pciBus := bus
    pciFunction := function }

def onPlatform (d : Descriptor) (kind name : String) : Descriptor :=
  { d with bus := .platform, kind := kind, name := name }

end Descriptor

end DeviceSupport
