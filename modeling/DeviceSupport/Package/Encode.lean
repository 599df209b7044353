import DeviceSupport.Bytes.LittleEndian
import DeviceSupport.Package.Spec
import DeviceSupport.Text.Utf8

/-! Writing package images.

All numbers are little-endian. A record that declares its size (`sized`) starts with it, and the
size covers what is nested in the record: a domain's primitives and a primitive's actions.

| record | bytes | then |
|---|---|---|
| image | 540 | domains, algorithms, events |
| domain | 236 | its primitives |
| primitive | 284 | its actions |
| action | 44 | its parameters |
| parameter | 4 | its data |
| algorithm | 28 | |
| event | 76 | | -/
namespace DeviceSupport.Package
set_option autoImplicit false

/-! ## Fields -/

def zeros (n : Nat) : List UInt8 := List.replicate n 0

/-- Exactly `width` bytes: cut, or filled up with zeros. -/
def fixedBytes (width : Nat) (bytes : List UInt8) : List UInt8 :=
  bytes.take width ++ zeros (width - bytes.length)

/-- A text in a field of `width` bytes, cut so that a NUL still follows it. -/
def fixedText (width : Nat) (text : String) : List UInt8 :=
  fixedBytes width ((Utf8.encode text).take (width - 1))

def number16 (n : Nat) : List UInt8 := LittleEndian.encode 2 n

def number32 (n : Nat) : List UInt8 := LittleEndian.encode 4 n

/-- A record's body behind the size of the whole record. -/
def sized (body : List UInt8) : List UInt8 := number32 (body.length + 4) ++ body

/-! ## Actions -/

/-- A parameter's data; a text is followed by a NUL. -/
def paramData : Param → List UInt8
  | .text value => Utf8.encode value ++ [0]
  | .number value => LittleEndian.ofUInt32 value

def paramKind : Param → UInt8
  | .text _ => 1
  | .number _ => 4

def encodeParam (p : Param) : List UInt8 :=
  [paramKind p, 0] ++ number16 (paramData p).length ++ paramData p

/-- Where each slot's parameter starts when the first starts at `start`; zero for a vacant slot. -/
def paramOffsets (start : Nat) : Params → List Nat
  | [] => []
  | none :: params => 0 :: paramOffsets start params
  | some p :: params => start :: paramOffsets (start + (encodeParam p).length) params

def actionHeader : Nat := 44

def encodeAction (a : ActionSpec) : List UInt8 :=
  let params := Params.ofList a.params
  sized <|
    LittleEndian.ofUInt32 a.actionType.code ++ LittleEndian.ofUInt32 a.priority ++
    number32 (if a.isKernel then 1 else 0) ++
    params.map (fun p => if p.isSome then 1 else 0) ++ zeros 3 ++
    (paramOffsets actionHeader params).flatMap number32 ++
    (params.filterMap id).flatMap encodeParam ++ zeros a.padding

/-! ## Primitives and domains -/

def encodePrimitive (p : PrimitiveSpec) : List UInt8 :=
  sized <|
    LittleEndian.ofUInt16 p.tuple.id ++ LittleEndian.ofUInt16 p.tuple.domain ++
    number16 p.tuple.instanceId.toNat ++ zeros 2 ++
    LittleEndian.ofUInt32 p.opcode.code ++
    LittleEndian.ofUInt32 p.requestType ++ zeros 128 ++
    LittleEndian.ofUInt32 p.resultType ++ zeros 128 ++
    number32 p.actions.length ++
    p.actions.flatMap encodeAction ++ zeros p.padding

def encodeDomain (d : DomainSpec) : List UInt8 :=
  let detail := d.capabilityDetail.take 32
  sized <|
    fixedText 32 d.name ++ zeros 128 ++
    LittleEndian.ofUInt16 (Qualifier.code d.qualifier) ++ fixedBytes 16 d.guid ++ zeros 2 ++
    LittleEndian.ofUInt32 d.priority ++ LittleEndian.ofUInt32 d.domainType ++
    number32 d.primitives.length ++
    LittleEndian.ofUInt32 d.capabilityFlags ++ LittleEndian.encode 1 detail.length ++ zeros 3 ++
    fixedBytes 32 detail ++
    d.primitives.flatMap encodePrimitive ++ zeros d.padding

/-! ## Algorithms and events -/

def algorithmSize : Nat := 28

def encodeAlgorithm (a : AlgorithmSpec) : List UInt8 :=
  LittleEndian.ofUInt32 a.actionType.code ++ LittleEndian.ofUInt32 a.temperature ++
  LittleEndian.ofUInt32 a.constant1 ++ LittleEndian.ofUInt32 a.constant2 ++
  LittleEndian.ofUInt32 a.power ++ LittleEndian.ofUInt32 a.time ++ number32 algorithmSize

def eventSize : Nat := 76

def encodeEvent (e : EventSpec) : List UInt8 :=
  fixedText 32 e.name ++ fixedText 16 e.key ++
  LittleEndian.ofUInt32 e.eventType.code ++ fixedBytes 16 e.guid ++
  LittleEndian.ofUInt32 e.group ++ LittleEndian.ofUInt32 DataType.void.code

/-! ## Images -/

def encodeDescriptor (d : Descriptor) : List UInt8 :=
  fixedText 13 d.code ++ [d.majorVersion, d.minorVersion] ++
  fixedText 32 d.name ++ fixedText 128 d.description ++ fixedText 64 d.kind ++
  fixedText 32 d.acpiDevice ++ fixedText 32 d.acpiUid ++ fixedText 32 d.acpiType ++
  fixedText 32 d.acpiScope ++ fixedText 32 d.pciVendorId ++ fixedText 32 d.pciDeviceId ++ zeros 1 ++
  LittleEndian.ofUInt32 d.bus.code ++
  fixedText 8 d.pciBus ++ fixedText 8 d.pciDevice ++ fixedText 8 d.pciFunction ++
  fixedText 16 d.pciRevision ++ fixedText 16 d.pciClass ++ fixedText 16 d.pciSubClass ++
  fixedText 16 d.pciProgIf

def encode (p : PackageSpec) : List UInt8 :=
  sized <|
    encodeDescriptor p.descriptor ++
    number32 p.domains.length ++ number32 p.algorithms.length ++ number32 p.events.length ++
    p.domains.flatMap encodeDomain ++ p.algorithms.flatMap encodeAlgorithm ++
    p.events.flatMap encodeEvent

end DeviceSupport.Package
