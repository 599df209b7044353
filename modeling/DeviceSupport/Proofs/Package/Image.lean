import DeviceSupport.Package.Decode
import DeviceSupport.Proofs.Bytes.Walk

/-! The grammar of package images.

An image is a header, then domains, algorithms and events. A domain holds its primitives behind its
header, and a primitive its actions; what follows the last of them up to the declared size is free.
Each kind of record is a structure of its bytes, of the records inside, and of the proofs that they
fit; its fields are read at fixed offsets. Nothing here reads with a cursor. -/
namespace DeviceSupport.Package
set_option autoImplicit false

/-! ## Actions -/

/-- Where the item of a slot starts in an action. -/
def itemOffset (action : List UInt8) (slot : Nat) : Nat :=
  (Field.uint32 action (24 + 4 * slot)).toNat

def itemLength (action : List UInt8) (offset : Nat) : Nat :=
  (Field.uint16 action (offset + 2)).toNat

/-- An item lies inside its action: its head of four bytes, and the data that its kind has. -/
structure ItemFits (action : List UInt8) (offset : Nat) : Prop where
  head : offset + 4 ≤ action.length
  text : Field.uint8 action offset = 1 → offset + 4 + itemLength action offset ≤ action.length
  number : Field.uint8 action offset = 4 → offset + 8 ≤ action.length

/-- The item at an offset; an item of another kind is no parameter. -/
def item? (action : List UInt8) (offset : Nat) : Option Param :=
  if Field.uint8 action offset = 1 then
    some (.text (Field.text action (offset + 4) (itemLength action offset)))
  else if Field.uint8 action offset = 4 then some (.number (Field.uint32 action (offset + 4)))
  else none

/-- A slot is vacant, or its item fits. -/
def SlotFits (action : List UInt8) (slot : Nat) : Prop :=
  Field.uint8 action (16 + slot) ≠ 0 → ItemFits action (itemOffset action slot)

def param? (action : List UInt8) (slot : Nat) : Option Param :=
  if Field.uint8 action (16 + slot) = 0 then none else item? action (itemOffset action slot)

structure ActionImage where
  bytes : List UInt8
  sized : IsSized 44 bytes
  slots : ∀ slot ∈ List.range Params.slots, SlotFits bytes slot

def ActionImage.action (x : ActionImage) : Action where
  size := Field.uint32 x.bytes 0
  actionType := ⟨Field.uint32 x.bytes 4⟩
  priority := Field.uint32 x.bytes 8
  isKernel := 0 < (Field.uint32 x.bytes 12).toInt32
  params := (List.range Params.slots).map (param? x.bytes)

/-! ## Primitives -/

structure PrimitiveImage where
  bytes : List UInt8
  actions : List ActionImage
  sized : IsSized 284 bytes
  counted : (Field.uint32 bytes 280).toNat = actions.length
  few : actions.length ≤ 16
  inside : actions.flatMap (·.bytes) <+: bytes.drop 284

/-- The fields of a primitive's header, with its actions. -/
def primitiveOf (bytes : List UInt8) (actions : List Action) : Primitive where
  tuple := ⟨Field.uint16 bytes 4, Field.uint16 bytes 6, (Field.uint16 bytes 8).toUInt8⟩
  size := Field.uint32 bytes 0
  operation := Field.uint32 bytes 12
  requestType := Field.uint32 bytes 16
  requestSchema := Field.text bytes 20 128
  resultType := Field.uint32 bytes 148
  resultSchema := Field.text bytes 152 128
  actions

def PrimitiveImage.primitive (p : PrimitiveImage) : Primitive :=
  primitiveOf p.bytes (p.actions.map (·.action))

/-! ## Domains -/

structure DomainImage where
  bytes : List UInt8
  primitives : List PrimitiveImage
  sized : IsSized 236 bytes
  counted : (Field.uint32 bytes 192).toNat = primitives.length
  few : primitives.length ≤ 4096
  inside : primitives.flatMap (·.bytes) <+: bytes.drop 236

/-- The fields of a domain's header. -/
def domainOf (bytes : List UInt8) : Domain where
  size := Field.uint32 bytes 0
  name := Field.text bytes 4 32
  description := Field.text bytes 36 128
  qualifier := Field.uint16 bytes 164
  guid := Field.bytes bytes 166 16
  priority := Field.uint32 bytes 184
  domainType := Field.uint32 bytes 188
  primitiveCount := Field.uint32 bytes 192
  capability :=
    { flags := Field.uint32 bytes 196
      count := Field.uint8 bytes 200
      mask := Field.bytes bytes 204 32 }

def DomainImage.domain (d : DomainImage) : Domain := domainOf d.bytes

/-! ## Algorithms and events -/

abbrev AlgorithmImage := {bytes : List UInt8 // bytes.length = 28}

def algorithmOf (bytes : List UInt8) : Algorithm where
  actionType := ⟨Field.uint32 bytes 0⟩
  temperature := Field.uint32 bytes 4
  constant1 := Field.uint32 bytes 8
  constant2 := Field.uint32 bytes 12
  power := Field.uint32 bytes 16
  time := Field.uint32 bytes 20
  size := Field.uint32 bytes 24

abbrev EventImage := {bytes : List UInt8 // bytes.length = 76}

def eventOf (bytes : List UInt8) : Event where
  name := Field.text bytes 0 32
  key := Field.bytes bytes 32 16
  eventType := ⟨Field.uint32 bytes 48⟩
  guid := Field.bytes bytes 52 16
  group := EventGroup.ofNumber (Field.uint32 bytes 68)
  dataType := Field.uint32 bytes 72

/-! ## Images -/

def descriptorOf (header : List UInt8) : Descriptor where
  code := Field.text header 4 13
  majorVersion := Field.uint8 header 17
  minorVersion := Field.uint8 header 18
  name := Field.text header 19 32
  description := Field.text header 51 128
  kind := Field.text header 179 64
  acpiDevice := Field.text header 243 32
  acpiUid := Field.text header 275 32
  acpiType := Field.text header 307 32
  acpiScope := Field.text header 339 32
  pciVendorId := Field.text header 371 32
  pciDeviceId := Field.text header 403 32
  bus := Bus.ofCode (Field.uint32 header 436)
  pciBus := Field.text header 440 8
  pciDevice := Field.text header 448 8
  pciFunction := Field.text header 456 8
  pciRevision := Field.text header 464 16
  pciClass := Field.text header 480 16
  pciSubClass := Field.text header 496 16
  pciProgIf := Field.text header 512 16

structure Image where
  header : List UInt8
  domains : List DomainImage
  algorithms : List AlgorithmImage
  events : List EventImage
  header_length : header.length = 540
  domains_counted : (Field.uint32 header 528).toNat = domains.length
  algorithms_counted : (Field.uint32 header 532).toNat = algorithms.length
  events_counted : (Field.uint32 header 536).toNat = events.length
  some_domain : 1 ≤ domains.length
  few_domains : domains.length ≤ 64
  few_algorithms : algorithms.length ≤ 256
  few_events : events.length ≤ 512

namespace Image

def bytes (i : Image) : List UInt8 :=
  i.header ++ i.domains.flatMap (·.bytes) ++ i.algorithms.flatMap (·.1) ++ i.events.flatMap (·.1)

/-- The primitives of all domains, in the order of the image. -/
def primitives (i : Image) : List Primitive :=
  i.domains.flatMap fun d => d.primitives.map (·.primitive)

def profile (i : Image) : Profile :=
  Profile.insertPrimitives
    { descriptor := descriptorOf i.header
      declaredSize := Field.uint32 i.header 0
      domains := i.domains.map (·.domain)
      algorithms := i.algorithms.map fun a => algorithmOf a.1
      events := i.events.map fun e => eventOf e.1 }
    i.primitives

end Image

end DeviceSupport.Package
