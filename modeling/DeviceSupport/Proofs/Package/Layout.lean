import DeviceSupport.Proofs.Package.Slots

/-! Where encoding puts the fields of a record.

Reading a record that was written, at the offsets of the grammar, gives the parts of its
description. What the strings of a description must be for that is said by `Storable`. -/
namespace DeviceSupport
set_option autoImplicit false

open Package

/-! ## Algorithms and events -/

def AlgorithmSpec.decoded (a : AlgorithmSpec) : Algorithm where
  actionType := a.actionType
  temperature := a.temperature
  constant1 := a.constant1
  constant2 := a.constant2
  power := a.power
  time := a.time
  size := 28

theorem length_encodeAlgorithm (a : AlgorithmSpec) : (encodeAlgorithm a).length = 28 := by
  simp [encodeAlgorithm]

theorem algorithmOf_encode (a : AlgorithmSpec) : algorithmOf (encodeAlgorithm a) = a.decoded := by
  simp [algorithmOf, encodeAlgorithm, AlgorithmSpec.decoded, Field.uint32, Field.bytes_skip,
    Field.bytes_here, Field.bytes_last, LittleEndian.toUInt32_ofUInt32, toUInt32_number32]
  rfl

structure EventSpec.Storable (e : EventSpec) : Prop where
  name : FitsField 32 e.name
  key : FitsField 16 e.key
  guid : e.guid.length = 16

def EventSpec.decoded (e : EventSpec) : Event where
  name := e.name
  key := Utf8.encode e.key ++ zeros (16 - (Utf8.encode e.key).length)
  eventType := e.eventType
  guid := e.guid
  group := EventGroup.ofNumber e.group
  dataType := DataType.void.code

theorem length_encodeEvent (e : EventSpec) : (encodeEvent e).length = 76 := by
  simp [encodeEvent]

theorem fixedText_eq {width : Nat} {text : String} (h : FitsField width text) :
    fixedText width text = Utf8.encode text ++ zeros (width - (Utf8.encode text).length) := by
  have hshort := h.short
  rw [fixedText, fixedBytes, List.take_of_length_le hshort, List.take_of_length_le (by omega)]

theorem eventOf_encode {e : EventSpec} (h : e.Storable) : eventOf (encodeEvent e) = e.decoded := by
  rw [EventSpec.decoded, ← fixedText_eq h.key]
  simp [eventOf, encodeEvent, Field.uint32, Field.text, Field.bytes_skip, Field.bytes_here,
    Field.bytes_last, LittleEndian.toUInt32_ofUInt32, decodeField_fixedText h.name,
    fixedBytes_of_length h.guid, h.guid]

/-! ## Domains -/

def DomainSpec.header (d : DomainSpec) : List UInt8 :=
  number32 (encodeDomain d).length ++ fixedText 32 d.name ++ zeros 128 ++
    LittleEndian.ofUInt16 (Qualifier.code d.qualifier) ++ fixedBytes 16 d.guid ++ zeros 2 ++
    LittleEndian.ofUInt32 d.priority ++ LittleEndian.ofUInt32 d.domainType ++
    number32 d.primitives.length ++ LittleEndian.ofUInt32 d.capabilityFlags ++
    LittleEndian.encode 1 (d.capabilityDetail.take 32).length ++ zeros 3 ++
    fixedBytes 32 (d.capabilityDetail.take 32)

theorem length_domainHeader (d : DomainSpec) : d.header.length = 236 := by
  unfold DomainSpec.header
  simp

theorem encodeDomain_eq (d : DomainSpec) :
    encodeDomain d = d.header ++ (d.primitives.flatMap encodePrimitive ++ zeros d.padding) := by
  have hlen : (encodeDomain d).length = _ := length_sized _
  unfold DomainSpec.header
  rw [hlen, encodeDomain, sized]
  simp only [List.append_assoc]

theorem length_encodeDomain (d : DomainSpec) :
    (encodeDomain d).length = 236 + ((d.primitives.flatMap encodePrimitive).length + d.padding) := by
  rw [encodeDomain_eq, List.length_append, length_domainHeader, List.length_append, length_zeros]

def DomainSpec.decoded (d : DomainSpec) : Domain where
  size := UInt32.ofNat (encodeDomain d).length
  name := d.name
  description := ""
  qualifier := Qualifier.code d.qualifier
  guid := d.guid
  priority := d.priority
  domainType := d.domainType
  primitiveCount := UInt32.ofNat d.primitives.length
  capability :=
    { flags := d.capabilityFlags
      count := UInt8.ofNat (min 32 d.capabilityDetail.length)
      mask := d.capabilityDetail.take 32 ++ zeros (32 - d.capabilityDetail.length) }

theorem domainOf_encode {d : DomainSpec} (hname : FitsField 32 d.name) (hguid : d.guid.length = 16) :
    domainOf (encodeDomain d) = d.decoded := by
  rw [encodeDomain_eq]
  unfold domainOf DomainSpec.header DomainSpec.decoded
  simp (disch := simp) only [Field.uint32, Field.uint16, Field.text, List.append_assoc,
    Field.bytes_skip, Field.bytes_here, Field.uint8_skip, length_number32, length_fixedText,
    length_fixedBytes, length_zeros, length_ofUInt32, length_ofUInt16, LittleEndian.length_encode,
    Nat.reduceSub, LittleEndian.toUInt32_ofUInt32, LittleEndian.toUInt16_ofUInt16,
    toUInt32_number32, decodeField_zeros]
  rw [decodeField_fixedText hname, fixedBytes_of_length hguid, fixedBytes_take, uint8_encode,
    List.length_take]

theorem count_encodeDomain (d : DomainSpec) :
    Field.uint32 (encodeDomain d) 192 = UInt32.ofNat d.primitives.length := by
  rw [encodeDomain_eq]
  unfold DomainSpec.header
  simp (disch := simp) only [Field.uint32, List.append_assoc, Field.bytes_skip, Field.bytes_here,
    length_number32, length_fixedText, length_fixedBytes, length_zeros, length_ofUInt32,
    length_ofUInt16, Nat.reduceSub, toUInt32_number32]

/-! ## Primitives -/

def PrimitiveSpec.header (p : PrimitiveSpec) : List UInt8 :=
  number32 (encodePrimitive p).length ++ LittleEndian.ofUInt16 p.tuple.id ++
    LittleEndian.ofUInt16 p.tuple.domain ++ number16 p.tuple.instanceId.toNat ++ zeros 2 ++
    LittleEndian.ofUInt32 p.opcode.code ++ LittleEndian.ofUInt32 p.requestType ++ zeros 128 ++
    LittleEndian.ofUInt32 p.resultType ++ zeros 128 ++ number32 p.actions.length

theorem length_primitiveHeader (p : PrimitiveSpec) : p.header.length = 284 := by
  unfold PrimitiveSpec.header
  simp

theorem encodePrimitive_eq (p : PrimitiveSpec) :
    encodePrimitive p = p.header ++ (p.actions.flatMap encodeAction ++ zeros p.padding) := by
  have hlen : (encodePrimitive p).length = _ := length_sized _
  unfold PrimitiveSpec.header
  rw [hlen, encodePrimitive, sized]
  simp only [List.append_assoc]

theorem length_encodePrimitive (p : PrimitiveSpec) :
    (encodePrimitive p).length = 284 + ((p.actions.flatMap encodeAction).length + p.padding) := by
  rw [encodePrimitive_eq, List.length_append, length_primitiveHeader, List.length_append,
    length_zeros]

def PrimitiveSpec.decoded (p : PrimitiveSpec) : Primitive where
  tuple := p.tuple
  size := UInt32.ofNat (encodePrimitive p).length
  operation := p.opcode.code
  requestType := p.requestType
  requestSchema := ""
  resultType := p.resultType
  resultSchema := ""
  actions := p.actions.map (·.decoded)

theorem toUInt8_ofNat_toNat (n : UInt8) : (UInt16.ofNat n.toNat).toUInt8 = n := by
  apply UInt8.toNat.inj
  have hlt : n.toNat < UInt16.size := Nat.lt_trans n.toNat_lt (by decide)
  rw [UInt16.toNat_toUInt8, UInt16.toNat_ofNat_of_lt' hlt]
  exact Nat.mod_eq_of_lt n.toNat_lt

/-- The primitive that is read where this one was written, with the actions that are read there. -/
def PrimitiveSpec.readBack (p : PrimitiveSpec) : Primitive :=
  { p.decoded with actions := p.actions.map (·.readBack) }

theorem primitiveOf_encode (p : PrimitiveSpec) :
    primitiveOf (encodePrimitive p) (p.actions.map (·.readBack)) = p.readBack := by
  rw [encodePrimitive_eq]
  unfold primitiveOf PrimitiveSpec.header PrimitiveSpec.readBack PrimitiveSpec.decoded
  simp (disch := simp) only [Field.uint32, Field.uint16, Field.text, List.append_assoc,
    Field.bytes_skip, Field.bytes_here, length_number32, length_number16, length_zeros,
    length_ofUInt32, length_ofUInt16, Nat.reduceSub, LittleEndian.toUInt32_ofUInt32,
    LittleEndian.toUInt16_ofUInt16, toUInt32_number32, toUInt16_number16, decodeField_zeros,
    toUInt8_ofNat_toNat]

theorem count_encodePrimitive (p : PrimitiveSpec) :
    Field.uint32 (encodePrimitive p) 280 = UInt32.ofNat p.actions.length := by
  rw [encodePrimitive_eq]
  unfold PrimitiveSpec.header
  simp (disch := simp) only [Field.uint32, List.append_assoc, Field.bytes_skip, Field.bytes_here,
    length_number32, length_number16, length_zeros, length_ofUInt32, length_ofUInt16,
    Nat.reduceSub, toUInt32_number32]

/-! ## Descriptors -/

/-- The codes of the known buses mean nothing else. -/
def Bus.IsCanonical : Bus → Prop
  | .other code => 2 < code
  | _ => True

instance : DecidablePred Bus.IsCanonical
  | .other code => inferInstanceAs (Decidable (2 < code))
  | .acpi | .pci | .platform => inferInstanceAs (Decidable True)

theorem Bus.ofCode_code {bus : Bus} (h : bus.IsCanonical) : Bus.ofCode bus.code = bus := by
  cases bus with
  | acpi => rfl
  | pci => rfl
  | platform => rfl
  | other code =>
    have hlarge : 2 < code.toNat := h
    have hne (n : UInt32) (hn : n.toNat ≤ 2) : code ≠ n := by
      rintro rfl
      omega
    rw [Bus.ofCode, Bus.code, if_neg (hne 0 (by decide)), if_neg (hne 1 (by decide)),
      if_neg (hne 2 (by decide))]

structure Descriptor.Storable (d : Descriptor) : Prop where
  code : FitsField 13 d.code
  name : FitsField 32 d.name
  description : FitsField 128 d.description
  kind : FitsField 64 d.kind
  acpiDevice : FitsField 32 d.acpiDevice
  acpiUid : FitsField 32 d.acpiUid
  acpiType : FitsField 32 d.acpiType
  acpiScope : FitsField 32 d.acpiScope
  pciVendorId : FitsField 32 d.pciVendorId
  pciDeviceId : FitsField 32 d.pciDeviceId
  bus : d.bus.IsCanonical
  pciBus : FitsField 8 d.pciBus
  pciDevice : FitsField 8 d.pciDevice
  pciFunction : FitsField 8 d.pciFunction
  pciRevision : FitsField 16 d.pciRevision
  pciClass : FitsField 16 d.pciClass
  pciSubClass : FitsField 16 d.pciSubClass
  pciProgIf : FitsField 16 d.pciProgIf

def PackageSpec.header (s : PackageSpec) : List UInt8 :=
  number32 (encode s).length ++ encodeDescriptor s.descriptor ++ number32 s.domains.length ++
    number32 s.algorithms.length ++ number32 s.events.length

theorem length_encodeDescriptor (d : Descriptor) : (encodeDescriptor d).length = 524 := by
  unfold encodeDescriptor
  simp only [List.length_append, List.length_cons, List.length_nil, length_fixedText, length_zeros,
    length_ofUInt32]

theorem length_packageHeader (s : PackageSpec) : s.header.length = 540 := by
  simp [PackageSpec.header, length_encodeDescriptor]

theorem encode_eq (s : PackageSpec) :
    encode s = s.header ++ s.domains.flatMap encodeDomain ++ s.algorithms.flatMap encodeAlgorithm ++
      s.events.flatMap encodeEvent := by
  have hlen : (encode s).length = _ := length_sized _
  rw [PackageSpec.header, hlen, encode, sized]
  simp only [List.append_assoc]

theorem length_encode (s : PackageSpec) :
    (encode s).length = 540 + (s.domains.flatMap encodeDomain).length +
      (s.algorithms.flatMap encodeAlgorithm).length + (s.events.flatMap encodeEvent).length := by
  rw [encode_eq, List.length_append, List.length_append, List.length_append, length_packageHeader]

/-! The sizes of images, computed without writing them. -/

def totalSize {α : Type} (size : α → Nat) (xs : List α) : Nat :=
  xs.foldr (fun x rest => size x + rest) 0

theorem totalSize_eq {α : Type} {size : α → Nat} {write : α → List UInt8}
    (h : ∀ x, size x = (write x).length) (xs : List α) :
    totalSize size xs = (xs.flatMap write).length := by
  induction xs with
  | nil => rfl
  | cons x xs ih =>
    rw [totalSize] at ih
    rw [totalSize, List.foldr_cons, ih, h, List.flatMap_cons, List.length_append]

def ActionSpec.imageSize (a : ActionSpec) : Nat :=
  44 + ((paramItems (Params.ofList a.params)).length + a.padding)

def PrimitiveSpec.imageSize (p : PrimitiveSpec) : Nat :=
  284 + (totalSize ActionSpec.imageSize p.actions + p.padding)

def DomainSpec.imageSize (d : DomainSpec) : Nat :=
  236 + (totalSize PrimitiveSpec.imageSize d.primitives + d.padding)

def PackageSpec.imageSize (s : PackageSpec) : Nat :=
  540 + totalSize DomainSpec.imageSize s.domains + totalSize (fun _ => 28) s.algorithms +
    totalSize (fun _ => 76) s.events

theorem ActionSpec.imageSize_eq (a : ActionSpec) : a.imageSize = (encodeAction a).length :=
  (length_encodeAction a).symm

theorem PrimitiveSpec.imageSize_eq (p : PrimitiveSpec) :
    p.imageSize = (encodePrimitive p).length := by
  rw [PrimitiveSpec.imageSize, totalSize_eq ActionSpec.imageSize_eq, length_encodePrimitive]

theorem DomainSpec.imageSize_eq (d : DomainSpec) : d.imageSize = (encodeDomain d).length := by
  rw [DomainSpec.imageSize, totalSize_eq PrimitiveSpec.imageSize_eq, length_encodeDomain]

theorem PackageSpec.imageSize_eq (s : PackageSpec) : s.imageSize = (encode s).length := by
  rw [PackageSpec.imageSize, totalSize_eq DomainSpec.imageSize_eq,
    totalSize_eq fun a => (length_encodeAlgorithm a).symm,
    totalSize_eq fun e => (length_encodeEvent e).symm, length_encode]

theorem descriptorOf_header {s : PackageSpec} (h : s.descriptor.Storable) :
    descriptorOf s.header = s.descriptor := by
  have hbus := Bus.ofCode_code h.bus
  unfold descriptorOf PackageSpec.header encodeDescriptor
  simp (disch := simp) only [Field.uint32, Field.text, List.append_assoc, Field.bytes_skip,
    Field.bytes_here, Field.uint8_skip, length_number32, length_fixedText, length_zeros,
    length_ofUInt32, List.length_cons, List.length_nil, Nat.reduceSub, Nat.reduceAdd,
    LittleEndian.toUInt32_ofUInt32, hbus]
  rw [decodeField_fixedText h.code, decodeField_fixedText h.name,
    decodeField_fixedText h.description, decodeField_fixedText h.kind,
    decodeField_fixedText h.acpiDevice, decodeField_fixedText h.acpiUid,
    decodeField_fixedText h.acpiType, decodeField_fixedText h.acpiScope,
    decodeField_fixedText h.pciVendorId, decodeField_fixedText h.pciDeviceId,
    decodeField_fixedText h.pciBus, decodeField_fixedText h.pciDevice,
    decodeField_fixedText h.pciFunction, decodeField_fixedText h.pciRevision,
    decodeField_fixedText h.pciClass, decodeField_fixedText h.pciSubClass,
    decodeField_fixedText h.pciProgIf]
  rfl

theorem counts_header (s : PackageSpec) :
    Field.uint32 s.header 0 = UInt32.ofNat (encode s).length ∧
      Field.uint32 s.header 528 = UInt32.ofNat s.domains.length ∧
      Field.uint32 s.header 532 = UInt32.ofNat s.algorithms.length ∧
      Field.uint32 s.header 536 = UInt32.ofNat s.events.length := by
  unfold PackageSpec.header
  simp (disch := simp [length_encodeDescriptor]) only [Field.uint32, List.append_assoc,
    Field.bytes_skip, Field.bytes_here, Field.bytes_last, length_number32, length_encodeDescriptor,
    Nat.reduceSub, toUInt32_number32, and_self]

end DeviceSupport
