import DeviceSupport.Bytes.Cursor
import DeviceSupport.Limits
import DeviceSupport.Profile

/-! Reading package images.

`Package.decode` walks the chain of records: the image's header, each domain with the primitives
nested in it, each primitive with its actions, then algorithms and events. A nested record lies
inside its parent's bytes, and the offsets in its faults count from the parent's start. What
follows the last event is not looked at. -/
namespace DeviceSupport.Package
set_option autoImplicit false

def checkCeiling (what : String) (count limit : UInt32) : Except Fault Unit :=
  if limit < count then .error (.resourceExhausted what count limit) else .ok ()

/-! ## Actions -/

/-- The item at `offset` of an action; an item of an unknown kind leaves its slot vacant. -/
def decodeParam (r : Record) (offset : Nat) : Except Fault (Option Param) := do
  let kind ← r.uint8 offset
  let length ← r.uint16 (offset + 2)
  if kind = 1 then
    let value ← r.text (offset + 4) length.toNat
    return some (.text value)
  else if kind = 4 then
    let value ← r.uint32 (offset + 4)
    return some (.number value)
  else return none

def decodeSlot (r : Record) (slot : Nat) : Except Fault (Option Param) := do
  let valid ← r.uint8 (16 + slot)
  if valid = 0 then return none
  let offset ← r.uint32 (24 + 4 * slot)
  decodeParam r offset.toNat

def decodeParams (r : Record) : Except Fault Params := (List.range Params.slots).mapM (decodeSlot r)

def decodeAction (r : Record) : Except Fault Action := do
  let params ← decodeParams r
  let isKernel ← r.uint32 12
  return {
    size := ← r.uint32 0
    actionType := ⟨← r.uint32 4⟩
    priority := ← r.uint32 8
    isKernel := 0 < isKernel.toInt32
    params }

def nextAction (c : Cursor) : Except Fault (Action × Cursor) := do
  let (record, c) ← c.chained "action" 44
  let action ← decodeAction record
  return (action, c)

/-! ## Primitives -/

def decodePrimitive (r : Record) : Except Fault Primitive := do
  let actionCount ← r.uint32 280
  checkCeiling "action" actionCount Limits.actionsPerPrimitive
  let instanceId ← r.uint16 8
  let body ← r.body 284
  let (actions, _) ← body.many nextAction actionCount.toNat
  return {
    tuple := ⟨← r.uint16 4, ← r.uint16 6, instanceId.toUInt8⟩
    size := ← r.uint32 0
    operation := ← r.uint32 12
    requestType := ← r.uint32 16
    requestSchema := ← r.text 20 128
    resultType := ← r.uint32 148
    resultSchema := ← r.text 152 128
    actions }

def nextPrimitive (c : Cursor) : Except Fault (Primitive × Cursor) := do
  let (record, c) ← c.chained "primitive" 284
  let primitive ← decodePrimitive record
  return (primitive, c)

/-! ## Domains -/

def decodeDomain (r : Record) : Except Fault Domain := do
  let primitiveCount ← r.uint32 192
  checkCeiling "primitive" primitiveCount Limits.primitivesPerDomain
  return {
    size := ← r.uint32 0
    name := ← r.text 4 32
    description := ← r.text 36 128
    qualifier := ← r.uint16 164
    guid := ← r.field 166 16
    priority := ← r.uint32 184
    domainType := ← r.uint32 188
    primitiveCount
    capability := {
      flags := ← r.uint32 196
      count := ← r.uint8 200
      mask := ← r.field 204 32 } }

/-- A domain with its primitives. -/
def nextDomain (c : Cursor) : Except Fault ((Domain × List Primitive) × Cursor) := do
  let (record, c) ← c.chained "domain" 236
  let domain ← decodeDomain record
  let body ← record.body 236
  let (primitives, _) ← body.many nextPrimitive domain.primitiveCount.toNat
  return ((domain, primitives), c)

/-! ## Algorithms and events -/

def nextAlgorithm (c : Cursor) : Except Fault (Algorithm × Cursor) := do
  let (r, c) ← c.fixed "algorithm" 28
  return ({
    actionType := ⟨← r.uint32 0⟩
    temperature := ← r.uint32 4
    constant1 := ← r.uint32 8
    constant2 := ← r.uint32 12
    power := ← r.uint32 16
    time := ← r.uint32 20
    size := ← r.uint32 24 }, c)

def nextEvent (c : Cursor) : Except Fault (Event × Cursor) := do
  let (r, c) ← c.fixed "event" 76
  return ({
    name := ← r.text 0 32
    key := ← r.field 32 16
    eventType := ⟨← r.uint32 48⟩
    guid := ← r.field 52 16
    group := EventGroup.ofNumber (← r.uint32 68)
    dataType := ← r.uint32 72 }, c)

/-! ## Images -/

def decodeDescriptor (r : Record) : Except Fault Descriptor := do
  return {
    code := ← r.text 4 13
    majorVersion := ← r.uint8 17
    minorVersion := ← r.uint8 18
    name := ← r.text 19 32
    description := ← r.text 51 128
    kind := ← r.text 179 64
    acpiDevice := ← r.text 243 32
    acpiUid := ← r.text 275 32
    acpiType := ← r.text 307 32
    acpiScope := ← r.text 339 32
    pciVendorId := ← r.text 371 32
    pciDeviceId := ← r.text 403 32
    bus := Bus.ofCode (← r.uint32 436)
    pciBus := ← r.text 440 8
    pciDevice := ← r.text 448 8
    pciFunction := ← r.text 456 8
    pciRevision := ← r.text 464 16
    pciClass := ← r.text 480 16
    pciSubClass := ← r.text 496 16
    pciProgIf := ← r.text 512 16 }

def decode (image : List UInt8) : Except Fault Profile := do
  let (header, c) ← (Cursor.ofBytes image).fixed "header" 540
  let declaredSize ← header.uint32 0
  let domainCount ← header.uint32 528
  let algorithmCount ← header.uint32 532
  let eventCount ← header.uint32 536
  if domainCount = 0 then throw .missingDomain
  checkCeiling "domain" domainCount Limits.domains
  checkCeiling "algorithm" algorithmCount Limits.algorithms
  checkCeiling "event" eventCount Limits.events
  let descriptor ← decodeDescriptor header
  let (domains, c) ← c.many nextDomain domainCount.toNat
  let (algorithms, c) ← c.many nextAlgorithm algorithmCount.toNat
  let (events, _) ← c.many nextEvent eventCount.toNat
  let profile : Profile :=
    { descriptor, declaredSize, domains := domains.map (·.1), algorithms, events }
  return profile.insertPrimitives (domains.flatMap (·.2))

end DeviceSupport.Package
