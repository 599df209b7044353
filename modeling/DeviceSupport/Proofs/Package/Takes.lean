import DeviceSupport.Proofs.Package.Grammar

/-! The records that decoding takes.

`Logged.decode` decodes an image and writes down each attempt to take a record: the start of the
record around it, where the cursor stood in there, and what came of it. Writing it down changes no
answer (`result_decode`). -/
namespace DeviceSupport.Package
set_option autoImplicit false

/-- One attempt to take a record. -/
structure Take where
  /-- Where the record around it starts in the image; zero for those that lie in no other. -/
  base : Nat
  cursor : Cursor
  name : String
  outcome : Except Fault Record

/-- A run with the records that it took. -/
structure Logged (α : Type) where
  takes : List Take
  result : Except Fault α

namespace Logged
variable {α β : Type}

instance : Monad Logged where
  pure a := ⟨[], .ok a⟩
  bind run next :=
    match run.result with
    | .ok a => ⟨run.takes ++ (next a).takes, (next a).result⟩
    | .error fault => ⟨run.takes, .error fault⟩

/-- A step that takes no record. -/
def quiet (step : Except Fault α) : Logged α := ⟨[], step⟩

def take (base : Nat) (c : Cursor) (name : String) (step : Except Fault (Record × Cursor)) :
    Logged (Record × Cursor) :=
  ⟨[⟨base, c, name, step.map (·.1)⟩], step⟩

def fixed (base : Nat) (c : Cursor) (name : String) (length : Nat) : Logged (Record × Cursor) :=
  take base c name (c.fixed name length)

def chained (base : Nat) (c : Cursor) (name : String) (header : Nat) : Logged (Record × Cursor) :=
  take base c name (c.chained name header)

def many (read : Cursor → Logged (α × Cursor)) : Nat → Cursor → Logged (List α × Cursor)
  | 0, c => pure ([], c)
  | count + 1, c => do
    let (item, c) ← read c
    let (items, c) ← many read count c
    return (item :: items, c)

/-! ## The decoder -/

def nextAction (base : Nat) (c : Cursor) : Logged (Action × Cursor) := do
  let (record, c) ← chained base c "action" 44
  let action ← quiet (decodeAction record)
  return (action, c)

def decodePrimitive (base : Nat) (r : Record) : Logged Primitive := do
  let actionCount ← quiet (r.uint32 280)
  quiet (checkCeiling "action" actionCount Limits.actionsPerPrimitive)
  let instanceId ← quiet (r.uint16 8)
  let body ← quiet (r.body 284)
  let (actions, _) ← many (nextAction (base + r.offset)) actionCount.toNat body
  quiet do
    return {
      tuple := ⟨← r.uint16 4, ← r.uint16 6, instanceId.toUInt8⟩
      size := ← r.uint32 0
      operation := ← r.uint32 12
      requestType := ← r.uint32 16
      requestSchema := ← r.text 20 128
      resultType := ← r.uint32 148
      resultSchema := ← r.text 152 128
      actions }

def nextPrimitive (base : Nat) (c : Cursor) : Logged (Primitive × Cursor) := do
  let (record, c) ← chained base c "primitive" 284
  let primitive ← decodePrimitive base record
  return (primitive, c)

def nextDomain (c : Cursor) : Logged ((Domain × List Primitive) × Cursor) := do
  let (record, c) ← chained 0 c "domain" 236
  let domain ← quiet (decodeDomain record)
  let body ← quiet (record.body 236)
  let (primitives, _) ← many (nextPrimitive record.offset) domain.primitiveCount.toNat body
  return ((domain, primitives), c)

/-- An algorithm or an event, which holds no other record. -/
def nextFixed (name : String) (length : Nat) (read : Cursor → Except Fault (α × Cursor))
    (c : Cursor) : Logged (α × Cursor) := do
  let _ ← fixed 0 c name length
  quiet (read c)

def decode (image : List UInt8) : Logged Profile := do
  let (header, c) ← fixed 0 (Cursor.ofBytes image) "header" 540
  let declaredSize ← quiet (header.uint32 0)
  let domainCount ← quiet (header.uint32 528)
  let algorithmCount ← quiet (header.uint32 532)
  let eventCount ← quiet (header.uint32 536)
  quiet (if domainCount = 0 then throw .missingDomain else pure ())
  quiet (checkCeiling "domain" domainCount Limits.domains)
  quiet (checkCeiling "algorithm" algorithmCount Limits.algorithms)
  quiet (checkCeiling "event" eventCount Limits.events)
  let descriptor ← quiet (decodeDescriptor header)
  let (domains, c) ← many nextDomain domainCount.toNat c
  let (algorithms, c) ← many (nextFixed "algorithm" 28 nextAlgorithm) algorithmCount.toNat c
  let (events, _) ← many (nextFixed "event" 76 nextEvent) eventCount.toNat c
  let profile : Profile :=
    { descriptor, declaredSize, domains := domains.map (·.1), algorithms, events }
  return profile.insertPrimitives (domains.flatMap (·.2))

/-! ## The answers stay as they are -/

theorem result_pure (a : α) : (pure a : Logged α).result = .ok a := rfl

theorem result_quiet (step : Except Fault α) : (quiet step).result = step := rfl

theorem result_bind (run : Logged α) (next : α → Logged β) :
    (run >>= next).result = run.result >>= fun a => (next a).result := by
  obtain ⟨takes, result⟩ := run
  cases result <;> rfl

theorem result_many {read : Cursor → Logged (α × Cursor)}
    {plain : Cursor → Except Fault (α × Cursor)} (h : ∀ c, (read c).result = plain c)
    (count : Nat) (c : Cursor) : (many read count c).result = Cursor.many plain count c := by
  induction count generalizing c with
  | zero => rfl
  | succ count ih => simp only [many, Cursor.many, result_bind, result_pure, h, ih]; rfl

theorem result_nextAction (base : Nat) (c : Cursor) :
    (nextAction base c).result = Package.nextAction c := by
  simp only [nextAction, Package.nextAction, result_bind]
  rfl

theorem result_decodePrimitive (base : Nat) (r : Record) :
    (decodePrimitive base r).result = Package.decodePrimitive r := by
  simp only [decodePrimitive, Package.decodePrimitive, result_bind, result_quiet,
    result_many (result_nextAction (base + r.offset))]

theorem result_nextPrimitive (base : Nat) (c : Cursor) :
    (nextPrimitive base c).result = Package.nextPrimitive c := by
  simp only [nextPrimitive, Package.nextPrimitive, result_bind, result_decodePrimitive]
  rfl

theorem result_nextDomain (c : Cursor) : (nextDomain c).result = Package.nextDomain c := by
  simp only [nextDomain, Package.nextDomain, result_bind, result_quiet, result_pure,
    result_many (result_nextPrimitive _)]
  rfl

theorem result_nextFixed {name : String} {length : Nat} {read : Cursor → Except Fault (α × Cursor)}
    (h : ∀ c fault, c.fixed name length = .error fault → read c = .error fault) (c : Cursor) :
    (nextFixed name length read c).result = read c := by
  rw [nextFixed, result_bind]
  cases htaken : (fixed 0 c name length).result with
  | error fault => exact (h c fault htaken).symm
  | ok taken => rfl

theorem nextAlgorithm_error (c : Cursor) (fault : Fault)
    (h : c.fixed "algorithm" 28 = .error fault) : nextAlgorithm c = .error fault := by
  rw [nextAlgorithm, h]
  rfl

theorem nextEvent_error (c : Cursor) (fault : Fault) (h : c.fixed "event" 76 = .error fault) :
    nextEvent c = .error fault := by
  rw [nextEvent, h]
  rfl

theorem refuse_bind {p : Prop} [Decidable p] (fault : Fault) (next : Unit → Except Fault α) :
    ((if p then throw fault else pure ()) >>= next) =
      if p then throw fault >>= next else next () := by
  split <;> rfl

theorem result_decode (image : List UInt8) : (decode image).result = Package.decode image := by
  simp only [decode, Package.decode, result_bind, result_quiet, result_pure,
    result_many result_nextDomain, result_many (result_nextFixed nextAlgorithm_error),
    result_many (result_nextFixed nextEvent_error), refuse_bind]
  rfl

/-! ## Behind the headers

Once a record is taken, the fields of its header are there. -/

theorem quiet_ok_bind (a : α) (next : α → Logged β) : (quiet (.ok a) >>= next) = next a := rfl

theorem decodePrimitive_of_le {base : Nat} {r : Record} (h : 284 ≤ r.bytes.length) :
    decodePrimitive base r = do
      quiet (checkCeiling "action" (Field.uint32 r.bytes 280) Limits.actionsPerPrimitive)
      let (actions, _) ← many (nextAction (base + r.offset)) (Field.uint32 r.bytes 280).toNat
        ⟨284, r.bytes.drop 284⟩
      return primitiveOf r.bytes actions := by
  unfold decodePrimitive
  simp (disch := omega) only [Record.uint16_of_le, Record.uint32_of_le, Record.text_of_le,
    Record.body_of_le, ok_bind, pure_eq_ok, quiet_ok_bind]
  rfl

theorem decodeDomain_of_le {r : Record} (h : 236 ≤ r.bytes.length) :
    decodeDomain r = do
      checkCeiling "primitive" (Field.uint32 r.bytes 192) Limits.primitivesPerDomain
      return domainOf r.bytes := by
  unfold decodeDomain
  simp (disch := omega) only [Record.uint8_of_le, Record.uint16_of_le, Record.uint32_of_le,
    Record.text_of_le, Record.field_of_le, ok_bind, pure_eq_ok]
  rfl

end Logged
end DeviceSupport.Package
