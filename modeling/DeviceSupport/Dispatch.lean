import DeviceSupport.Dispatch.Attempt

/-! Running a primitive for a participant.

The actions of the primitive are alternatives: they are tried in order until one succeeds, and when
none does, the last fault counts. A handler that asks for a larger response gets one when the
caller left the response's type open, once for the whole call.

Whatever happens, the caller's request value comes back, open types come back resolved, and after a
fault the response holds zeros. -/
namespace DeviceSupport
set_option autoImplicit false

/-! ## The alternatives -/

namespace Call
variable {σ : Type}

/-- The size of response to try an action with again, if it may be tried again. -/
def enlargement? (c : Call σ) (lane : Lane) (retried : Bool) : Except Fault Unit → Option UInt32
  | .error (.needLargerBuffer needed) =>
    if lane = .handler ∧ c.typeOpen = true ∧ retried = false then some needed else none
  | _ => none

/-- Tries the actions from here on. The answer is the action that succeeded; `last` is the fault
to report when there is none left. -/
def run (c : Call σ) (last : Fault) (retried : Bool) :
    List (Action × Lane) → Stage σ → Except Fault Action × Stage σ
  | [], s => (.error last, s)
  | (action, lane) :: rest, s =>
    let first := c.attempt action lane s
    match c.enlargement? lane retried first.1 with
    | none =>
      match c.conclude action first with
      | (.ok (), s) => (.ok action, s)
      | (.error fault, s) => run c fault retried rest s
    | some needed =>
      let response := first.2.response.reallocate needed.toNat
      match c.invoke action lane { first.2 with response } with
      | (.error (.needLargerBuffer needed), s) => (.error (.needLargerBuffer needed), s)
      | second =>
        match c.conclude action second with
        | (.ok (), s) => (.ok action, s)
        | (.error fault, s) => run c fault true rest s

def runAll (c : Call σ) (s : Stage σ) : Except Fault Action × Stage σ :=
  c.run (.unsupportedActionType 0) false (lanes 0 c.primitive.actions) s

/-- What listeners are told after an action has succeeded. -/
def notice? (c : Call σ) (action : Action) : Option Notice :=
  if action.isKernel = false ∧ c.opcode = .set ∧ action.actionType = .config then
    (changeEvent? c.primitive.tuple.id).map
      (⟨c.participant.id, c.primitive.tuple.domain, ·⟩)
  else none

end Call

/-! ## What to run -/

/-- The primitive to run, as its caller names it. -/
structure Invocation where
  participant : UInt8
  id : UInt16
  /-- The qualifier of the domain. -/
  domain : String
  instanceId : UInt8
  deriving DecidableEq, Repr, Inhabited

namespace Invocation

def tuple (i : Invocation) : Tuple := Tuple.ofQualifier i.id i.domain i.instanceId

def find (i : Invocation) (participants : ParticipantTable) :
    Except Fault (Participant × Profile × Primitive) :=
  match participants.find? i.participant with
  | none => .error (.participantNotFound i.participant)
  | some participant =>
    match participant.bound with
    | none => .error (.needProfile i.participant)
    | some (_, profile) =>
      match profile.primitive? i.tuple with
      | none => .error (.primitiveNotFound profile.code i.id i.domain i.instanceId)
      | some primitive => .ok (participant, profile, primitive)

end Invocation

/-! ## Types left open -/

namespace Primitive

def resolveRequest (p : Primitive) (request : DataBuffer) : DataBuffer :=
  if request.dataType = .auto then { request with dataType := p.requestDataType?.getD .void }
  else request

/-- Settles the type of a response, then its size. -/
def resolveResponse (p : Primitive) (response : DataBuffer) : DataBuffer :=
  let response :=
    if response.dataType = .auto then
      { response with dataType := (p.resultDataType?.getD .void).widened }
    else response
  if response.needsAllocation then response.reallocate response.dataType.defaultSize else response

end Primitive

/-! ## The call -/

/-- What a call leaves behind. -/
structure Dispatched (σ : Type) where
  result : Except Fault Unit
  request : DataBuffer
  response : DataBuffer
  world : σ
  notice : Option Notice

/-- The caller's value of a request that is a measure. -/
def requestValue (request : DataBuffer) : Except Fault (Option (Measure × UInt32)) :=
  match Measure.ofType? request.dataType with
  | none => .ok none
  | some measure =>
    match request.uint32? with
    | some value => .ok (some (measure, value))
    | none => .error (.parameterIsNull s!"{request.dataType} request value")

/-- A measure crosses to an action as a plain word. -/
def asWord (b : DataBuffer) : DataBuffer :=
  if (Measure.ofType? b.dataType).isSome then { b with dataType := .uint32 } else b

/-- Gives a request its type and value back. -/
def restoreRequest (dataType : DataType) (value : Option (Measure × UInt32))
    (request : DataBuffer) : Except Fault Unit × DataBuffer :=
  let request := { request with dataType }
  match value with
  | some (_, value) => request.writeUInt32 value
  | none => (.ok (), request)

namespace Dispatched
variable {σ : Type}

def failed (fault : Fault) (request response : DataBuffer) (world : σ) : Dispatched σ :=
  { result := .error fault, request, response, world, notice := none }

/-- After a fault the response holds zeros. -/
def clearFailed (d : Dispatched σ) : Dispatched σ :=
  match d.result with
  | .ok () => d
  | .error _ => { d with response := d.response.clear }

end Dispatched

/-- Runs a primitive that has been found, with open types settled. -/
def runPrimitive {σ : Type} (c : Call σ) (request response : DataBuffer) (world : σ) :
    Dispatched σ :=
  let (ran, s) := c.runAll ⟨asWord request, asWord response, world⟩
  let (restored, back) := restoreRequest request.dataType c.requestValue s.request
  { result :=
      match restored, ran with
      | .error fault, _ => .error fault
      | .ok (), .error fault => .error fault
      | .ok (), .ok _ => .ok ()
    request := back
    response := { s.response with dataType := response.dataType }
    world := s.world
    notice :=
      match ran with
      | .ok action => c.notice? action
      | .error _ => none }

/-- Finds a primitive and runs it. -/
def dispatch {σ : Type} (handlers : HandlerTable σ) (transport : Transport σ)
    (participants : ParticipantTable) (i : Invocation) (request response : DataBuffer)
    (world : σ) : Dispatched σ :=
  Dispatched.clearFailed <|
    match i.find participants with
    | .error fault => .failed fault request response world
    | .ok (participant, profile, primitive) =>
      let typeOpen : Bool := response.dataType = .auto
      let request := primitive.resolveRequest request
      let response := primitive.resolveResponse response
      match requestValue request with
      | .error fault => .failed fault request response world
      | .ok value =>
        runPrimitive
          { handlers, transport, participant, profile, primitive, typeOpen
            requestValue := value
            responseMeasure := Measure.ofType? response.dataType }
          request response world

end DeviceSupport
