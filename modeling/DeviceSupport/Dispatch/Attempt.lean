import DeviceSupport.Action.Expansion
import DeviceSupport.Action.Handlers
import DeviceSupport.Dispatch.Measure
import DeviceSupport.Participant

/-! One action of a primitive.

A `Call` is what stays fixed while the actions of a primitive are tried, and a `Stage` is what they
share and change. `Call.attempt` prepares the request and runs the action; `Call.conclude` brings
the answer of a get to the normal unit. What an attempt has done stays done when it fails. -/
namespace DeviceSupport
set_option autoImplicit false

/-- Where an action runs. -/
inductive Lane where
  /-- On the kernel side, as the kernel action of this number. -/
  | kernel (index : UInt16)
  | handler
  deriving DecidableEq, Repr, Inhabited

/-- The actions with their lanes. Kernel actions are numbered in declared order, from `next`. -/
def lanes (next : UInt16) : List Action → List (Action × Lane)
  | [] => []
  | action :: actions =>
    if action.isKernel then (action, .kernel next) :: lanes (next + 1) actions
    else (action, .handler) :: lanes next actions

structure Call (σ : Type) where
  handlers : HandlerTable σ
  transport : Transport σ
  participant : Participant
  profile : Profile
  primitive : Primitive
  /-- Whether the caller left the response's type open. -/
  typeOpen : Bool
  /-- The caller's request value, when it is a measure. -/
  requestValue : Option (Measure × UInt32)
  responseMeasure : Option Measure

structure Stage (σ : Type) where
  request : DataBuffer
  response : DataBuffer
  world : σ

namespace Call
variable {σ : Type}

def opcode (c : Call σ) : Opcode := c.primitive.opcode

def algorithm? (c : Call σ) (action : Action) : Option Algorithm :=
  c.profile.algorithm? action.actionType

/-! ## The request -/

/-- Puts the caller's value, converted for the action, into the request. -/
def prepare (c : Call σ) (action : Action) (request : DataBuffer) :
    Except Fault Unit × DataBuffer :=
  match c.requestValue with
  | none => (.ok (), request)
  | some (measure, value) =>
    match measure.convert value action.actionType (c.algorithm? action) .set with
    | .ok word => request.writeUInt32 word
    | .error fault => (.error fault, request)

/-! ## On the kernel side -/

def target (c : Call σ) (action : Action) (index : UInt16) : Message.Target where
  id := c.primitive.tuple.id.toUInt32
  domain := c.primitive.tuple.domain
  instanceId := c.primitive.tuple.instanceId
  destination := c.participant.id
  kernelIndex := index
  actionType := action.actionType

def message (c : Call σ) (action : Action) (index : UInt16) (s : Stage σ) : Message.Request :=
  Message.Request.make c.opcode (c.target action index) s.request.dataType s.request.data
    s.response.dataType s.response.capacity

/-- Takes a reply; the reply to a get may say that only the first bytes of its data count. -/
def receive (c : Call σ) (reply : Message.Response) (response : DataBuffer) :
    Except Fault Unit × DataBuffer :=
  match Status.ofCode? reply.statusCode with
  | none => (.error (.kernelStatus reply.statusCode), response)
  | some status =>
    match status.toResult reply.length, c.opcode with
    | .ok (), .get => response.write (reply.data.take reply.length.toNat)
    | outcome, _ => (outcome, response)

def runKernel (c : Call σ) (action : Action) (index : UInt16) (s : Stage σ) :
    Except Fault Unit × Stage σ :=
  let message := c.message action index s
  match message.validate with
  | .error fault => (.error fault, s)
  | .ok () =>
    match c.transport message s.world with
    | (.error fault, world) => (.error fault, { s with world })
    | (.ok reply, world) =>
      let (outcome, response) := c.receive reply s.response
      (outcome, { s with response, world })

/-! ## In a handler -/

def runHandler (c : Call σ) (action : Action) (s : Stage σ) : Except Fault Unit × Stage σ :=
  match c.handlers.handler? action.actionType c.opcode with
  | none => (.error (.unsupportedActionType action.actionType.code), s)
  | some handler =>
    match action.params.expand c.participant.info.name c.primitive.tuple.qualifier with
    | .error fault => (.error fault, s)
    | .ok params =>
      let call : ActionCall := ⟨c.participant.info.devicePath, params⟩
      match c.opcode with
      | .get =>
        let ((outcome, response), world) := handler.get call s.request s.response s.world
        (outcome, { s with response, world })
      | .set =>
        let (outcome, world) := handler.set call s.request s.world
        (outcome, { s with world })

/-! ## Together -/

def invoke (c : Call σ) (action : Action) (lane : Lane) (s : Stage σ) :
    Except Fault Unit × Stage σ :=
  match lane with
  | .kernel index => c.runKernel action index s
  | .handler => c.runHandler action s

def attempt (c : Call σ) (action : Action) (lane : Lane) (s : Stage σ) :
    Except Fault Unit × Stage σ :=
  match c.prepare action s.request with
  | (.ok (), request) => c.invoke action lane { s with request }
  | (.error fault, request) => (.error fault, { s with request })

/-! ## The response -/

/-- Converts a measure to the normal unit. -/
def normalize (c : Call σ) (action : Action) (response : DataBuffer) :
    Except Fault Unit × DataBuffer :=
  match c.responseMeasure with
  | none => (.ok (), response)
  | some measure =>
    match response.uint32? with
    | none => (.error (.parameterIsNull "response value"), response)
    | some raw =>
      match measure.convert raw action.actionType (c.algorithm? action) .get with
      | .ok value => response.writeUInt32 value
      | .error fault => (.error fault, response)

/-- A hysteresis comes in this fraction of a degree from the lowest acceptable level. -/
def hysteresisDivisor : UInt32 := 1000

def scaleHysteresis (c : Call σ) (action : Action) (response : DataBuffer) :
    Except Fault Unit × DataBuffer :=
  if action.actionType = .lal ∧ c.primitive.tuple.id = PrimitiveId.getThresholdHysteresis then
    match response.uint32? with
    | some value => response.writeUInt32 (value / hysteresisDivisor)
    | none => (.ok (), response)
  else (.ok (), response)

def finish (c : Call σ) (action : Action) (response : DataBuffer) :
    Except Fault Unit × DataBuffer :=
  match c.opcode with
  | .set => (.ok (), response)
  | .get =>
    match c.normalize action response with
    | (.ok (), response) => c.scaleHysteresis action response
    | failed => failed

/-- What an action that has run comes to. -/
def conclude (c : Call σ) (action : Action) (ran : Except Fault Unit × Stage σ) :
    Except Fault Unit × Stage σ :=
  match ran with
  | (.ok (), s) =>
    let (outcome, response) := c.finish action s.response
    (outcome, { s with response })
  | failed => failed

end Call

end DeviceSupport
