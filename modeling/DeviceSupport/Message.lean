import DeviceSupport.ActionType
import DeviceSupport.DataType
import DeviceSupport.Fault

/-! Messages between a dispatch and the kernel side.

A request has one payload, and two windows that say where in it the request's bytes and the room
for the response lie. On a get the room comes first and the request's bytes follow it; on a set
there are only the request's bytes. `Request.validate` checks what a peer may rely on. -/
namespace DeviceSupport.Message
set_option autoImplicit false

/-- The largest payload, in bytes. -/
def maxPayload : Nat := 65536

def formatVersion : UInt8 := 1

/-! ## Ends of the channel -/

namespace Endpoint

def kernel : UInt8 := 0

def user : UInt8 := 254

def broadcast : UInt8 := 255

end Endpoint

/-! ## Requests -/

structure Window where
  dataType : DataType
  offset : UInt32
  length : UInt32
  deriving DecidableEq, Repr, Inhabited

namespace Window

/-- Where the window ends; as a natural number it cannot wrap. -/
def stop (w : Window) : Nat := w.offset.toNat + w.length.toNat

def check (w : Window) (name : String) (payload : Nat) : Except Fault Unit :=
  if payload < w.stop then
    .error (.messageInvalid
      s!"{name} window {w.offset}..{w.stop} exceeds payload of {payload} bytes")
  else .ok ()

end Window

/-- Which action of which primitive a request is for. -/
structure Target where
  id : UInt32
  domain : UInt16
  instanceId : UInt8
  destination : UInt8
  /-- Counts the kernel actions of the primitive. -/
  kernelIndex : UInt16
  actionType : ActionType
  deriving DecidableEq, Repr, Inhabited

structure Request where
  version : UInt8 := formatVersion
  target : Target
  source : UInt8 := Endpoint.user
  opcode : Opcode
  request : Window
  response : Window
  payload : List UInt8
  deriving DecidableEq, Repr, Inhabited

namespace Request

def get (target : Target) (requestType : DataType) (bytes : List UInt8) (responseType : DataType)
    (room : Nat) : Request :=
  { target, opcode := .get
    request :=
      if bytes.isEmpty then ⟨.void, 0, 0⟩
      else ⟨requestType, UInt32.ofNat room, UInt32.ofNat bytes.length⟩
    response := ⟨responseType, 0, UInt32.ofNat room⟩
    payload := List.replicate room 0 ++ bytes }

def set (target : Target) (requestType : DataType) (bytes : List UInt8) (responseType : DataType)
    (room : Nat) : Request :=
  { target, opcode := .set
    request := ⟨requestType, 0, UInt32.ofNat bytes.length⟩
    response := ⟨responseType, 0, UInt32.ofNat room⟩
    payload := bytes }

def make (opcode : Opcode) : Target → DataType → List UInt8 → DataType → Nat → Request :=
  match opcode with
  | .get => get
  | .set => set

/-- The bytes in the request's window; none when it reaches beyond the payload. -/
def requestBytes (r : Request) : List UInt8 :=
  if r.request.stop ≤ r.payload.length then
    (r.payload.drop r.request.offset.toNat).take r.request.length.toNat
  else []

def validate (r : Request) : Except Fault Unit := do
  if maxPayload < r.payload.length then
    throw (.messageInvalid s!"Payload too large: {r.payload.length} bytes (max {maxPayload})")
  r.request.check "request" r.payload.length
  if r.opcode = .get then r.response.check "response" r.payload.length
  if r.source ≠ Endpoint.user then
    throw (.messageInvalid s!"Unexpected source instance {r.source}")

def kind (r : Request) : String :=
  match r.opcode with
  | .get => "PrimitiveGet"
  | .set => "PrimitiveSet"

end Request

/-! ## Responses -/

/-- The answer to a request; a peer that asks for a larger response puts the size it needs into
`length`. -/
structure Response where
  statusCode : UInt32
  length : UInt32
  data : List UInt8
  deriving DecidableEq, Repr, Inhabited

namespace Response

def ok (data : List UInt8) : Response := ⟨0, UInt32.ofNat data.length, data⟩

def error (statusCode : UInt32) : Response := ⟨statusCode, 0, []⟩

def isOk (r : Response) : Bool := r.statusCode = 0

end Response

end DeviceSupport.Message
