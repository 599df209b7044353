import DeviceSupport.Json.Reader
import DeviceSupport.Json.Record
import DeviceSupport.Message

/-! Messages as text: JSON on one line, with a number that ties a response to its request.

Every field is required, and reading refuses a value outside its field's range. -/
namespace DeviceSupport.Message
set_option autoImplicit false

open Json (required? uint8? uint16? uint32? uint64?)

structure Envelope (α : Type) where
  id : UInt64
  content : α
  deriving DecidableEq, Repr, Inhabited

def readText {α : Type} (ofJson? : Json → Option α) (source : String) : Except Fault α :=
  match (Json.read? source).bind ofJson? with
  | some value => .ok value
  | none => .error .jsonInvalid

/-! ## Requests -/

instance : ToJson Request where
  toJson r := .object
    [("version", toJson r.version), ("id", toJson r.target.id),
      ("domain", toJson r.target.domain), ("instance", toJson r.target.instanceId),
      ("src_id", toJson r.source), ("dst_id", toJson r.target.destination),
      ("kern_action", toJson r.target.kernelIndex),
      ("action_type", toJson r.target.actionType.code), ("opcode", toJson r.opcode.label),
      ("req_data_type", toJson r.request.dataType.label),
      ("req_data_offset", toJson r.request.offset), ("req_data_len", toJson r.request.length),
      ("rsp_data_type", toJson r.response.dataType.label),
      ("rsp_data_offset", toJson r.response.offset),
      ("rsp_data_len", toJson r.response.length), ("data", toJson r.payload)]

def Request.fieldNames : List String :=
  ["version", "id", "domain", "instance", "src_id", "dst_id", "kern_action", "action_type",
    "opcode", "req_data_type", "req_data_offset", "req_data_len", "rsp_data_type",
    "rsp_data_offset", "rsp_data_len", "data"]

def dataType? : Json → Option DataType := Json.choice? DataType.ofLabel?

def opcode? : Json → Option Opcode := Json.choice? Opcode.ofLabel?

def Request.ofJson? (value : Json) : Option Request := do
  match ← Json.record? fieldNames value with
  | [version, id, domain, instanceId, source, destination, kernelIndex, actionType, opcode,
      requestType, requestOffset, requestLength, responseType, responseOffset, responseLength,
      data] =>
    return {
      version := ← required? uint8? version
      target := {
        id := ← required? uint32? id
        domain := ← required? uint16? domain
        instanceId := ← required? uint8? instanceId
        destination := ← required? uint8? destination
        kernelIndex := ← required? uint16? kernelIndex
        actionType := ⟨← required? uint32? actionType⟩ }
      source := ← required? uint8? source
      opcode := ← required? opcode? opcode
      request := ⟨← required? dataType? requestType, ← required? uint32? requestOffset,
        ← required? uint32? requestLength⟩
      response := ⟨← required? dataType? responseType, ← required? uint32? responseOffset,
        ← required? uint32? responseLength⟩
      payload := ← required? (Json.list? uint8?) data }
  | _ => none

/-! ## Responses -/

instance : ToJson Response where
  toJson r := .object
    [("return_code", toJson r.statusCode), ("rsp_data_len", toJson r.length),
      ("data", toJson r.data)]

def Response.ofJson? (value : Json) : Option Response := do
  match ← Json.record? ["return_code", "rsp_data_len", "data"] value with
  | [statusCode, length, data] =>
    return {
      statusCode := ← required? uint32? statusCode
      length := ← required? uint32? length
      data := ← required? (Json.list? uint8?) data }
  | _ => none

/-! ## Envelopes -/

namespace Envelope
variable {α : Type}

def write [ToJson α] (contentName : String) (e : Envelope α) : String :=
  (Json.object [("id", toJson e.id), (contentName, toJson e.content)]).compact

def ofJson? (contentName : String) (content? : Json → Option α) (value : Json) :
    Option (Envelope α) := do
  match ← Json.record? ["id", contentName] value with
  | [id, content] => return ⟨← required? uint64? id, ← required? content? content⟩
  | _ => none

def writeRequest (e : Envelope Request) : String := write "request" e

def readRequest : String → Except Fault (Envelope Request) :=
  readText (ofJson? "request" Request.ofJson?)

def writeResponse (e : Envelope Response) : String := write "response" e

def readResponse : String → Except Fault (Envelope Response) :=
  readText (ofJson? "response" Response.ofJson?)

end Envelope

end DeviceSupport.Message
