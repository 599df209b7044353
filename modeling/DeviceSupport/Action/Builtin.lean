import DeviceSupport.Action.Handlers

/-! The handlers that every context has.

`Handler.constant` answers a get with the action's first parameter. `Handler.config` keeps values
under the first parameter: a get gives what was last set. -/
namespace DeviceSupport
set_option autoImplicit false

def Params.first (params : Params) : Except Fault Param :=
  match params.head? with
  | some (some param) => .ok param
  | _ => .error (.parameterIsNull "action parameter 1")

/-! ## Constants -/

namespace Handler

def constant {σ : Type} : Handler σ where
  get call _ response state :=
    match call.params.first with
    | .ok (.number value) => (response.writeUInt32 value, state)
    | .ok (.text value) => (response.writeText value, state)
    | .error fault => ((.error fault, response), state)
  set _ _ state := (.error (.notSupported "CONST is read-only"), state)

end Handler

/-! ## Configuration -/

/-- The values set so far, by key. -/
structure ConfigStore where
  values : Table String (List UInt8) := []
  deriving DecidableEq, Repr, Inhabited

namespace ConfigStore

/-- A number stands for its decimal digits. -/
def key : Param → String
  | .text value => value
  | .number value => toString value

def value? (s : ConfigStore) (key : String) : Option (List UInt8) := Table.get? key s.values

def read (s : ConfigStore) (params : Params) (response : DataBuffer) :
    Except Fault Unit × DataBuffer :=
  match params.first with
  | .error fault => (.error fault, response)
  | .ok param =>
    match s.value? (key param) with
    | some bytes => response.write bytes
    | none => (.error (.notSupported s!"config key {key param} not set"), response)

def store (s : ConfigStore) (params : Params) (request : DataBuffer) :
    Except Fault Unit × ConfigStore :=
  match params.first with
  | .error fault => (.error fault, s)
  | .ok param => (.ok (), ⟨Table.insert (key param) request.data s.values⟩)

end ConfigStore

namespace Handler

def config {σ : Type} (part : Part σ ConfigStore) : Handler σ where
  get call _ response := part.run fun s => (s.read call.params response, s)
  set call request := part.run fun s => s.store call.params request

end Handler

end DeviceSupport
