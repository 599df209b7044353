import DeviceSupport.Backend
import DeviceSupport.Table
import DeviceSupport.Text.Quoted

/-! The handlers by action type.

A handler may serve one direction only; in the other direction its action type is as good as
unknown. -/
namespace DeviceSupport
set_option autoImplicit false

structure Directions where
  get : Bool
  set : Bool
  deriving DecidableEq, Repr, Inhabited

namespace Directions

def both : Directions := ⟨true, true⟩

def getOnly : Directions := ⟨true, false⟩

def setOnly : Directions := ⟨false, true⟩

def serves (d : Directions) : Opcode → Bool
  | .get => d.get
  | .set => d.set

end Directions

structure HandlerEntry (σ : Type) where
  name : String
  directions : Directions
  handler : Handler σ

namespace HandlerEntry
variable {σ : Type}

def handler? (e : HandlerEntry σ) (opcode : Opcode) : Option (Handler σ) :=
  if e.directions.serves opcode then some e.handler else none

/-- An entry as it is shown in logs. -/
def describe (e : HandlerEntry σ) (type : ActionType) : String :=
  s!"ActionTypeEntry \x7b action_type: ActionType({type.code}), name: " ++ Quoted.quote e.name ++
    s!", directions: Directions \x7b get: {e.directions.get}, set: {e.directions.set} \x7d \x7d"

end HandlerEntry

structure HandlerTable (σ : Type) where
  entries : Table ActionType (HandlerEntry σ) := []

namespace HandlerTable
variable {σ : Type}

def get? (t : HandlerTable σ) (type : ActionType) : Option (HandlerEntry σ) :=
  Table.get? type t.entries

/-- Adds a handler, or replaces the one of its type and gives that one back. -/
def register (t : HandlerTable σ) (type : ActionType) (entry : HandlerEntry σ) :
    Option (HandlerEntry σ) × HandlerTable σ :=
  (t.get? type, ⟨Table.insert type entry t.entries⟩)

def unregister (t : HandlerTable σ) (type : ActionType) :
    Option (HandlerEntry σ) × HandlerTable σ :=
  (t.get? type, ⟨Table.erase type t.entries⟩)

/-- The handler for an action type in a direction. -/
def handler? (t : HandlerTable σ) (type : ActionType) (opcode : Opcode) : Option (Handler σ) :=
  (t.get? type).bind (·.handler? opcode)

/-- The registered types in ascending order. -/
def types (t : HandlerTable σ) : List ActionType :=
  (t.entries.map (·.1)).mergeSort fun a b => a.code ≤ b.code

end HandlerTable

end DeviceSupport
