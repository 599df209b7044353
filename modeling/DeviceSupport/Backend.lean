import DeviceSupport.DataBuffer
import DeviceSupport.Message
import DeviceSupport.Profile.Records

/-! What runs actions.

An action runs either in a handler of this process or on the kernel side, behind a transport. Both
may keep a state between calls; `σ` is the state of all of them together, and each call takes it
and gives it back. -/
namespace DeviceSupport
set_option autoImplicit false

/-- What a handler is told about the action it runs. -/
structure ActionCall where
  devicePath : String
  params : Params
  deriving DecidableEq, Repr, Inhabited

/-- Serves actions in this process. A get is given the request and the response to fill; one that
needs more room answers so with the size it needs. -/
structure Handler (σ : Type) where
  get : ActionCall → DataBuffer → DataBuffer → σ → (Except Fault Unit × DataBuffer) × σ
  set : ActionCall → DataBuffer → σ → Except Fault Unit × σ

/-- Carries a request to the kernel side and its response back. -/
abbrev Transport (σ : Type) := Message.Request → σ → Except Fault Message.Response × σ

/-- One part of a state. -/
structure Part (σ α : Type) where
  get : σ → α
  set : α → σ → σ

namespace Part
variable {σ α β : Type}

/-- Runs a step of the part on the whole. -/
def run (p : Part σ α) (step : α → β × α) (s : σ) : β × σ :=
  let (answer, part) := step (p.get s)
  (answer, p.set part s)

end Part

end DeviceSupport
