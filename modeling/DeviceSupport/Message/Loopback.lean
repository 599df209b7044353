import DeviceSupport.Backend
import DeviceSupport.Table

/-! A stand-in for the kernel side.

It keeps the bytes last set for each action of each primitive, and answers a get with them. -/
namespace DeviceSupport.Message
set_option autoImplicit false

namespace Loopback

/-- What a value is kept under. -/
structure Key where
  id : UInt32
  domain : UInt16
  instanceId : UInt8
  kernelIndex : UInt16
  deriving DecidableEq, Repr, Inhabited

end Loopback

def Target.key (t : Target) : Loopback.Key := ⟨t.id, t.domain, t.instanceId, t.kernelIndex⟩

structure Loopback where
  values : Table Loopback.Key (List UInt8) := []
  deriving DecidableEq, Repr, Inhabited

namespace Loopback

def value? (l : Loopback) (key : Key) : Option (List UInt8) := Table.get? key l.values

def preload (l : Loopback) (key : Key) (bytes : List UInt8) : Loopback :=
  ⟨Table.insert key bytes l.values⟩

/-- The answer to a get; a value that does not fit the room is answered by its length only. -/
def answer (room : UInt32) : Option (List UInt8) → Response
  | none => .error Status.primitiveNotFound.code
  | some bytes =>
    if room.toNat < bytes.length then
      ⟨Status.needLargerBuffer.code, UInt32.ofNat bytes.length, []⟩
    else .ok bytes

def serve (r : Request) (l : Loopback) : Response × Loopback :=
  match r.opcode with
  | .set => (.ok [], l.preload r.target.key r.requestBytes)
  | .get => (answer r.response.length (l.value? r.target.key), l)

def execute (r : Request) (l : Loopback) : Except Fault Response × Loopback :=
  match r.validate with
  | .error fault => (.error fault, l)
  | .ok () =>
    let (response, l) := serve r l
    (.ok response, l)

def transport {σ : Type} (part : Part σ Loopback) : Transport σ :=
  fun r => part.run (execute r)

end Loopback

end DeviceSupport.Message
