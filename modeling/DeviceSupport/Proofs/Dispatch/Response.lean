import DeviceSupport.Proofs.Dispatch.Request

/-! The response of a call, from action to action.

The kernel side and the conversion of an answer do no more than write to the response, while a
handler may leave anything in it. What every write keeps holds after a use of the kernel side and
after a conversion (`runKernel_response`, `conclude_response`); what every handler keeps, too,
holds after each use of a backend (`invoke_response`). -/
namespace DeviceSupport
set_option autoImplicit false

namespace DataBuffer

/-- No write takes this property from a buffer, whether it fits or not. -/
def KeptByWrite (P : DataBuffer → Prop) : Prop := ∀ b bytes, P b → P (b.write bytes).2

theorem keptByWrite_capacity (n : Nat) : KeptByWrite fun b => b.capacity = n :=
  fun b bytes h => (b.capacity_write bytes).trans h

theorem keptByWrite_dataType (type : DataType) : KeptByWrite fun b => b.dataType = type :=
  fun b bytes h => (b.dataType_write bytes).trans h

end DataBuffer

/-- No handler of a get takes this property from a response. -/
def HandlerTable.Keeps {σ : Type} (handlers : HandlerTable σ) (P : DataBuffer → Prop) : Prop :=
  ∀ type handler, handlers.handler? type .get = some handler →
    ∀ call request response world,
      P response → P (handler.get call request response world).1.2

namespace Call
variable {σ : Type} {P : DataBuffer → Prop} (c : Call σ)

/-! ## Backends -/

theorem receive_response (hwrite : DataBuffer.KeptByWrite P) (reply : Message.Response)
    {response : DataBuffer} (h : P response) : P (c.receive reply response).2 := by
  unfold receive
  split
  · exact h
  · split
    · exact hwrite response _ h
    · exact h

theorem runKernel_response (hwrite : DataBuffer.KeptByWrite P) (action : Action) (index : UInt16)
    {s : Stage σ} (h : P s.response) : P (c.runKernel action index s).2.response := by
  unfold runKernel
  dsimp only
  split
  · exact h
  · split
    · exact h
    · exact c.receive_response hwrite _ h

theorem runHandler_response (hkeeps : c.handlers.Keeps P) (action : Action) {s : Stage σ}
    (h : P s.response) : P (c.runHandler action s).2.response := by
  unfold runHandler
  split
  · exact h
  · next handler hhandler =>
    split
    · exact h
    · dsimp only
      split
      · next hget =>
        rw [hget] at hhandler
        exact hkeeps _ handler hhandler _ _ _ _ h
      · exact h

theorem invoke_response (hwrite : DataBuffer.KeptByWrite P) (hkeeps : c.handlers.Keeps P)
    (action : Action) (lane : Lane) {s : Stage σ} (h : P s.response) :
    P (c.invoke action lane s).2.response := by
  cases lane with
  | kernel index => exact c.runKernel_response hwrite action index h
  | handler => exact c.runHandler_response hkeeps action h

theorem attempt_response (hwrite : DataBuffer.KeptByWrite P) (hkeeps : c.handlers.Keeps P)
    (action : Action) (lane : Lane) {s : Stage σ} (h : P s.response) :
    P (c.attempt action lane s).2.response := by
  unfold attempt
  rcases c.prepare action s.request with ⟨fault | _, request⟩
  · exact h
  · exact c.invoke_response hwrite hkeeps action lane (s := { s with request }) h

/-! ## Conversions -/

theorem normalize_response (hwrite : DataBuffer.KeptByWrite P) (action : Action)
    {response : DataBuffer} (h : P response) : P (c.normalize action response).2 := by
  unfold normalize
  split
  · exact h
  · split
    · exact h
    · split
      · exact hwrite response _ h
      · exact h

theorem scaleHysteresis_response (hwrite : DataBuffer.KeptByWrite P) (action : Action)
    {response : DataBuffer} (h : P response) : P (c.scaleHysteresis action response).2 := by
  unfold scaleHysteresis
  split
  · split
    · exact hwrite response _ h
    · exact h
  · exact h

theorem finish_response (hwrite : DataBuffer.KeptByWrite P) (action : Action)
    {response : DataBuffer} (h : P response) : P (c.finish action response).2 := by
  have hnormal := c.normalize_response hwrite action h
  unfold finish
  split
  · exact h
  · generalize c.normalize action response = normalized at hnormal ⊢
    obtain ⟨fault | _, normal⟩ := normalized
    · exact hnormal
    · exact c.scaleHysteresis_response hwrite action hnormal

theorem conclude_response (hwrite : DataBuffer.KeptByWrite P) (action : Action)
    {ran : Except Fault Unit × Stage σ} (h : P ran.2.response) :
    P (c.conclude action ran).2.response := by
  obtain ⟨fault | _, s⟩ := ran
  · exact h
  · exact c.finish_response hwrite action h

end Call

end DeviceSupport
