import DeviceSupport.Proofs.Buffer
import DeviceSupport.Proofs.Bytes.Field
import DeviceSupport.Proofs.Dispatch.Trial

/-! The request of a call, from action to action.

Only preparing a request changes it, so what preparing keeps holds wherever an action starts or
stops (`trials_request`). A request with room for its value is refused for want of a conversion
only. -/
namespace DeviceSupport
set_option autoImplicit false

/-! ## Preparing a request -/

namespace Call
variable {σ : Type}

theorem prepare_of_none (c : Call σ) (h : c.requestValue = none) (action : Action)
    (request : DataBuffer) : c.prepare action request = (.ok (), request) := by
  rw [prepare, h]

theorem prepare_of_ok (c : Call σ) {action : Action} {request : DataBuffer} {measure : Measure}
    {value word : UInt32} (hvalue : c.requestValue = some (measure, value))
    (hword : measure.convert value action.actionType (c.algorithm? action) .set = .ok word) :
    c.prepare action request = request.writeUInt32 word := by
  rw [prepare, hvalue]
  dsimp only
  rw [hword]

theorem prepare_of_error (c : Call σ) {action : Action} {request : DataBuffer} {measure : Measure}
    {value : UInt32} {fault : Fault} (hvalue : c.requestValue = some (measure, value))
    (hword : measure.convert value action.actionType (c.algorithm? action) .set = .error fault) :
    c.prepare action request = (.error fault, request) := by
  rw [prepare, hvalue]
  dsimp only
  rw [hword]

/-- Preparing a request writes a word to it, or leaves it alone. -/
theorem prepare_request {P : DataBuffer → Prop} (c : Call σ) {action : Action}
    {request : DataBuffer} (hwrite : ∀ request word, P request → P (request.writeUInt32 word).2)
    (h : P request) : P (c.prepare action request).2 := by
  unfold prepare
  split
  · exact h
  · split
    · exact hwrite request _ h
    · exact h

theorem capacity_prepare (c : Call σ) (action : Action) (request : DataBuffer) :
    (c.prepare action request).2.capacity = request.capacity :=
  c.prepare_request (P := fun prepared => prepared.capacity = request.capacity)
    (fun prepared word h => (prepared.capacity_writeUInt32 word).trans h) rfl

/-! ## The request during a run -/

theorem runKernel_request (c : Call σ) (action : Action) (index : UInt16) (s : Stage σ) :
    (c.runKernel action index s).2.request = s.request := by
  unfold runKernel
  dsimp only
  split
  · rfl
  · split <;> rfl

theorem runHandler_request (c : Call σ) (action : Action) (s : Stage σ) :
    (c.runHandler action s).2.request = s.request := by
  unfold runHandler
  split
  · rfl
  · split
    · rfl
    · dsimp only
      split <;> rfl

theorem invoke_request (c : Call σ) (action : Action) (lane : Lane) (s : Stage σ) :
    (c.invoke action lane s).2.request = s.request := by
  cases lane with
  | kernel index => exact c.runKernel_request action index s
  | handler => exact c.runHandler_request action s

theorem attempt_request (c : Call σ) (action : Action) (lane : Lane) (s : Stage σ) :
    (c.attempt action lane s).2.request = (c.prepare action s.request).2 := by
  unfold attempt
  rcases c.prepare action s.request with ⟨fault | _, request⟩
  · rfl
  · exact c.invoke_request action lane { s with request }

/-- Whatever a trial hands to a backend, at first or in its repeat, comes with the request that was
prepared for its action. -/
theorem exists_of_mem_sent (c : Call σ) {retried : Bool} {action : Action} {lane : Lane}
    {s : Stage σ} {use : Sent} (h : use ∈ (c.trial retried action lane s).sent) :
    ∃ stage : Stage σ, c.sent? action lane stage = some use ∧
      stage.request = (c.prepare action s.request).2 := by
  have hfirst : c.sentFirst? action lane s = some use →
      ∃ stage : Stage σ, c.sent? action lane stage = some use ∧
        stage.request = (c.prepare action s.request).2 := by
    unfold sentFirst?
    rcases c.prepare action s.request with ⟨fault | _, request⟩
    · exact fun h => (nomatch h)
    · exact fun h => ⟨{ s with request }, h, rfl⟩
  rw [trial] at h
  dsimp only at h
  split at h
  · exact hfirst (Option.mem_toList.mp h)
  · rcases List.mem_append.mp h with h | h
    · exact hfirst (Option.mem_toList.mp h)
    · exact ⟨_, Option.mem_toList.mp h, c.attempt_request action lane s⟩

theorem conclude_request (c : Call σ) (action : Action) (ran : Except Fault Unit × Stage σ) :
    (c.conclude action ran).2.request = ran.2.request := by
  obtain ⟨fault | _, s⟩ := ran
  · rfl
  · rfl

/-- Only preparing the request changes it. -/
theorem trial_request (c : Call σ) (retried : Bool) (action : Action) (lane : Lane) (s : Stage σ) :
    (c.trial retried action lane s).stop.request = (c.prepare action s.request).2 := by
  rw [trial]
  dsimp only
  split
  · rw [conclude_request, attempt_request]
  · rw [conclude_request, invoke_request]
    exact c.attempt_request action lane s

/-- What preparing a request keeps holds wherever an action starts or stops. -/
theorem trials_request {P : DataBuffer → Prop} (c : Call σ)
    (hprepare : ∀ action request, P request → P (c.prepare action request).2) (retried : Bool)
    (actions : List (Action × Lane)) (s : Stage σ) (h : P s.request) :
    ∀ t ∈ c.trials retried actions s, P t.start.request ∧ P t.stop.request := by
  induction actions generalizing retried s with
  | nil => exact fun t ht => absurd ht List.not_mem_nil
  | cons next rest ih =>
    obtain ⟨action, lane⟩ := next
    have hstop : P (c.trial retried action lane s).stop.request := by
      rw [trial_request]
      exact hprepare action s.request h
    rw [trials_cons, List.forall_mem_cons, trial_start]
    refine ⟨⟨h, hstop⟩, ?_⟩
    split
    · exact fun t ht => absurd ht List.not_mem_nil
    · exact ih _ _ hstop

theorem run_request {P : DataBuffer → Prop} (c : Call σ)
    (hprepare : ∀ action request, P request → P (c.prepare action request).2) (last : Fault)
    (retried : Bool) (actions : List (Action × Lane)) (s : Stage σ) (h : P s.request) :
    P (c.run last retried actions s).2.request := by
  have htrials := c.trials_request hprepare retried actions s h
  rw [run_eq]
  cases hlast : (c.trials retried actions s).getLast? with
  | none => exact h
  | some t => exact (htrials t (List.mem_of_getLast? hlast)).2

theorem capacity_run (c : Call σ) (s : Stage σ) :
    (c.runAll s).2.request.capacity = s.request.capacity :=
  c.run_request (P := fun request => request.capacity = s.request.capacity)
    (fun action request h => (c.capacity_prepare action request).trans h) _ _ _ s rfl

theorem capacity_start (c : Call σ) (s : Stage σ) {t : Trial σ} (ht : t ∈ c.allTrials s) :
    t.start.request.capacity = s.request.capacity :=
  (c.trials_request (P := fun request => request.capacity = s.request.capacity)
    (fun action request h => (c.capacity_prepare action request).trans h) _ _ s rfl t ht).1

end Call

/-! ## Faults of a request -/

/-- The conversion that an action needs is missing or unknown. -/
def Fault.IsConversion : Fault → Prop
  | .needAlgorithm _ => True
  | .unsupportedAlgorithm _ => True
  | _ => False

theorem requireAlgorithm_fault {actionType : ActionType} {algorithm : Option Algorithm}
    {fault : Fault} (h : requireAlgorithm actionType algorithm = .error fault) :
    fault.IsConversion := by
  cases algorithm with
  | none =>
    cases h
    trivial
  | some a => nomatch h

theorem kindOf_fault {code : UInt32} {fault : Fault} (h : Algorithm.kindOf code = .error fault) :
    fault.IsConversion := by
  unfold Algorithm.kindOf at h
  split at h
  · nomatch h
  · cases h
    trivial

theorem convert_fault {m : Measure} {word : UInt32} {actionType : ActionType}
    {algorithm : Option Algorithm} {opcode : Opcode} {fault : Fault}
    (h : m.convert word actionType algorithm opcode = .error fault) : fault.IsConversion := by
  cases m with
  | temperature =>
    rcases bind_eq_error_iff.mp h with h | ⟨a, -, h⟩
    · exact requireAlgorithm_fault h
    rcases bind_eq_error_iff.mp h with h | ⟨kind, -, h⟩
    · exact kindOf_fault h
    · cases kind <;> cases opcode <;> cases h <;> trivial
  | power =>
    rcases bind_eq_error_iff.mp h with h | ⟨a, -, h⟩
    · exact requireAlgorithm_fault h
    rcases bind_eq_error_iff.mp h with h | ⟨kind, -, h⟩
    · exact kindOf_fault h
    · cases kind <;> cases h <;> trivial

namespace Call
variable {σ : Type}

/-- A request that has room for its value is refused by its conversion only. -/
theorem prepare_fault (c : Call σ) {action : Action} {request : DataBuffer} {fault : Fault}
    (hroom : c.requestValue.isSome = true → 4 ≤ request.capacity)
    (h : (c.prepare action request).1 = .error fault) : fault.IsConversion := by
  unfold prepare at h
  split at h
  · nomatch h
  · next measure value hvalue =>
    split at h
    · rw [DataBuffer.writeUInt32_ok _ (hroom (hvalue ▸ rfl))] at h
      nomatch h
    · next hconvert =>
      cases h
      exact convert_fault hconvert

/-- An action whose request cannot be converted reaches no backend. -/
theorem trial_unprepared (c : Call σ) (retried : Bool) {action : Action} (lane : Lane) {s : Stage σ}
    {fault : Fault} (hroom : c.requestValue.isSome = true → 4 ≤ s.request.capacity)
    (h : (c.prepare action s.request).1 = .error fault) :
    (c.trial retried action lane s).sent = [] ∧ (c.trial retried action lane s).second = none ∧
      (c.trial retried action lane s).outcome = .error fault := by
  have hconversion := c.prepare_fault hroom h
  obtain ⟨request, hprepare⟩ : ∃ request, c.prepare action s.request = (.error fault, request) :=
    ⟨_, Prod.ext h rfl⟩
  have hattempt : c.attempt action lane s = (.error fault, { s with request }) := by
    rw [attempt, hprepare]
  have hfirst : c.sentFirst? action lane s = none := by
    rw [sentFirst?, hprepare]
  have hlarger : c.enlargement? lane retried (.error fault) = none := by
    cases fault <;> first | rfl | exact hconversion.elim
  rw [trial]
  simp only [hattempt, hfirst, hlarger, conclude_error]
  exact ⟨rfl, trivial, trivial⟩

/-- An action that no handler serves comes to the fault of its conversion, or is unsupported. -/
theorem trial_unserved (c : Call σ) (retried : Bool) {action : Action} {s : Stage σ}
    (hroom : c.requestValue.isSome = true → 4 ≤ s.request.capacity)
    (hnone : c.handlers.handler? action.actionType c.opcode = none) :
    (c.trial retried action .handler s).sent = [] ∧
      (c.trial retried action .handler s).second = none ∧
      (c.trial retried action .handler s).outcome =
        match (c.prepare action s.request).1 with
        | .ok () => .error (.unsupportedActionType action.actionType.code)
        | .error fault => .error fault := by
  have hrun (s : Stage σ) : c.invoke action .handler s =
      (.error (.unsupportedActionType action.actionType.code), s) := by
    rw [invoke, runHandler, hnone]
  have hsent (s : Stage σ) : c.sent? action .handler s = none := by
    rw [sent?, sentToHandler?, hnone]
  obtain ⟨outcome, request, hprepare⟩ : ∃ outcome request,
      c.prepare action s.request = (outcome, request) := ⟨_, _, rfl⟩
  cases outcome with
  | ok u =>
    have hattempt : c.attempt action .handler s =
        (.error (.unsupportedActionType action.actionType.code), { s with request }) := by
      rw [attempt, hprepare]
      exact hrun { s with request }
    have hfirst : c.sentFirst? action .handler s = none := by
      rw [sentFirst?, hprepare]
      exact hsent { s with request }
    rw [trial, hprepare]
    simp only [hattempt, hfirst, enlargement?, conclude_error]
    exact ⟨rfl, trivial, trivial⟩
  | error fault =>
    obtain ⟨hsent, hsecond, houtcome⟩ :=
      c.trial_unprepared retried .handler hroom (congrArg Prod.fst hprepare)
    rw [hprepare]
    exact ⟨hsent, hsecond, houtcome⟩

end Call

end DeviceSupport
