import DeviceSupport.Proofs.Dispatch.Entry

/-! What a dispatch does besides its buffers: to the state of the backends, and to listeners.

Nothing but a backend changes the state that handlers and transport keep. After a dispatch that
state is what the uses of the backends, one after the other, make of the state before it
(`dispatch_world`), so that a log of the uses is enough to say what a call has changed. Listeners
are told of nothing but an action that has succeeded (`notice_dispatch`). -/
namespace DeviceSupport
set_option autoImplicit false

/-- The state after one use of a backend. -/
def Sent.replay {σ : Type} (handlers : HandlerTable σ) (transport : Transport σ) (world : σ) :
    Sent → σ
  | .message m => (transport m world).2
  | .get type call request response =>
    match handlers.handler? type .get with
    | none => world
    | some handler => (handler.get call request response world).2
  | .set type call request =>
    match handlers.handler? type .set with
    | none => world
    | some handler => (handler.set call request world).2

namespace Call
variable {σ : Type}

/-! ## One action -/

theorem runKernel_world (c : Call σ) (action : Action) (index : UInt16) (s : Stage σ) :
    (c.runKernel action index s).2.world =
      (c.sentToKernel? action index s).toList.foldl (Sent.replay c.handlers c.transport)
        s.world := by
  unfold runKernel sentToKernel?
  dsimp only
  generalize c.message action index s = message
  rcases message.validate with fault | _
  · rfl
  · have hreplay : [Sent.message message].foldl (Sent.replay c.handlers c.transport) s.world =
        (c.transport message s.world).2 := rfl
    dsimp only [Option.toList_some]
    rw [hreplay]
    rcases c.transport message s.world with ⟨fault | reply, world⟩
    · rfl
    · rfl

theorem runHandler_world (c : Call σ) (action : Action) (s : Stage σ) :
    (c.runHandler action s).2.world =
      (c.sentToHandler? action s).toList.foldl (Sent.replay c.handlers c.transport) s.world := by
  unfold runHandler sentToHandler?
  cases hhandler : c.handlers.handler? action.actionType c.opcode with
  | none => rfl
  | some handler =>
    dsimp only
    rcases action.params.expand c.participant.info.name c.primitive.tuple.qualifier with
      fault | params
    · rfl
    · dsimp only
      cases hopcode : c.opcode with
      | get =>
        rw [hopcode] at hhandler
        simp only [Option.toList_some, List.foldl_cons, List.foldl_nil, Sent.replay, hhandler]
      | set =>
        rw [hopcode] at hhandler
        simp only [Option.toList_some, List.foldl_cons, List.foldl_nil, Sent.replay, hhandler]

theorem invoke_world (c : Call σ) (action : Action) (lane : Lane) (s : Stage σ) :
    (c.invoke action lane s).2.world =
      (c.sent? action lane s).toList.foldl (Sent.replay c.handlers c.transport) s.world := by
  cases lane with
  | kernel index => exact c.runKernel_world action index s
  | handler => exact c.runHandler_world action s

theorem attempt_world (c : Call σ) (action : Action) (lane : Lane) (s : Stage σ) :
    (c.attempt action lane s).2.world =
      (c.sentFirst? action lane s).toList.foldl (Sent.replay c.handlers c.transport) s.world := by
  unfold attempt sentFirst?
  rcases c.prepare action s.request with ⟨fault | _, request⟩
  · rfl
  · exact c.invoke_world action lane { s with request }

theorem conclude_world (c : Call σ) (action : Action) (ran : Except Fault Unit × Stage σ) :
    (c.conclude action ran).2.world = ran.2.world := by
  obtain ⟨fault | _, s⟩ := ran
  · rfl
  · rfl

theorem trial_world (c : Call σ) (retried : Bool) (action : Action) (lane : Lane) (s : Stage σ) :
    (c.trial retried action lane s).stop.world =
      (c.trial retried action lane s).sent.foldl (Sent.replay c.handlers c.transport)
        s.world := by
  rw [trial]
  dsimp only
  split
  · rw [conclude_world]
    exact c.attempt_world action lane s
  · rw [conclude_world, invoke_world, List.foldl_append, ← attempt_world]
    rfl

/-! ## The run -/

theorem run_world (c : Call σ) (last : Fault) (retried : Bool) (actions : List (Action × Lane))
    (s : Stage σ) :
    (c.run last retried actions s).2.world =
      ((c.trials retried actions s).flatMap Trial.sent).foldl
        (Sent.replay c.handlers c.transport) s.world := by
  induction actions generalizing last retried s with
  | nil => rfl
  | cons next rest ih =>
    obtain ⟨action, lane⟩ := next
    have htrial := c.trial_world retried action lane s
    rw [run_cons, trials_cons, List.flatMap_cons, List.foldl_append, ← htrial]
    generalize c.trial retried action lane s = t
    cases houtcome : t.outcome with
    | ok u =>
      rw [if_pos (Trial.settles_of_ok houtcome)]
      rfl
    | error fault =>
      rw [Trial.settles_of_error houtcome]
      cases hinsists : t.insists with
      | true => rfl
      | false => exact ih fault (retried || t.repeated) t.stop

end Call

/-! ## The call -/

theorem Dispatched.world_clearFailed {σ : Type} (d : Dispatched σ) :
    d.clearFailed.world = d.world := by
  unfold clearFailed
  split <;> rfl

theorem Dispatched.notice_clearFailed {σ : Type} (d : Dispatched σ) :
    d.clearFailed.notice = d.notice := by
  unfold clearFailed
  split <;> rfl

section
variable {σ : Type} {i : Invocation} {participants : ParticipantTable} {request : DataBuffer}
  {participant : Participant} {profile : Profile} {primitive : Primitive}
  {value : Option (Measure × UInt32)}

theorem dispatch_world (h : Reaches i participants request participant profile primitive value)
    (handlers : HandlerTable σ) (transport : Transport σ) (response : DataBuffer) (world : σ) :
    (dispatch handlers transport participants i request response world).world =
      (((primitive.call handlers transport participant profile response value).allTrials
        (primitive.stage request response world)).flatMap Trial.sent).foldl
          (Sent.replay handlers transport) world := by
  rw [dispatch_of_reaches h, Dispatched.world_clearFailed]
  exact Call.run_world (primitive.call handlers transport participant profile response value) _ _ _
    (primitive.stage request response world)

theorem dispatch_world_of_last
    (h : Reaches i participants request participant profile primitive value)
    {handlers : HandlerTable σ} {transport : Transport σ} {response : DataBuffer} {world : σ}
    {t : Trial σ}
    (hlast : ((primitive.call handlers transport participant profile response value).allTrials
      (primitive.stage request response world)).getLast? = some t) :
    (dispatch handlers transport participants i request response world).world = t.stop.world := by
  rw [dispatch_of_reaches h, Dispatched.world_clearFailed]
  exact congrArg Stage.world (Call.runAll_stage hlast)

/-- Listeners are told of the action that succeeded. -/
theorem notice_dispatch (h : Reaches i participants request participant profile primitive value)
    (handlers : HandlerTable σ) (transport : Transport σ) (response : DataBuffer) (world : σ) :
    let c := primitive.call handlers transport participant profile response value
    (dispatch handlers transport participants i request response world).notice =
      (Call.answer (.unsupportedActionType 0)
        (c.allTrials (primitive.stage request response world))).toOption.bind c.notice? := by
  intro c
  have hanswer : (c.runAll (primitive.stage request response world)).1 =
      Call.answer (.unsupportedActionType 0)
        (c.allTrials (primitive.stage request response world)) :=
    congrArg Prod.fst (c.run_eq _ _ _ _)
  rw [dispatch_of_reaches h, Dispatched.notice_clearFailed, ← hanswer]
  unfold runPrimitive Primitive.stage
  dsimp only
  rcases (c.runAll ⟨asWord (primitive.resolveRequest request),
    asWord (primitive.resolveResponse response), world⟩).1 with fault | action
  · rfl
  · rfl

theorem notice_of_get (h : Reaches i participants request participant profile primitive value)
    (hget : primitive.opcode = .get) (handlers : HandlerTable σ) (transport : Transport σ)
    (response : DataBuffer) (world : σ) :
    (dispatch handlers transport participants i request response world).notice = none := by
  rw [notice_dispatch h]
  refine Option.bind_eq_none_iff.mpr fun action _ => if_neg fun hset => ?_
  rw [Primitive.opcode_call, hget] at hset
  nomatch hset.2.1

theorem notice_of_failed
    (h : Reaches i participants request participant profile primitive value)
    {handlers : HandlerTable σ} {transport : Transport σ} {response : DataBuffer} {world : σ}
    {fault : Fault}
    (hfailed : (dispatch handlers transport participants i request response world).result =
      .error fault) :
    (dispatch handlers transport participants i request response world).notice = none := by
  rw [result_dispatch h] at hfailed
  rw [notice_dispatch h]
  generalize Call.answer _ _ = answer at hfailed ⊢
  rcases answer with fault | action
  · rfl
  · nomatch hfailed

end

/-- A call that reaches no action leaves the state of the backends alone, whatever they are. -/
theorem reaches_or_idle (participants : ParticipantTable) (i : Invocation)
    (request response : DataBuffer) :
    (∃ participant profile primitive value,
      Reaches i participants request participant profile primitive value) ∨
    ∀ {τ : Type} (handlers : HandlerTable τ) (transport : Transport τ) (world : τ),
      (dispatch handlers transport participants i request response world).world = world := by
  cases hfound : i.find participants with
  | error fault =>
    refine .inr fun handlers transport world => ?_
    rw [dispatch, hfound]
    rfl
  | ok found =>
    obtain ⟨participant, profile, primitive⟩ := found
    cases hvalue : requestValue (primitive.resolveRequest request) with
    | error fault =>
      refine .inr fun handlers transport world => ?_
      rw [dispatch, hfound]
      dsimp only
      rw [hvalue]
      rfl
    | ok value => exact .inl ⟨participant, profile, primitive, value, hfound, hvalue⟩

end DeviceSupport
