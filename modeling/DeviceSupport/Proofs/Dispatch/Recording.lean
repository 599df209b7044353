import DeviceSupport.Dispatch

/-! What reaches a handler or the transport.

`Call.sent?` says what one run of an action hands to its backend, if it gets that far. Beside it
stands a call whose handlers and transport write down what they are given (`Call.recorded`); the
lemmas say that writing it down changes no answer, and that what is written is what `sent?` says. -/
namespace DeviceSupport
set_option autoImplicit false

/-- One use of a backend: a message to the kernel side, or a call of the handler of a type. -/
inductive Sent where
  | message (message : Message.Request)
  | get (type : ActionType) (call : ActionCall) (request response : DataBuffer)
  | set (type : ActionType) (call : ActionCall) (request : DataBuffer)
  deriving DecidableEq, Repr

namespace Call
variable {σ : Type}

def sentToKernel? (c : Call σ) (action : Action) (index : UInt16) (s : Stage σ) : Option Sent :=
  let message := c.message action index s
  match message.validate with
  | .error _ => none
  | .ok () => some (.message message)

def sentToHandler? (c : Call σ) (action : Action) (s : Stage σ) : Option Sent :=
  match c.handlers.handler? action.actionType c.opcode with
  | none => none
  | some _ =>
    match action.params.expand c.participant.info.name c.primitive.tuple.qualifier with
    | .error _ => none
    | .ok params =>
      let call : ActionCall := ⟨c.participant.info.devicePath, params⟩
      match c.opcode with
      | .get => some (.get action.actionType call s.request s.response)
      | .set => some (.set action.actionType call s.request)

/-- What running an action hands to its backend. -/
def sent? (c : Call σ) (action : Action) (lane : Lane) (s : Stage σ) : Option Sent :=
  match lane with
  | .kernel index => c.sentToKernel? action index s
  | .handler => c.sentToHandler? action s

/-- What trying an action hands to its backend; nothing when the request cannot be prepared. -/
def sentFirst? (c : Call σ) (action : Action) (lane : Lane) (s : Stage σ) : Option Sent :=
  match c.prepare action s.request with
  | (.ok (), request) => c.sent? action lane { s with request }
  | (.error _, _) => none

end Call

namespace Call
variable {σ : Type}

/-- All that an action can hand to its backend, and when. -/
theorem sent?_cases (c : Call σ) {action : Action} {lane : Lane} {s : Stage σ} {use : Sent}
    (h : c.sent? action lane s = some use) :
    (∃ index, lane = .kernel index ∧ (c.message action index s).validate = .ok () ∧
      use = .message (c.message action index s)) ∨
    ∃ handler params, lane = .handler ∧
      c.handlers.handler? action.actionType c.opcode = some handler ∧
      action.params.expand c.participant.info.name c.primitive.tuple.qualifier = .ok params ∧
      ((c.opcode = .get ∧
          use = .get action.actionType ⟨c.participant.info.devicePath, params⟩ s.request
            s.response) ∨
        (c.opcode = .set ∧
          use = .set action.actionType ⟨c.participant.info.devicePath, params⟩ s.request)) := by
  cases lane with
  | kernel index =>
    rw [sent?, sentToKernel?] at h
    cases hvalid : (c.message action index s).validate with
    | error fault =>
      rw [hvalid] at h
      nomatch h
    | ok u =>
      rw [hvalid] at h
      exact .inl ⟨index, rfl, hvalid, (Option.some.inj h).symm⟩
  | handler =>
    rw [sent?, sentToHandler?] at h
    cases hhandler : c.handlers.handler? action.actionType c.opcode with
    | none =>
      rw [hhandler] at h
      nomatch h
    | some handler =>
      rw [hhandler] at h
      dsimp only at h
      cases hparams : action.params.expand c.participant.info.name
          c.primitive.tuple.qualifier with
      | error fault =>
        rw [hparams] at h
        nomatch h
      | ok params =>
        rw [hparams] at h
        dsimp only at h
        refine .inr ⟨handler, params, rfl, rfl, rfl, ?_⟩
        cases hopcode : c.opcode with
        | get =>
          rw [hopcode] at h
          exact .inl ⟨rfl, (Option.some.inj h).symm⟩
        | set =>
          rw [hopcode] at h
          exact .inr ⟨rfl, (Option.some.inj h).symm⟩

end Call

/-! ## Backends that keep a record -/

section
variable {σ : Type}

def Handler.recorded (type : ActionType) (h : Handler σ) : Handler (σ × List Sent) where
  get call request response w :=
    let (answer, world) := h.get call request response w.1
    (answer, (world, w.2 ++ [.get type call request response]))
  set call request w :=
    let (answer, world) := h.set call request w.1
    (answer, (world, w.2 ++ [.set type call request]))

def HandlerEntry.recorded (type : ActionType) (e : HandlerEntry σ) :
    HandlerEntry (σ × List Sent) :=
  ⟨e.name, e.directions, e.handler.recorded type⟩

def HandlerTable.recorded (t : HandlerTable σ) : HandlerTable (σ × List Sent) :=
  ⟨t.entries.map fun e => (e.1, e.2.recorded e.1)⟩

def Transport.recorded (t : Transport σ) : Transport (σ × List Sent) :=
  fun message w =>
    let (answer, world) := t message w.1
    (answer, (world, w.2 ++ [.message message]))

def Stage.recorded (s : Stage σ) (log : List Sent) : Stage (σ × List Sent) :=
  ⟨s.request, s.response, (s.world, log)⟩

def Call.recorded (c : Call σ) : Call (σ × List Sent) where
  handlers := c.handlers.recorded
  transport := Transport.recorded c.transport
  participant := c.participant
  profile := c.profile
  primitive := c.primitive
  typeOpen := c.typeOpen
  requestValue := c.requestValue
  responseMeasure := c.responseMeasure

theorem HandlerTable.handler?_recorded (t : HandlerTable σ) (type : ActionType) (opcode : Opcode) :
    t.recorded.handler? type opcode = (t.handler? type opcode).map (·.recorded type) := by
  obtain ⟨entries⟩ := t
  unfold handler? get? recorded
  induction entries with
  | nil => rfl
  | cons e entries ih =>
    obtain ⟨key, entry⟩ := e
    by_cases h : key = type
    · subst h
      rw [List.map_cons, Table.get?, Table.get?, if_pos rfl, if_pos rfl]
      unfold HandlerEntry.recorded HandlerEntry.handler?
      cases hserves : entry.directions.serves opcode <;> simp [hserves]
    · rw [List.map_cons, Table.get?, Table.get?, if_neg h, if_neg h]
      exact ih

/-! ## The record of a run -/

namespace Call

theorem runKernel_recorded (c : Call σ) (action : Action) (index : UInt16) (s : Stage σ)
    (log : List Sent) :
    c.recorded.runKernel action index (s.recorded log) =
      ((c.runKernel action index s).1,
        (c.runKernel action index s).2.recorded
          (log ++ (c.sentToKernel? action index s).toList)) := by
  have hmessage : c.recorded.message action index (s.recorded log) = c.message action index s := rfl
  unfold runKernel sentToKernel?
  simp only [hmessage]
  generalize c.message action index s = message
  rcases message.validate with fault | _
  · simp
  · have htransport : c.recorded.transport message (s.recorded log).world =
        ((c.transport message s.world).1,
          (c.transport message s.world).2, log ++ [.message message]) := rfl
    simp only [htransport]
    rcases c.transport message s.world with ⟨fault | reply, world⟩
    · rfl
    · rfl

theorem runHandler_recorded (c : Call σ) (action : Action) (s : Stage σ) (log : List Sent) :
    c.recorded.runHandler action (s.recorded log) =
      ((c.runHandler action s).1,
        (c.runHandler action s).2.recorded (log ++ (c.sentToHandler? action s).toList)) := by
  have hhandler : c.recorded.handlers.handler? action.actionType c.recorded.opcode = _ :=
    c.handlers.handler?_recorded action.actionType c.opcode
  unfold runHandler sentToHandler?
  rw [hhandler]
  rcases c.handlers.handler? action.actionType c.opcode with _ | handler
  · simp
  simp only [Option.map_some]
  have hparams : action.params.expand c.recorded.participant.info.name
      c.recorded.primitive.tuple.qualifier =
        action.params.expand c.participant.info.name c.primitive.tuple.qualifier := rfl
  rw [hparams]
  rcases action.params.expand c.participant.info.name c.primitive.tuple.qualifier with
    fault | params
  · simp
  have hopcode : c.recorded.opcode = c.opcode := rfl
  simp only [hopcode]
  cases c.opcode with
  | get => rfl
  | set => rfl

theorem invoke_recorded (c : Call σ) (action : Action) (lane : Lane) (s : Stage σ)
    (log : List Sent) :
    c.recorded.invoke action lane (s.recorded log) =
      ((c.invoke action lane s).1,
        (c.invoke action lane s).2.recorded (log ++ (c.sent? action lane s).toList)) := by
  cases lane with
  | kernel index => exact c.runKernel_recorded action index s log
  | handler => exact c.runHandler_recorded action s log

theorem attempt_recorded (c : Call σ) (action : Action) (lane : Lane) (s : Stage σ)
    (log : List Sent) :
    c.recorded.attempt action lane (s.recorded log) =
      ((c.attempt action lane s).1,
        (c.attempt action lane s).2.recorded (log ++ (c.sentFirst? action lane s).toList)) := by
  have hprepare : c.recorded.prepare action (s.recorded log).request =
      c.prepare action s.request := rfl
  unfold attempt sentFirst?
  rw [hprepare]
  rcases c.prepare action s.request with ⟨fault | _, request⟩
  · simp only [Option.toList_none, List.append_nil]
    rfl
  · exact c.invoke_recorded action lane { s with request } log

theorem conclude_recorded (c : Call σ) (action : Action) (ran : Except Fault Unit × Stage σ)
    (log : List Sent) :
    c.recorded.conclude action (ran.1, ran.2.recorded log) =
      ((c.conclude action ran).1, (c.conclude action ran).2.recorded log) := by
  obtain ⟨_ | _, s⟩ := ran
  · rfl
  · rfl

end Call

end

end DeviceSupport
