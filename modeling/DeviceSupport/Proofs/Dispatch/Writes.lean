import DeviceSupport.Context
import DeviceSupport.Proofs.Dispatch.Conversion
import DeviceSupport.Proofs.Dispatch.Effects

/-! What a call writes to the stores of a context that stands alone.

Such a context has no handlers besides those it started with, and the loopback stands in for the
kernel side. One use of a backend then writes one entry or none (`Sent.write?`). In every backend
the write comes after the last check, and after the action of a set nothing else can fail: an action
that fails has written nothing, and the one that succeeds has written once
(`trial_allOrNothing`). Since a call stops at its first success, the same holds of the call. -/
namespace DeviceSupport
set_option autoImplicit false

open Context (Stores)

/-! ## Entries of the stores -/

/-- An entry of one of the stores, with the value that it is given. -/
inductive Write where
  | config (key : String) (value : List UInt8)
  | loopback (key : Message.Loopback.Key) (value : List UInt8)
  deriving DecidableEq, Repr

def Write.value : Write → List UInt8
  | .config _ value => value
  | .loopback _ value => value

def Context.Stores.write (s : Stores) : Write → Stores
  | .config key value => { s with config := ⟨Table.insert key value s.config.values⟩ }
  | .loopback key value => { s with loopback := s.loopback.preload key value }

/-- The entry that a use of a backend writes. -/
def Sent.write? : Sent → Option Write
  | .message m =>
    match m.validate, m.opcode with
    | .ok (), .set => some (.loopback m.target.key m.requestBytes)
    | _, _ => none
  | .get _ _ _ _ => none
  | .set type call request =>
    if type = .config then
      call.params.first.toOption.map fun param => .config (ConfigStore.key param) request.data
    else none

/-! ## Standing alone -/

/-- The handlers are those of a new context, and the loopback is the kernel side. -/
structure Standalone (handlers : HandlerTable Stores) (transport : Transport Stores) : Prop where
  builtin : ∀ type, handlers.get? type = (Context.builtinHandlers Stores.configPart).get? type
  loopback : transport = Message.Loopback.transport Stores.loopbackPart

theorem standalone_new : Standalone Context.standalone.handlers Context.standalone.transport :=
  ⟨fun _ => rfl, rfl⟩

section
variable {handlers : HandlerTable Stores} {transport : Transport Stores}

theorem Standalone.handler?_eq (h : Standalone handlers transport) (type : ActionType)
    (opcode : Opcode) :
    handlers.handler? type opcode =
      if type = .const then
        match opcode with
        | .get => some Handler.constant
        | .set => none
      else if type = .config then some (Handler.config Stores.configPart)
      else none := by
  rw [HandlerTable.handler?, h.builtin]
  unfold HandlerTable.get? Context.builtinHandlers
  rw [Table.get?, Table.get?]
  by_cases hconst : type = .const
  · subst hconst
    rw [if_pos rfl, if_pos rfl]
    cases opcode <;> rfl
  · rw [if_neg (Ne.symm hconst), if_neg hconst]
    by_cases hconfig : type = .config
    · subst hconfig
      rw [if_pos rfl, if_pos rfl]
      cases opcode <;> rfl
    · rw [if_neg (Ne.symm hconfig), if_neg hconfig]
      rfl

theorem Standalone.handler?_set (h : Standalone handlers transport) (type : ActionType) :
    handlers.handler? type .set =
      if type = .config then some (Handler.config Stores.configPart) else none := by
  rw [h.handler?_eq]
  by_cases hconst : type = .const
  · subst hconst
    rfl
  · rw [if_neg hconst]

/-- A use of a backend writes its entry, if it has one, and changes nothing else. -/
theorem Standalone.replay_eq (h : Standalone handlers transport) (use : Sent) (s : Stores) :
    use.replay handlers transport s = use.write?.elim s s.write := by
  cases use with
  | message m =>
    rw [Sent.replay, Sent.write?, h.loopback]
    unfold Message.Loopback.transport Part.run Message.Loopback.execute Message.Loopback.serve
    rcases m.validate with fault | _
    · rfl
    · cases m.opcode with
      | get => rfl
      | set => rfl
  | get type call request response =>
    rw [Sent.replay, Sent.write?, h.handler?_eq]
    by_cases hconst : type = .const
    · rw [if_pos hconst]
      dsimp only [Handler.constant]
      split <;> rfl
    · rw [if_neg hconst]
      by_cases hconfig : type = .config
      · rw [if_pos hconfig]
        rfl
      · rw [if_neg hconfig]
        rfl
  | set type call request =>
    rw [Sent.replay, Sent.write?, h.handler?_set]
    by_cases hconfig : type = .config
    · rw [if_pos hconfig, if_pos hconfig]
      dsimp only [Handler.config, Part.run, ConfigStore.store]
      rcases call.params.first with fault | param
      · rfl
      · rfl
    · rw [if_neg hconfig, if_neg hconfig]
      rfl

theorem Standalone.replay_all (h : Standalone handlers transport) (uses : List Sent) (s : Stores) :
    uses.foldl (Sent.replay handlers transport) s =
      (uses.filterMap Sent.write?).foldl Stores.write s := by
  induction uses generalizing s with
  | nil => rfl
  | cons use uses ih =>
    rw [List.foldl_cons, h.replay_eq, ih]
    cases hwrite : use.write? with
    | none => rw [List.filterMap_cons_none hwrite, Option.elim_none]
    | some w => rw [List.filterMap_cons_some hwrite, Option.elim_some, List.foldl_cons]

end

/-! ## One action -/

/-- The caller's data in the unit of an action. -/
def Call.convertedData {σ : Type} (c : Call σ) (action : Action) (request : DataBuffer) :
    Except Fault (List UInt8) :=
  match c.requestValue with
  | none => .ok request.data
  | some (measure, word) =>
    (measure.convert word action.actionType (c.algorithm? action) .set).map LittleEndian.ofUInt32

/-- Where a set keeps its value: by the number of the kernel action, or by the parameter of a
configuration. -/
inductive Call.Keeps {σ : Type} (c : Call σ) (action : Action) : Lane → Write → Prop where
  | loopback (index : UInt16) (value : List UInt8) :
    c.Keeps action (.kernel index) (.loopback (c.target action index).key value)
  | config {params : Params} {param : Param} (value : List UInt8)
    (served : action.actionType = .config)
    (expanded : action.params.expand c.participant.info.name c.primitive.tuple.qualifier =
      .ok params)
    (first : params.first = .ok param) :
    c.Keeps action .handler (.config (ConfigStore.key param) value)

/-- An action that failed wrote nothing, and one that succeeded wrote this value once. -/
def Call.AllOrNothing {σ : Type} (c : Call σ) (action : Action) (lane : Lane)
    (value : List UInt8) (answer : Except Fault Unit) (uses : List Sent) : Prop :=
  match answer with
  | .error _ => uses.filterMap Sent.write? = []
  | .ok () => ∃ w, uses.filterMap Sent.write? = [w] ∧ c.Keeps action lane w ∧ w.value = value

namespace Call
variable (c : Call Stores)

theorem runKernel_allOrNothing (h : c.transport = Message.Loopback.transport Stores.loopbackPart)
    (hset : c.opcode = .set) (action : Action) (index : UInt16) (s : Stage Stores) :
    c.AllOrNothing action (.kernel index) s.request.data (c.runKernel action index s).1
      (c.sentToKernel? action index s).toList := by
  have hopcode : (c.message action index s).opcode = .set :=
    (Message.Request.opcode_make _ _ _ _ _ _).trans hset
  have htarget : (c.message action index s).target = c.target action index :=
    Message.Request.target_make _ _ _ _ _ _
  have hbytes (hvalid : (c.message action index s).validate = .ok ()) :
      (c.message action index s).requestBytes = s.request.data :=
    Message.Request.requestBytes_make _ _ _ _ _ hvalid
  unfold runKernel sentToKernel?
  dsimp only
  generalize c.message action index s = message at hopcode htarget hbytes ⊢
  rcases hvalid : message.validate with fault | _
  · rfl
  · -- A message that is sent is served: the loopback asks for nothing that was not checked before.
    have hserved : c.transport message s.world = (.ok (.ok []),
        s.world.write (.loopback message.target.key message.requestBytes)) := by
      rw [h]
      unfold Message.Loopback.transport Part.run Message.Loopback.execute Message.Loopback.serve
      rw [hvalid, hopcode]
      rfl
    have hreceive (response : DataBuffer) :
        c.receive (.ok []) response = (.ok (), response) := by
      unfold receive
      rw [hset]
      rfl
    have hwrite : (Sent.message message).write? =
        some (.loopback message.target.key message.requestBytes) := by
      rw [Sent.write?, hvalid, hopcode]
    dsimp only
    rw [hserved]
    dsimp only
    rw [hreceive]
    refine ⟨_, List.filterMap_cons_some hwrite, ?_, hbytes hvalid⟩
    rw [htarget]
    exact .loopback index _

theorem runHandler_allOrNothing (h : Standalone c.handlers c.transport) (hset : c.opcode = .set)
    (action : Action) (s : Stage Stores) :
    c.AllOrNothing action .handler s.request.data (c.runHandler action s).1
      (c.sentToHandler? action s).toList := by
  unfold runHandler sentToHandler?
  rw [hset, h.handler?_set]
  by_cases htype : action.actionType = .config
  case neg =>
    rw [if_neg htype]
    rfl
  case pos =>
    rw [if_pos htype]
    dsimp only
    cases hparams : action.params.expand c.participant.info.name c.primitive.tuple.qualifier with
    | error fault => rfl
    | ok params =>
      dsimp only [Handler.config, Part.run, ConfigStore.store, Option.toList_some]
      cases hfirst : params.first with
      | error fault =>
        have hwrite : (Sent.set action.actionType ⟨c.participant.info.devicePath, params⟩
            s.request).write? = none := by
          rw [Sent.write?, if_pos htype]
          dsimp only
          rw [hfirst]
          rfl
        exact List.filterMap_cons_none hwrite
      | ok param =>
        have hwrite : (Sent.set action.actionType ⟨c.participant.info.devicePath, params⟩
            s.request).write? = some (.config (ConfigStore.key param) s.request.data) := by
          rw [Sent.write?, if_pos htype]
          dsimp only
          rw [hfirst]
          rfl
        exact ⟨_, List.filterMap_cons_some hwrite, .config _ htype hparams hfirst, rfl⟩

theorem invoke_allOrNothing (h : Standalone c.handlers c.transport) (hset : c.opcode = .set)
    (action : Action) (lane : Lane) (s : Stage Stores) :
    c.AllOrNothing action lane s.request.data (c.invoke action lane s).1
      (c.sent? action lane s).toList := by
  cases lane with
  | kernel index => exact c.runKernel_allOrNothing h.loopback hset action index s
  | handler => exact c.runHandler_allOrNothing h hset action s

theorem attempt_allOrNothing (h : Standalone c.handlers c.transport) (hset : c.opcode = .set)
    (action : Action) (lane : Lane) (s : Stage Stores) :
    c.AllOrNothing action lane (c.prepare action s.request).2.data (c.attempt action lane s).1
      (c.sentFirst? action lane s).toList := by
  unfold attempt sentFirst?
  rcases c.prepare action s.request with ⟨fault | _, request⟩
  · rfl
  · exact c.invoke_allOrNothing h hset action lane { s with request }

theorem conclude_of_set {σ : Type} (c : Call σ) (hset : c.opcode = .set) (action : Action)
    (ran : Except Fault Unit × Stage σ) : c.conclude action ran = ran := by
  obtain ⟨fault | _, s⟩ := ran
  · rfl
  · rw [conclude, finish, hset]

theorem trial_allOrNothing (h : Standalone c.handlers c.transport) (hset : c.opcode = .set)
    (retried : Bool) (action : Action) (lane : Lane) (s : Stage Stores) :
    c.AllOrNothing action lane (c.prepare action s.request).2.data
      (c.trial retried action lane s).outcome (c.trial retried action lane s).sent := by
  have hattempt := c.attempt_allOrNothing h hset action lane s
  rw [trial]
  dsimp only
  split
  · rw [c.conclude_of_set hset]
    exact hattempt
  · next needed hlarger =>
    -- Only an attempt that failed is repeated, so that the repeat alone may have written.
    obtain ⟨hasked, -⟩ := (c.enlargement?_eq_some_iff retried lane _ needed).mp hlarger
    rw [hasked] at hattempt
    have hagain := c.invoke_allOrNothing h hset action lane
      ((c.attempt action lane s).2.enlarged needed)
    have hdata : ((c.attempt action lane s).2.enlarged needed).request.data =
        (c.prepare action s.request).2.data :=
      congrArg DataBuffer.data (c.attempt_request action lane s)
    rw [hdata] at hagain
    rw [c.conclude_of_set hset]
    unfold AllOrNothing at hattempt hagain ⊢
    rw [List.filterMap_append, hattempt, List.nil_append]
    exact hagain

theorem sent?_of_get {σ : Type} (c : Call σ) (hget : c.opcode = .get) {action : Action}
    {lane : Lane} {s : Stage σ} {use : Sent} (h : c.sent? action lane s = some use) :
    use.write? = none := by
  rcases c.sent?_cases h with ⟨index, -, hvalid, rfl⟩ |
    ⟨_, _, -, -, -, ⟨-, rfl⟩ | ⟨hset, -⟩⟩
  · have hopcode : (c.message action index s).opcode = .get :=
      (Message.Request.opcode_make _ _ _ _ _ _).trans hget
    rw [Sent.write?, hvalid, hopcode]
  · rfl
  · nomatch hget.symm.trans hset

/-! ## The run -/

theorem allTrials_of_get {σ : Type} (c : Call σ) (hget : c.opcode = .get) (s : Stage σ) :
    ((c.allTrials s).flatMap Trial.sent).filterMap Sent.write? = [] := by
  refine List.filterMap_eq_nil_iff.mpr fun use huse => ?_
  obtain ⟨t, ht, huse⟩ := List.mem_flatMap.mp huse
  obtain ⟨retried, htrial⟩ := c.exists_trial ht
  rw [htrial] at huse
  obtain ⟨stage, hsent, -⟩ := c.exists_of_mem_sent huse
  exact c.sent?_of_get hget hsent

theorem allTrials_allOrNothing (h : Standalone c.handlers c.transport) (hset : c.opcode = .set)
    {s : Stage Stores} {t : Trial Stores} (hlast : (c.allTrials s).getLast? = some t) :
    c.AllOrNothing t.action t.lane (c.prepare t.action t.start.request).2.data t.outcome
      ((c.allTrials s).flatMap Trial.sent) := by
  have htrial : ∀ u ∈ c.allTrials s,
      c.AllOrNothing u.action u.lane (c.prepare u.action u.start.request).2.data u.outcome
        u.sent := by
    intro u hu
    obtain ⟨retried, hu⟩ := c.exists_trial hu
    have hatomic := c.trial_allOrNothing h hset retried u.action u.lane u.start
    rw [← hu] at hatomic
    exact hatomic
  -- All trials but the last have failed, so that the last alone decides what is written.
  obtain ⟨before, hsplit⟩ := List.getLast?_eq_some_iff.mp hlast
  obtain ⟨-, hbefore, -⟩ := c.trials_split hsplit
  have hnothing : (before.flatMap Trial.sent).filterMap Sent.write? = [] := by
    rw [List.filterMap_flatMap]
    refine List.flatMap_eq_nil_iff.mpr fun u hu => ?_
    obtain ⟨fault, houtcome⟩ := Trial.error_of_settles (hbefore u hu)
    have hfailed := htrial u (hsplit ▸ List.mem_append_left [t] hu)
    rw [houtcome] at hfailed
    exact hfailed
  have hdone := htrial t (List.mem_of_getLast? hlast)
  unfold AllOrNothing at hdone ⊢
  rw [hsplit, List.flatMap_append, List.flatMap_singleton, List.filterMap_append, hnothing,
    List.nil_append]
  exact hdone

theorem allTrials_of_failed (h : Standalone c.handlers c.transport) (hset : c.opcode = .set)
    {s : Stage Stores} {last fault : Fault}
    (hfailed : (answer last (c.allTrials s)).map (fun _ => ()) = .error fault) :
    ((c.allTrials s).flatMap Trial.sent).filterMap Sent.write? = [] := by
  cases hlast : (c.allTrials s).getLast? with
  | none =>
    rw [List.getLast?_eq_none_iff.mp hlast]
    rfl
  | some t =>
    have hatomic := c.allTrials_allOrNothing h hset hlast
    rw [(answer_of_last hlast).symm.trans hfailed] at hatomic
    exact hatomic

theorem prepare_converted {σ : Type} (c : Call σ) {action : Action} {request entry : DataBuffer}
    (hroom : c.requestValue.isSome = true → 4 ≤ request.capacity)
    (hplain : c.requestValue = none → request.data = entry.data)
    (hok : (c.prepare action request).1 = .ok ()) :
    c.convertedData action entry = .ok (c.prepare action request).2.data := by
  unfold convertedData
  cases hvalue : c.requestValue with
  | none =>
    rw [c.prepare_of_none hvalue]
    exact congrArg Except.ok (hplain hvalue).symm
  | some value =>
    obtain ⟨measure, word⟩ := value
    dsimp only
    cases hword : measure.convert word action.actionType (c.algorithm? action) .set with
    | error fault =>
      rw [c.prepare_of_error hvalue hword] at hok
      cases hok
    | ok converted =>
      rw [c.prepare_of_ok hvalue hword, DataBuffer.data_writeUInt32 converted (hroom (hvalue ▸ rfl))]
      rfl

theorem prepare_of_done {σ : Type} (c : Call σ) {s : Stage σ} {t : Trial σ}
    (ht : t ∈ c.allTrials s) (hroom : c.requestValue.isSome = true → 4 ≤ t.start.request.capacity)
    (hok : t.outcome = .ok ()) : (c.prepare t.action t.start.request).1 = .ok () := by
  obtain ⟨retried, htrial⟩ := c.exists_trial ht
  cases hprepare : (c.prepare t.action t.start.request).1 with
  | ok u => rfl
  | error fault =>
    have houtcome := (c.trial_unprepared retried t.lane hroom hprepare).2.2
    rw [← htrial, hok] at houtcome
    nomatch houtcome

/-- A request that is no measure keeps its data from action to action. -/
theorem data_start {σ : Type} (c : Call σ) {s : Stage σ} {t : Trial σ} (ht : t ∈ c.allTrials s)
    (hvalue : c.requestValue = none) : t.start.request.data = s.request.data := by
  refine (c.trials_request (P := fun request => request.data = s.request.data)
    (fun action request hdata => ?_) _ _ s rfl t ht).1
  rw [c.prepare_of_none hvalue]
  exact hdata

end Call

/-! ## The call -/

theorem Standalone.dispatch_world {handlers : HandlerTable Stores} {transport : Transport Stores}
    (h : Standalone handlers transport) {i : Invocation} {participants : ParticipantTable}
    {request : DataBuffer} {participant : Participant} {profile : Profile} {primitive : Primitive}
    {value : Option (Measure × UInt32)}
    (hreaches : Reaches i participants request participant profile primitive value)
    (response : DataBuffer) (world : Stores) :
    (dispatch handlers transport participants i request response world).world =
      ((((primitive.call handlers transport participant profile response value).allTrials
        (primitive.stage request response world)).flatMap Trial.sent).filterMap
          Sent.write?).foldl Stores.write world := by
  rw [DeviceSupport.dispatch_world hreaches]
  exact h.replay_all _ world

/-- A set that succeeded by the trial `t` wrote the entry `w` and no other. -/
structure Call.WritesOnce (c : Call Stores) (request : DataBuffer) (trials : List (Trial Stores))
    (sent : List Sent) (before after : Stores) (t : Trial Stores) (w : Write) : Prop where
  last : trials.getLast? = some t
  done : t.outcome = .ok ()
  once : sent.filterMap Sent.write? = [w]
  written : after = before.write w
  /-- The entry is that of the action that succeeded, and so is the unit of its value. -/
  kept : c.Keeps t.action t.lane w
  converted : c.convertedData t.action request = .ok w.value

section
variable {handlers : HandlerTable Stores} {transport : Transport Stores}

/-- A get and a call that fails leave the stores as they are, and listeners in peace. -/
theorem Standalone.dispatch_keeps (h : Standalone handlers transport)
    (participants : ParticipantTable) (i : Invocation) (request response : DataBuffer)
    (world : Stores)
    (hquiet : (∃ fault, (dispatch handlers transport participants i request response
        world).result = .error fault) ∨
      ∃ primitive, i.primitive? participants = some primitive ∧ primitive.opcode = .get) :
    (dispatch handlers transport participants i request response world).world = world ∧
      (dispatch handlers transport participants i request response world).notice = none := by
  rcases dispatch_exits handlers transport participants i request response world with
    ⟨_, -, hdispatch⟩ | ⟨_, _, _, _, -, hdispatch⟩ |
      ⟨participant, profile, primitive, value, hreaches⟩
  · rw [hdispatch]
    exact ⟨rfl, rfl⟩
  · rw [hdispatch]
    exact ⟨rfl, rfl⟩
  let call := primitive.call handlers transport participant profile response value
  rw [h.dispatch_world hreaches]
  cases hopcode : primitive.opcode with
  | get =>
    have hnothing := call.allTrials_of_get hopcode (primitive.stage request response world)
    exact ⟨congrArg (List.foldl Stores.write world) hnothing,
      notice_of_get hreaches hopcode handlers transport response world⟩
  | set =>
    obtain ⟨fault, hfailed⟩ : ∃ fault, (dispatch handlers transport participants i request response
        world).result = .error fault := by
      rcases hquiet with hfailed | ⟨primitive', hfound, hget⟩
      · exact hfailed
      · rw [Invocation.primitive?_of_ok hreaches.found] at hfound
        obtain rfl := Option.some.inj hfound
        nomatch hopcode.symm.trans hget
    have hnothing := call.allTrials_of_failed h hopcode
      ((result_dispatch hreaches handlers transport response world).symm.trans hfailed)
    exact ⟨congrArg (List.foldl Stores.write world) hnothing, notice_of_failed hreaches hfailed⟩

theorem Standalone.dispatch_writes (h : Standalone handlers transport)
    {participants : ParticipantTable} {i : Invocation} {request response : DataBuffer}
    {world : Stores} {participant : Participant} {profile : Profile} {primitive : Primitive}
    {value : Option (Measure × UInt32)}
    (hreaches : Reaches i participants request participant profile primitive value)
    (hset : primitive.opcode = .set)
    (hok : (dispatch handlers transport participants i request response world).result =
      .ok ()) :
    let call := primitive.call handlers transport participant profile response value
    let trials := call.allTrials (primitive.stage request response world)
    ∃ t w, call.WritesOnce request trials (trials.flatMap Trial.sent) world
      (dispatch handlers transport participants i request response world).world t w := by
  intro call trials
  obtain ⟨t, hlast, hdone⟩ := Call.exists_last_of_answer
    ((result_dispatch hreaches handlers transport response world).symm.trans hok)
  have hwrites := call.allTrials_allOrNothing h hset hlast
  rw [hdone] at hwrites
  obtain ⟨w, honce, hkept, hvalue⟩ := hwrites
  refine ⟨t, w,
    { last := hlast
      done := hdone
      once := honce
      written := ?written
      kept := hkept
      converted := ?converted }⟩
  case written =>
    rw [h.dispatch_world hreaches]
    exact congrArg (List.foldl Stores.write world) honce
  case converted =>
    have ht := List.mem_of_getLast? hlast
    have hroom : call.requestValue.isSome = true → 4 ≤ t.start.request.capacity := fun hsome =>
      call.capacity_start _ ht ▸ hreaches.room response world hsome
    have hdata : (primitive.stage request response world).request.data = request.data :=
      (data_asWord _).trans (primitive.data_resolveRequest request)
    rw [hvalue]
    exact call.prepare_converted hroom (fun hplain => (call.data_start ht hplain).trans hdata)
      (call.prepare_of_done ht hroom hdone)

end

/-- What a call changes of a context. -/
structure Context.Executes (c : Context Stores) (i : Invocation) (request response : DataBuffer)
    (d : Dispatched Stores) (after : Context Stores) : Prop where
  /-- A use of a backend writes the entry that `Sent.write?` names, and does nothing else. -/
  replayed : ∀ use stores,
    Sent.replay c.handlers c.transport stores use = use.write?.elim stores stores.write
  get_keeps : ∀ primitive, i.primitive? c.participants = some primitive → primitive.opcode = .get →
    after.world = c.world ∧ after.notices = c.notices
  failed_keeps : ∀ fault, d.result = .error fault →
    after.world = c.world ∧ after.notices = c.notices
  set_writes : ∀ participant profile primitive,
    i.find c.participants = .ok (participant, profile, primitive) → primitive.opcode = .set →
      d.result = .ok () →
        ∃ value sent t w, requestValue (primitive.resolveRequest request) = .ok value ∧
          dispatch c.handlers.recorded (Transport.recorded c.transport) c.participants i request
            response (c.world, []) = d.recorded sent ∧
          let call := primitive.call c.handlers c.transport participant profile response value
          call.WritesOnce request (call.allTrials (primitive.stage request response c.world)) sent
            c.world after.world t w

/-- In a context that stands alone a get changes nothing, a set that fails changes nothing, and a set
that succeeds writes one entry once, with the caller's data in the unit of its action. -/
theorem execute_allOrNothing (c : Context Stores) (h : Standalone c.handlers c.transport)
    (i : Invocation) (request response : DataBuffer) :
    c.Executes i request response (c.execute i request response).1
      (c.execute i request response).2 := by
  let d := dispatch c.handlers c.transport c.participants i request response c.world
  have hkeeps (hkept : d.world = c.world ∧ d.notice = none) :
      (c.execute i request response).2.world = c.world ∧
        (c.execute i request response).2.notices = c.notices := by
    refine ⟨hkept.1, ?_⟩
    rw [Context.execute]
    dsimp only
    rw [hkept.2]
    exact List.append_nil _
  refine
    { replayed := fun use stores => h.replay_eq use stores
      get_keeps := fun primitive hfound hget =>
        hkeeps (h.dispatch_keeps _ _ _ _ _ (.inr ⟨primitive, hfound, hget⟩))
      failed_keeps := fun fault hfailed =>
        hkeeps (h.dispatch_keeps _ _ _ _ _ (.inl ⟨fault, hfailed⟩))
      set_writes := fun participant profile primitive hfound hset hok => ?set_writes }
  case set_writes =>
    obtain ⟨participant', profile', primitive', value, hreaches⟩ := reaches_of_ok hok
    obtain ⟨rfl, rfl, rfl⟩ : participant = participant' ∧ profile = profile' ∧
        primitive = primitive' := by
      simpa using Except.ok.inj (hfound.symm.trans hreaches.found)
    obtain ⟨t, w, hwrites⟩ := h.dispatch_writes hreaches hset hok
    exact ⟨value, _, t, w, hreaches.valued,
      dispatch_recorded hreaches c.handlers c.transport response c.world [], hwrites⟩

namespace Sample

/-- A trip point that a constant, a configuration without a key and the kernel side may set. -/
def tripPointPrimitive : Primitive where
  tuple := Tuple.ofQualifier PrimitiveId.setTripPointPassive "D0" 255
  size := 0
  operation := Opcode.set.code
  requestType := DataType.temperature.code
  requestSchema := ""
  resultType := DataType.void.code
  resultSchema := ""
  actions := [.const, .config, .msr].map fun actionType =>
    { size := 0, actionType, priority := 0, isKernel := actionType = .msr, params := .ofList [] }

def tripPointProfile : Profile :=
  Profile.insertPrimitives
    { descriptor := { code := "demo" }, declaredSize := 0
      algorithms := [unit .const .temperatureNone, unit .config .temperatureMilliCelsius,
        unit .msr .temperatureDeciKelvin] }
    [tripPointPrimitive]

def tripPointContext : Context Stores :=
  { Context.standalone with
    participants := ⟨[
      { id := 1, info := ⟨"TCPU", "", .platform "" ""⟩
        bound := some (default, tripPointProfile) }]⟩ }

/-- The two actions before have left nothing, and the kernel side keeps fifty degrees in its own
unit. -/
theorem tripPoint_written :
    let ran := tripPointContext.execute setTripPoint (.ofUInt32 .temperature 50) .void
    Standalone tripPointContext.handlers tripPointContext.transport ∧
      tripPointContext.Executes setTripPoint (.ofUInt32 .temperature 50) .void ran.1 ran.2 ∧
      ran.1.result = .ok () ∧
      ran.2.world = tripPointContext.world.write (.loopback
        ⟨203, tripPointPrimitive.tuple.domain, 255, 0⟩ [0xa0, 0x0c, 0, 0]) :=
  ⟨standalone_new, execute_allOrNothing tripPointContext standalone_new _ _ _,
    done_of_isOk (by decide), by decide⟩

end Sample

end DeviceSupport
