import DeviceSupport.Proofs.Action.Expansion
import DeviceSupport.Proofs.Dispatch.Writes

/-! A primitive whose only action is a configuration.

Such a primitive comes to one use of the configuration store, or to two when a response may grow. A
set keeps the data of its request under the action's key; a get gives back what is kept, or says how
much room that takes. Nothing but a set of a configuration changes the store, and such a set changes
the value of its own key only (`Guarded.value?_replay`). -/
namespace DeviceSupport
set_option autoImplicit false

/-! ## The store among the other backends -/

/-- The key of the configuration that a use of a backend sets. -/
def Sent.configKey? (use : Sent) : Option String :=
  match use.write? with
  | some (.config key _) => some key
  | _ => none

/-- The handler of configurations keeps its values in `part`, and no other backend touches them. -/
structure Guarded {σ : Type} (handlers : HandlerTable σ) (transport : Transport σ)
    (part : Part σ ConfigStore) : Prop where
  served : ∀ opcode, handlers.handler? .config opcode = some (Handler.config part)
  get_set : ∀ store world, part.get (part.set store world) = store
  message_keeps : ∀ message world, part.get (transport message world).2 = part.get world
  get_keeps : ∀ type handler, type ≠ .config → handlers.handler? type .get = some handler →
    ∀ call request response world,
      part.get (handler.get call request response world).2 = part.get world
  set_keeps : ∀ type handler, type ≠ .config → handlers.handler? type .set = some handler →
    ∀ call request world, part.get (handler.set call request world).2 = part.get world

theorem Standalone.guarded {handlers : HandlerTable Context.Stores}
    {transport : Transport Context.Stores} (h : Standalone handlers transport) :
    Guarded handlers transport Context.Stores.configPart where
  served := fun opcode => by
    rw [h.handler?_eq, if_neg (by decide), if_pos rfl]
  get_set := fun _ _ => rfl
  message_keeps := fun message world => by
    rw [h.loopback]
    rfl
  get_keeps := fun type handler htype hhandler call request response world => by
    rw [h.handler?_eq] at hhandler
    by_cases hconst : type = .const
    · rw [if_pos hconst] at hhandler
      cases hhandler
      dsimp only [Handler.constant]
      split <;> rfl
    · rw [if_neg hconst, if_neg htype] at hhandler
      nomatch hhandler
  set_keeps := fun type handler htype hhandler call request world => by
    rw [h.handler?_set, if_neg htype] at hhandler
    nomatch hhandler

section
variable {σ : Type} {handlers : HandlerTable σ} {transport : Transport σ}
  {part : Part σ ConfigStore}

/-- A use of a backend changes no value but that of the key that it sets. -/
theorem Guarded.value?_replay (h : Guarded handlers transport part) {use : Sent} {key : String}
    (hspares : use.configKey? ≠ some key) (world : σ) :
    (part.get (use.replay handlers transport world)).value? key =
      (part.get world).value? key := by
  cases use with
  | message m =>
    rw [Sent.replay, h.message_keeps]
  | get type call request response =>
    rw [Sent.replay]
    by_cases htype : type = .config
    · subst htype
      rw [h.served]
      exact congrArg (·.value? key) (h.get_set _ world)
    · cases hhandler : handlers.handler? type .get with
      | none => rfl
      | some handler =>
        exact congrArg (·.value? key) (h.get_keeps type handler htype hhandler _ _ _ _)
  | set type call request =>
    rw [Sent.replay]
    by_cases htype : type = .config
    · subst htype
      rw [h.served]
      dsimp only [Handler.config, Part.run, ConfigStore.store]
      cases hfirst : call.params.first with
      | error fault =>
        dsimp only
        rw [h.get_set]
      | ok param =>
        dsimp only
        rw [h.get_set]
        have hother : ConfigStore.key param ≠ key := by
          rw [Sent.configKey?, Sent.write?, if_pos rfl, hfirst] at hspares
          exact fun heq => hspares (congrArg some heq)
        exact (Table.get?_insert _ _ _ _).trans (if_neg hother)
    · cases hhandler : handlers.handler? type .set with
      | none => rfl
      | some handler =>
        exact congrArg (·.value? key) (h.set_keeps type handler htype hhandler _ _ _)

theorem Guarded.value?_replay_all (h : Guarded handlers transport part) {uses : List Sent}
    {key : String} (hspares : ∀ use ∈ uses, use.configKey? ≠ some key) (world : σ) :
    (part.get (uses.foldl (Sent.replay handlers transport) world)).value? key =
      (part.get world).value? key := by
  induction uses generalizing world with
  | nil => rfl
  | cons use uses ih =>
    obtain ⟨huse, hrest⟩ := List.forall_mem_cons.mp hspares
    rw [List.foldl_cons, ih hrest, h.value?_replay huse]

end

/-! ## One action -/

/-- The only action of a call is a configuration under a key. -/
structure Call.Serves {σ : Type} (c : Call σ) (part : Part σ ConfigStore) (action : Action)
    (key : String) : Prop where
  alone : lanes 0 c.primitive.actions = [(action, .handler)]
  typed : action.actionType = .config
  served : c.handlers.handler? .config c.opcode = some (Handler.config part)
  plain : c.requestValue = none
  expands : ∃ params, action.params.expand c.participant.info.name c.primitive.tuple.qualifier =
    .ok params ∧ params.first = .ok (.text key)

namespace Call
variable {σ : Type} {c : Call σ} {part : Part σ ConfigStore} {action : Action} {key : String}

theorem getLast?_allTrials {lane : Lane} (h : lanes 0 c.primitive.actions = [(action, lane)])
    (s : Stage σ) : (c.allTrials s).getLast? = some (c.trial false action lane s) := by
  rw [allTrials, h, trials_cons]
  split <;> rfl

theorem Serves.attempt_eq (h : c.Serves part action key) (s : Stage σ) :
    c.attempt action .handler s = c.invoke action .handler s := by
  rw [attempt, c.prepare_of_none h.plain]

theorem Serves.invoke_set (h : c.Serves part action key) (hset : c.opcode = .set) (s : Stage σ) :
    c.invoke action .handler s =
      (.ok (),
        { s with
          world := part.set ⟨Table.insert key s.request.data (part.get s.world).values⟩
            s.world }) := by
  obtain ⟨params, hparams, hfirst⟩ := h.expands
  rw [invoke, runHandler, h.typed, h.served]
  dsimp only
  rw [hparams, hset]
  dsimp only [Handler.config, Part.run, ConfigStore.store]
  rw [hfirst]
  rfl

theorem Serves.invoke_get (h : c.Serves part action key) (hget : c.opcode = .get) {s : Stage σ}
    {bytes : List UInt8} (hkept : (part.get s.world).value? key = some bytes) :
    c.invoke action .handler s =
      ((s.response.write bytes).1,
        { s with
          response := (s.response.write bytes).2
          world := part.set (part.get s.world) s.world }) := by
  obtain ⟨params, hparams, hfirst⟩ := h.expands
  rw [invoke, runHandler, h.typed, h.served]
  dsimp only
  rw [hparams, hget]
  have hread (response : DataBuffer) :
      (part.get s.world).read params response = response.write bytes := by
    rw [ConfigStore.read, hfirst]
    dsimp only [ConfigStore.key]
    rw [hkept]
  dsimp only [Handler.config, Part.run]
  rw [hread]

/-- A configuration is handed on as it is. -/
theorem conclude_of_config (hmeasure : c.responseMeasure = none)
    (htype : action.actionType = .config) (ran : Except Fault Unit × Stage σ) :
    c.conclude action ran = ran := by
  obtain ⟨fault | _, s⟩ := ran
  · rfl
  · cases hopcode : c.opcode with
    | set => exact c.conclude_of_set hopcode action _
    | get =>
      have hscales : c.scales action = false :=
        decide_eq_false fun hlal => absurd (htype.symm.trans hlal.1) (by decide)
      rw [conclude, c.finish_of_get action s.response hopcode, normalize, hmeasure]
      dsimp only
      rw [c.scaleHysteresis_of_not s.response hscales]

/-! ### Trials -/

theorem Serves.trial_set (h : c.Serves part action key) (hset : c.opcode = .set) (s : Stage σ) :
    (c.trial false action .handler s).outcome = .ok () ∧
      (c.trial false action .handler s).stop.world =
        part.set ⟨Table.insert key s.request.data (part.get s.world).values⟩ s.world := by
  have htrial := c.trial_of_attempt false action .handler s
    ((h.attempt_eq s).trans (h.invoke_set hset s)) rfl
  rw [c.conclude_of_set hset] at htrial
  exact ⟨congrArg Prod.fst htrial, congrArg (fun ran => ran.2.world) htrial⟩

section
variable {s : Stage σ} {bytes : List UInt8}

theorem Serves.trial_fits (h : c.Serves part action key) (hget : c.opcode = .get)
    (hmeasure : c.responseMeasure = none) (hkept : (part.get s.world).value? key = some bytes)
    (hfits : bytes.length ≤ s.response.capacity) (hlength : bytes.length < 4294967296) :
    (c.trial false action .handler s).outcome = .ok () ∧
      (c.trial false action .handler s).stop.response.data = bytes := by
  have hinvoke := h.invoke_get hget hkept
  rw [DataBuffer.write_ok hfits] at hinvoke
  have htrial := c.trial_of_attempt false action .handler s ((h.attempt_eq s).trans hinvoke) rfl
  rw [conclude_of_config hmeasure h.typed] at htrial
  refine ⟨congrArg Prod.fst htrial, ?_⟩
  exact (congrArg (fun ran => ran.2.response.data) htrial).trans
    ((DataBuffer.data_write hfits).trans (DataBuffer.counted_of_lt hlength))

theorem Serves.trial_refused (h : c.Serves part action key) (hget : c.opcode = .get)
    (hfixed : c.typeOpen = false) (hkept : (part.get s.world).value? key = some bytes)
    (hshort : s.response.capacity < bytes.length) :
    (c.trial false action .handler s).outcome =
      .error (.needLargerBuffer (UInt32.ofNat bytes.length)) := by
  have hinvoke := h.invoke_get hget hkept
  rw [DataBuffer.write_short hshort] at hinvoke
  have hnever : c.enlargement? .handler false
      (.error (.needLargerBuffer (UInt32.ofNat bytes.length))) = none :=
    if_neg fun hagain => Bool.false_ne_true (hfixed.symm.trans hagain.2.1)
  have htrial := c.trial_of_attempt false action .handler s ((h.attempt_eq s).trans hinvoke) hnever
  exact congrArg Prod.fst htrial

/-- A response that may grow has room for the value the second time. -/
theorem Serves.trial_grows (h : c.Serves part action key) (hget : c.opcode = .get)
    (hmeasure : c.responseMeasure = none) (hopen : c.typeOpen = true)
    (hreads : ∀ store world, part.get (part.set store world) = store)
    (hkept : (part.get s.world).value? key = some bytes)
    (hshort : s.response.capacity < bytes.length) (hlength : bytes.length < 4294967296) :
    (c.trial false action .handler s).outcome = .ok () ∧
      (c.trial false action .handler s).stop.response.data = bytes := by
  let needed := UInt32.ofNat bytes.length
  let asked : Stage σ :=
    { s with
      response := (s.response.write bytes).2
      world := part.set (part.get s.world) s.world }
  have hinvoke : c.invoke action .handler s = (.error (.needLargerBuffer needed), asked) := by
    rw [h.invoke_get hget hkept, DataBuffer.write_short hshort]
  have hlarger : c.enlargement? .handler false (.error (.needLargerBuffer needed)) = some needed :=
    (c.enlargement?_eq_some_iff false .handler _ _).mpr ⟨rfl, rfl, hopen, rfl⟩
  have htrial := c.trial_of_repeat false action .handler s ((h.attempt_eq s).trans hinvoke) hlarger
  have hstill : (part.get (asked.enlarged needed).world).value? key = some bytes :=
    (congrArg (·.value? key) (hreads _ _)).trans hkept
  have hresponse : (asked.enlarged needed).response = s.response.reallocate bytes.length := by
    have hneeded : needed.toNat = bytes.length := UInt32.toNat_ofNat_of_lt' hlength
    rw [← hneeded]
    exact s.response.reallocate_write bytes needed.toNat
  have hroom : bytes.length ≤ (s.response.reallocate bytes.length).capacity :=
    Nat.le_of_eq (s.response.capacity_reallocate _).symm
  rw [h.invoke_get hget hstill, hresponse, DataBuffer.write_ok hroom,
    conclude_of_config hmeasure h.typed] at htrial
  refine ⟨congrArg Prod.fst htrial, ?_⟩
  exact (congrArg (fun ran => ran.2.response.data) htrial).trans
    ((DataBuffer.data_write hroom).trans (DataBuffer.counted_of_lt hlength))

end

end Call

/-! ## The call -/

/-- The name that tokens in the parameters of a primitive stand for. -/
def Primitive.nameFor (primitive : Primitive) (participant : Participant) : String :=
  participant.info.name ++ "." ++ primitive.tuple.qualifier

/-- The only action of a primitive is a configuration whose first parameter is `k`. -/
structure Primitive.Names (primitive : Primitive) (action : Action) (k : String) : Prop where
  alone : primitive.actions = [action]
  here : action.isKernel = false
  typed : action.actionType = .config
  first : action.params.head? = some (some (.text k))

/-- The texts of the action stay within their limit, too. -/
structure Primitive.Configures (primitive : Primitive) (participant : Participant)
    (action : Action) (k : String) : Prop extends primitive.Names action k where
  fits : Params.Fits (primitive.nameFor participant) action.params

theorem Primitive.Names.lanes_eq {primitive : Primitive} {action : Action} {k : String}
    (h : primitive.Names action k) : lanes 0 primitive.actions = [(action, .handler)] := by
  rw [h.alone, lanes, h.here]
  rfl

theorem reaches_plain {i : Invocation} {participants : ParticipantTable} {request : DataBuffer}
    {participant : Participant} {profile : Profile} {primitive : Primitive}
    (hfound : i.find participants = .ok (participant, profile, primitive))
    (htype : request.dataType ≠ .auto) (hmeasure : Measure.ofType? request.dataType = none) :
    Reaches i participants request participant profile primitive none := by
  refine ⟨hfound, ?_⟩
  rw [primitive.resolveRequest_of_ne htype, requestValue, hmeasure]

section
variable {σ : Type} {handlers : HandlerTable σ} {transport : Transport σ}
  {part : Part σ ConfigStore} {i : Invocation} {participants : ParticipantTable}
  {request response : DataBuffer} {world : σ} {participant : Participant} {profile : Profile}
  {primitive : Primitive} {action : Action} {k : String}

theorem Primitive.Configures.serves (h : primitive.Configures participant action k)
    (hguarded : Guarded handlers transport part) (profile : Profile) (response : DataBuffer) :
    (primitive.call handlers transport participant profile response none).Serves part action
      (NameToken.replace (primitive.nameFor participant) k) where
  alone := h.lanes_eq
  typed := h.typed
  served := hguarded.served _
  plain := rfl
  expands := ⟨_, Params.expand_of_fits h.fits, Params.first_map_named h.first⟩

theorem dispatch_sets (hguarded : Guarded handlers transport part)
    (hreaches : Reaches i participants request participant profile primitive none)
    (hconfigures : primitive.Configures participant action k) (hset : primitive.opcode = .set) :
    (dispatch handlers transport participants i request response world).result = .ok () ∧
      (part.get (dispatch handlers transport participants i request response world).world).value?
        (NameToken.replace (primitive.nameFor participant) k) = some request.data := by
  have hserves := hconfigures.serves hguarded profile response
  have hlast := Call.getLast?_allTrials hserves.alone (primitive.stage request response world)
  obtain ⟨hok, hworld⟩ := hserves.trial_set hset (primitive.stage request response world)
  refine ⟨(dispatch_of_success hreaches hlast hok).1, ?_⟩
  have hleft := (dispatch_world_of_last hreaches hlast).trans hworld
  have hdata : (primitive.stage request response world).request.data = request.data :=
    (data_asWord _).trans (primitive.data_resolveRequest request)
  rw [hleft, hguarded.get_set, hdata]
  exact (Table.get?_insert _ _ _ _).trans (if_pos rfl)

/-- A get gives back the value when it fits, or when the response may grow. -/
theorem dispatch_gets (hguarded : Guarded handlers transport part)
    (hreaches : Reaches i participants request participant profile primitive none)
    (hconfigures : primitive.Configures participant action k) (hget : primitive.opcode = .get)
    (hmeasure : Measure.ofType? (primitive.resolveResponse response).dataType = none)
    {bytes : List UInt8} (hlength : bytes.length < 4294967296)
    (hkept : (part.get world).value? (NameToken.replace (primitive.nameFor participant) k) =
      some bytes)
    (hroom : bytes.length ≤ (primitive.resolveResponse response).capacity ∨
      response.dataType = .auto) :
    (dispatch handlers transport participants i request response world).result = .ok () ∧
      (dispatch handlers transport participants i request response world).response.data =
        bytes := by
  have hserves := hconfigures.serves hguarded profile response
  have hlast := Call.getLast?_allTrials hserves.alone (primitive.stage request response world)
  have hcapacity : (primitive.stage request response world).response.capacity =
      (primitive.resolveResponse response).capacity := capacity_asWord _
  let call := primitive.call handlers transport participant profile response none
  let stage := primitive.stage request response world
  obtain ⟨hok, hdata⟩ : (call.trial false action .handler stage).outcome = .ok () ∧
      (call.trial false action .handler stage).stop.response.data = bytes := by
    by_cases hfits : bytes.length ≤ (primitive.resolveResponse response).capacity
    · exact hserves.trial_fits hget hmeasure hkept (hcapacity.symm ▸ hfits) hlength
    · have hopen : call.typeOpen = true := decide_eq_true (hroom.resolve_left hfits)
      exact hserves.trial_grows hget hmeasure hopen hguarded.get_set hkept
        (hcapacity.symm ▸ Nat.lt_of_not_le hfits) hlength
  obtain ⟨hresult, hback⟩ := dispatch_of_success hreaches hlast hok
  exact ⟨hresult, (congrArg DataBuffer.data hback).trans hdata⟩

/-- A response of a fixed type that is too short makes a get say how much is needed. -/
theorem dispatch_refuses (hguarded : Guarded handlers transport part)
    (hreaches : Reaches i participants request participant profile primitive none)
    (hconfigures : primitive.Configures participant action k) (hget : primitive.opcode = .get)
    (hfixed : response.dataType ≠ .auto) {bytes : List UInt8}
    (hkept : (part.get world).value? (NameToken.replace (primitive.nameFor participant) k) =
      some bytes)
    (hlong : (primitive.resolveResponse response).capacity < bytes.length) :
    (dispatch handlers transport participants i request response world).result =
      .error (.needLargerBuffer (UInt32.ofNat bytes.length)) := by
  have hserves := hconfigures.serves hguarded profile response
  have hlast := Call.getLast?_allTrials hserves.alone (primitive.stage request response world)
  have hcapacity : (primitive.stage request response world).response.capacity =
      (primitive.resolveResponse response).capacity := capacity_asWord _
  have hrefused := hserves.trial_refused hget (decide_eq_false hfixed) hkept
    (hcapacity.symm ▸ hlong)
  rw [result_dispatch hreaches]
  exact (Call.answer_of_last hlast).trans hrefused

/-- A text that is too long is in the way of a set and a get, wherever it stands. -/
theorem dispatch_out_of_bounds
    (hserved : (handlers.handler? .config primitive.opcode).isSome = true)
    (hreaches : Reaches i participants request participant profile primitive none)
    (hnames : primitive.Names action k) {text : String}
    (hlong : action.params.expand participant.info.name primitive.tuple.qualifier =
      .error (.parameterOutOfBounds text)) :
    (dispatch handlers transport participants i request response world).result =
      .error (.parameterOutOfBounds text) := by
  let call := primitive.call handlers transport participant profile response none
  have hrefused (s : Stage σ) :
      call.attempt action .handler s = (.error (.parameterOutOfBounds text), s) := by
    obtain ⟨handler, hhandler⟩ := Option.isSome_iff_exists.mp hserved
    have hfound : call.handlers.handler? action.actionType call.opcode = some handler :=
      hnames.typed.symm ▸ hhandler
    have hexpand : action.params.expand call.participant.info.name
        call.primitive.tuple.qualifier = .error (.parameterOutOfBounds text) := hlong
    rw [Call.attempt, call.prepare_of_none rfl]
    dsimp only [Call.invoke]
    rw [Call.runHandler, hfound]
    dsimp only
    rw [hexpand]
  have hlast := Call.getLast?_allTrials (c := call) hnames.lanes_eq
    (primitive.stage request response world)
  have houtcome : (call.trial false action .handler
      (primitive.stage request response world)).outcome = .error (.parameterOutOfBounds text) := by
    exact congrArg Prod.fst (call.trial_of_attempt false action .handler _ (hrefused _) rfl)
  rw [result_dispatch hreaches]
  exact (Call.answer_of_last hlast).trans houtcome

end

end DeviceSupport
