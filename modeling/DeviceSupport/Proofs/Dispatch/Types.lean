import DeviceSupport.Proofs.Dispatch.Effects
import DeviceSupport.Proofs.Dispatch.Response
import DeviceSupport.Proofs.Dispatch.Restoration
import DeviceSupport.Proofs.Message

/-! The types that backends and callers are shown.

A request has one type during a call, and so has a response, unless a handler gives it back with
another (`Sent.Retypes`). A type that the caller leaves open is settled by what the package
declares; it stays open exactly when the package declares it open, too (`StaysOpen`), and then it
is shown to every backend and handed back to the caller as it is. -/
namespace DeviceSupport
set_option autoImplicit false

/-- Neither the caller nor the package settles a type. -/
def StaysOpen (entry : DataType) (declared : UInt32) : Prop :=
  entry = .auto ∧ declared = DataType.auto.code

namespace Sent
variable {σ : Type} (handlers : HandlerTable σ) (transport : Transport σ)

/-- The type of the request that a backend is given. -/
def requestType : Sent → DataType
  | .message m => m.request.dataType
  | .get _ _ request _ => request.dataType
  | .set _ _ request => request.dataType

/-- The type of the response that a backend is given; the handler of a set is given none. -/
def responseType? : Sent → Option DataType
  | .message m => some m.response.dataType
  | .get _ _ _ response => some response.dataType
  | .set .. => none

/-- The handler gives the response back with another type. -/
def Retypes (world : σ) : Sent → Prop
  | .get type call request response => ∃ handler, handlers.handler? type .get = some handler ∧
    (handler.get call request response world).1.2.dataType ≠ response.dataType
  | _ => False

/-- As long as no use changes it, the response has this type in each of them, and the final one
after them. -/
def Typed (type : DataType) : σ → List Sent → DataType → Prop
  | _, [], final => final = type
  | world, use :: uses, final => (∀ shown, use.responseType? = some shown → shown = type) ∧
    (use.Retypes handlers world ∨ Typed type (use.replay handlers transport world) uses final)

variable {handlers transport} {type between final : DataType} {world : σ} {before : List Sent}

theorem Typed.append {uses : List Sent} (h : Typed handlers transport type world before between)
    (hnext : between = type → Typed handlers transport type
      (before.foldl (Sent.replay handlers transport) world) uses final) :
    Typed handlers transport type world (before ++ uses) final := by
  induction before generalizing world with
  | nil => exact hnext h
  | cons use before ih => exact ⟨h.1, h.2.imp_right fun hrest => ih hrest hnext⟩

/-- A use is given another type only after a use that changed it. -/
theorem Typed.shown {use : Sent} {after : List Sent} {shown : DataType}
    (h : Typed handlers transport type world (before ++ use :: after) final)
    (hshown : use.responseType? = some shown) :
    shown = type ∨ ∃ first changing rest, before = first ++ changing :: rest ∧
      changing.Retypes handlers (first.foldl (Sent.replay handlers transport) world) := by
  induction before generalizing world with
  | nil => exact .inl (h.1 shown hshown)
  | cons earlier before ih =>
    rcases h.2 with hchanges | hrest
    · exact .inr ⟨[], earlier, before, rfl, hchanges⟩
    · refine (ih hrest).imp_right ?_
      rintro ⟨first, changing, rest, rfl, hchanges⟩
      exact ⟨earlier :: first, changing, rest, rfl, hchanges⟩

end Sent

namespace Call
variable {σ : Type} (c : Call σ)

/-! ## Responses -/

theorem responseType_message (action : Action) (index : UInt16) (s : Stage σ) :
    (c.message action index s).response.dataType = s.response.dataType := by
  unfold message
  cases c.opcode <;> rfl

theorem runKernel_typed (action : Action) (index : UInt16) (s : Stage σ) :
    Sent.Typed c.handlers c.transport s.response.dataType s.world
      (c.sentToKernel? action index s).toList
      (c.runKernel action index s).2.response.dataType := by
  have hkept : (c.runKernel action index s).2.response.dataType = s.response.dataType :=
    c.runKernel_response (DataBuffer.keptByWrite_dataType _) action index rfl
  cases hsent : c.sentToKernel? action index s with
  | none => exact hkept
  | some use =>
    have hkernel : c.sent? action (.kernel index) s = some use := hsent
    rcases c.sent?_cases hkernel with ⟨other, hlane, -, rfl⟩ | ⟨_, _, hlane, -⟩
    · cases hlane
      refine ⟨fun shown hshown => ?_, .inr hkept⟩
      exact (Option.some.inj hshown).symm.trans (c.responseType_message action index s)
    · nomatch hlane

theorem runHandler_typed (action : Action) (s : Stage σ) :
    Sent.Typed c.handlers c.transport s.response.dataType s.world
      (c.sentToHandler? action s).toList (c.runHandler action s).2.response.dataType := by
  unfold runHandler sentToHandler?
  cases hhandler : c.handlers.handler? action.actionType c.opcode with
  | none => rfl
  | some handler =>
    dsimp only
    rcases action.params.expand c.participant.info.name c.primitive.tuple.qualifier with
      fault | params
    · rfl
    · dsimp only
      cases hopcode : c.opcode with
      | get =>
        rw [hopcode] at hhandler
        refine ⟨fun shown hshown => (Option.some.inj hshown).symm, ?_⟩
        by_cases hkept : (handler.get ⟨c.participant.info.devicePath, params⟩ s.request s.response
            s.world).1.2.dataType = s.response.dataType
        · exact .inr hkept
        · exact .inl ⟨handler, hhandler, hkept⟩
      | set => exact ⟨fun shown hshown => (nomatch hshown), .inr rfl⟩

theorem invoke_typed (action : Action) (lane : Lane) (s : Stage σ) :
    Sent.Typed c.handlers c.transport s.response.dataType s.world
      (c.sent? action lane s).toList (c.invoke action lane s).2.response.dataType := by
  cases lane with
  | kernel index => exact c.runKernel_typed action index s
  | handler => exact c.runHandler_typed action s

theorem attempt_typed (action : Action) (lane : Lane) (s : Stage σ) :
    Sent.Typed c.handlers c.transport s.response.dataType s.world
      (c.sentFirst? action lane s).toList (c.attempt action lane s).2.response.dataType := by
  unfold attempt sentFirst?
  rcases c.prepare action s.request with ⟨fault | _, request⟩
  · rfl
  · exact c.invoke_typed action lane { s with request }

theorem responseType_conclude (action : Action) (ran : Except Fault Unit × Stage σ) :
    (c.conclude action ran).2.response.dataType = ran.2.response.dataType :=
  c.conclude_response (DataBuffer.keptByWrite_dataType _) action rfl

theorem trial_typed (retried : Bool) (action : Action) (lane : Lane) (s : Stage σ) :
    Sent.Typed c.handlers c.transport s.response.dataType s.world
      (c.trial retried action lane s).sent
      (c.trial retried action lane s).stop.response.dataType := by
  have hattempt := c.attempt_typed action lane s
  rw [trial]
  dsimp only
  split
  · rw [responseType_conclude]
    exact hattempt
  · next needed _ =>
    rw [responseType_conclude]
    refine hattempt.append fun hkept => ?_
    have hrepeat := c.invoke_typed action lane ((c.attempt action lane s).2.enlarged needed)
    rw [← c.attempt_world action lane s, ← hkept]
    exact hrepeat

theorem run_typed (last : Fault) (retried : Bool) (actions : List (Action × Lane)) (s : Stage σ) :
    Sent.Typed c.handlers c.transport s.response.dataType s.world
      ((c.trials retried actions s).flatMap Trial.sent)
      (c.run last retried actions s).2.response.dataType := by
  induction actions generalizing last retried s with
  | nil => rfl
  | cons next rest ih =>
    obtain ⟨action, lane⟩ := next
    have htyped := c.trial_typed retried action lane s
    have hworld := c.trial_world retried action lane s
    rw [run_cons, trials_cons, List.flatMap_cons]
    generalize c.trial retried action lane s = t at htyped hworld
    refine htyped.append fun hkept => ?_
    rw [← hworld, ← hkept]
    cases houtcome : t.outcome with
    | ok u =>
      rw [if_pos (Trial.settles_of_ok houtcome)]
      rfl
    | error fault =>
      rw [Trial.settles_of_error houtcome]
      cases hinsists : t.insists with
      | true => rfl
      | false => exact ih fault (retried || t.repeated) t.stop

/-! ## Requests -/

/-- A message to read with an empty request says that there is none. -/
theorem sent?_requestType {action : Action} {lane : Lane} {s : Stage σ} {use : Sent}
    (h : c.sent? action lane s = some use) :
    use.requestType = s.request.dataType ∨ use.requestType = .void ∧ s.request.data = [] := by
  rcases c.sent?_cases h with ⟨index, -, -, rfl⟩ | ⟨_, _, -, -, -, ⟨-, rfl⟩ | ⟨-, rfl⟩⟩
  · by_cases hempty : s.request.data = []
    · unfold Sent.requestType message
      rw [hempty]
      cases c.opcode with
      | get => exact .inr ⟨rfl, rfl⟩
      | set => exact .inl rfl
    · exact .inl (Message.Request.request_make _ _ _ _ _ _ hempty).1
  · exact .inl rfl
  · exact .inl rfl

/-- Every use of a backend is given the type of the request, or else no request. -/
theorem requestType_of_mem {s : Stage σ} {t : Trial σ} {use : Sent}
    (hplain : s.request.dataType = .auto → c.requestValue = none) (ht : t ∈ c.allTrials s)
    (huse : use ∈ t.sent) :
    (use.requestType = .auto ↔ s.request.dataType = .auto) ∨
      use.requestType = .void ∧ s.request.data = [] := by
  obtain ⟨retried, htrial⟩ := c.exists_trial ht
  rw [htrial] at huse
  obtain ⟨stage, hsent, hrequest⟩ := c.exists_of_mem_sent huse
  have hprepare (action : Action) (request : DataBuffer)
      (h : request.dataType = s.request.dataType) :
      (c.prepare action request).2.dataType = s.request.dataType :=
    c.prepare_request (P := fun request => request.dataType = s.request.dataType)
      (fun request word h => (request.dataType_write _).trans h) h
  have htype : stage.request.dataType = s.request.dataType := by
    rw [hrequest]
    exact hprepare t.action t.start.request
      (c.trials_request (P := fun request => request.dataType = s.request.dataType) hprepare
        _ _ s rfl t ht).1
  rcases c.sent?_requestType hsent with hshown | ⟨hvoid, hempty⟩
  · rw [hshown, htype]
    exact .inl Iff.rfl
  · by_cases hopen : s.request.dataType = .auto
    · -- Nothing is prepared for a request whose type stays open.
      have hnone := hplain hopen
      have hstart := (c.trials_request (P := fun request => request = s.request)
        (fun action request h => by rw [c.prepare_of_none hnone]; exact h) _ _ s rfl t ht).1
      rw [hrequest, c.prepare_of_none hnone, hstart] at hempty
      exact .inr ⟨hvoid, hempty⟩
    · rw [hvoid]
      exact .inl (iff_of_false (by decide) hopen)

end Call

/-! ## What is left open -/

theorem ofCode?_getD_eq_auto_iff (code : UInt32) :
    (DataType.ofCode? code).getD .void = .auto ↔ code = DataType.auto.code := by
  constructor
  · intro h
    cases hfound : DataType.ofCode? code with
    | none =>
      rw [hfound] at h
      nomatch h
    | some type =>
      rw [hfound] at h
      obtain rfl : type = .auto := h
      have hcode := List.find?_some hfound
      exact (of_decide_eq_true hcode).symm
  · rintro rfl
    rw [DataType.ofCode?_code]
    rfl

theorem DataType.widened_eq_auto_iff (type : DataType) : type.widened = .auto ↔ type = .auto := by
  cases type <;> decide

theorem dataType_asWord_eq_auto_iff (b : DataBuffer) :
    (asWord b).dataType = .auto ↔ b.dataType = .auto := by
  unfold asWord
  split
  · next hmeasure =>
    refine iff_of_false (by simp) fun hopen => ?_
    rw [hopen] at hmeasure
    nomatch hmeasure
  · exact Iff.rfl

namespace Primitive
variable (p : Primitive)

theorem resolveRequest_eq_auto_iff (request : DataBuffer) :
    (p.resolveRequest request).dataType = .auto ↔ StaysOpen request.dataType p.requestType := by
  rw [p.dataType_resolveRequest, StaysOpen, requestDataType?]
  split
  · next hopen => rw [ofCode?_getD_eq_auto_iff, and_iff_right hopen]
  · next hsettled => exact iff_of_false hsettled fun h => hsettled h.1

theorem resolveResponse_eq_auto_iff (response : DataBuffer) :
    (p.resolveResponse response).dataType = .auto ↔ StaysOpen response.dataType p.resultType := by
  rw [p.dataType_resolveResponse, StaysOpen, resultDataType?]
  split
  · next hopen => rw [DataType.widened_eq_auto_iff, ofCode?_getD_eq_auto_iff, and_iff_right hopen]
  · next hsettled => exact iff_of_false hsettled fun h => hsettled h.1

end Primitive

/-! ## The call -/

/-- The types that a dispatch shows to its backends, in what it has sent, and to its caller. -/
structure ShowsTypes {σ : Type} (handlers : HandlerTable σ) (transport : Transport σ)
    (primitive : Primitive) (request response : DataBuffer) (world : σ) (d : Dispatched σ)
    (sent : List Sent) : Prop where
  request_back : d.request.dataType = .auto ↔
    StaysOpen request.dataType primitive.requestType
  response_back : d.response.dataType = .auto ↔
    StaysOpen response.dataType primitive.resultType
  /-- A message to read with an empty request says that there is none. -/
  requests_sent : ∀ use ∈ sent,
    (use.requestType = .auto ↔ StaysOpen request.dataType primitive.requestType) ∨
      use.requestType = .void ∧ request.data = []
  /-- A use is given another type only after a handler has changed it. -/
  responses_sent : ∀ before use after shown, sent = before ++ use :: after →
    use.responseType? = some shown →
      (shown = .auto ↔ StaysOpen response.dataType primitive.resultType) ∨
        ∃ first changing rest, before = first ++ changing :: rest ∧
          changing.Retypes handlers (first.foldl (Sent.replay handlers transport) world)

section
variable {σ : Type} {i : Invocation} {participants : ParticipantTable} {participant : Participant}
  {profile : Profile} {primitive : Primitive}

theorem returned_types (hfound : i.find participants = .ok (participant, profile, primitive))
    (handlers : HandlerTable σ) (transport : Transport σ) (request response : DataBuffer)
    (world : σ) :
    let d := dispatch handlers transport participants i request response world
    (d.request.dataType = .auto ↔ StaysOpen request.dataType primitive.requestType) ∧
      (d.response.dataType = .auto ↔ StaysOpen response.dataType primitive.resultType) := by
  have hrequest :=
    (request_dispatch handlers transport participants i request response world).2
  rw [Invocation.primitive?_of_ok hfound] at hrequest
  dsimp only
  rw [hrequest.trans (primitive.dataType_resolveRequest request).symm,
    responseType_of_found hfound]
  exact ⟨primitive.resolveRequest_eq_auto_iff request,
    primitive.resolveResponse_eq_auto_iff response⟩

theorem dispatch_recorded_of_valueless {fault : Fault}
    (hfound : i.find participants = .ok (participant, profile, primitive)) {request : DataBuffer}
    (hvalue : requestValue (primitive.resolveRequest request) = .error fault)
    (handlers : HandlerTable σ) (transport : Transport σ) (response : DataBuffer) (world : σ) :
    dispatch handlers.recorded (Transport.recorded transport) participants i request response
        (world, []) =
      (dispatch handlers transport participants i request response world).recorded [] := by
  rw [dispatch_of_valueless hfound hvalue, dispatch_of_valueless hfound hvalue]
  rfl

end

/-- In every call that finds its primitive, a type that its caller left open is shown as open just
when the package declares it so; every other number that a package may declare settles it. -/
theorem dispatch_shows_types {σ : Type} {i : Invocation} {participants : ParticipantTable}
    {participant : Participant} {profile : Profile} {primitive : Primitive}
    (hfound : i.find participants = .ok (participant, profile, primitive))
    (handlers : HandlerTable σ) (transport : Transport σ) (request response : DataBuffer)
    (world : σ) :
    let d := dispatch handlers transport participants i request response world
    ∃ sent, dispatch handlers.recorded (Transport.recorded transport) participants i request
        response (world, []) = d.recorded sent ∧
      ShowsTypes handlers transport primitive request response world d sent := by
  intro d
  obtain ⟨hrequest, hresponse⟩ :=
    returned_types hfound handlers transport request response world
  cases hvalue : requestValue (primitive.resolveRequest request) with
  | error fault =>
    refine ⟨[], dispatch_recorded_of_valueless hfound hvalue handlers transport response world,
      hrequest, hresponse, fun use huse => absurd huse List.not_mem_nil,
      fun before use after shown hsent _ => ?_⟩
    exact absurd hsent.symm (List.append_ne_nil_of_right_ne_nil _ (List.cons_ne_nil _ _))
  | ok value =>
    have h : Reaches i participants request participant profile primitive value :=
      ⟨hfound, hvalue⟩
    let c := primitive.call handlers transport participant profile response value
    let s := primitive.stage request response world
    have hopen : s.request.dataType = .auto ↔
        StaysOpen request.dataType primitive.requestType :=
      (dataType_asWord_eq_auto_iff _).trans (primitive.resolveRequest_eq_auto_iff request)
    have hplain : s.request.dataType = .auto → c.requestValue = none := by
      intro htype
      rw [requestValue, (dataType_asWord_eq_auto_iff _).mp htype] at hvalue
      exact (Except.ok.inj hvalue).symm
    have hopen' : s.response.dataType = .auto ↔
        StaysOpen response.dataType primitive.resultType :=
      (dataType_asWord_eq_auto_iff _).trans (primitive.resolveResponse_eq_auto_iff response)
    refine ⟨_, dispatch_recorded h handlers transport response world [], hrequest, hresponse,
      fun use huse => ?requests, fun before use after shown hsent hshown => ?responses⟩
    case requests =>
      obtain ⟨t, ht, huse⟩ := List.mem_flatMap.mp huse
      have hdata : s.request.data = request.data :=
        (data_asWord _).trans (primitive.data_resolveRequest request)
      rw [← hopen, ← hdata]
      exact c.requestType_of_mem hplain ht huse
    case responses =>
      have htyped := c.run_typed (.unsupportedActionType 0) false (lanes 0 c.primitive.actions) s
      rw [List.nil_append] at hsent
      rw [← Call.allTrials, hsent] at htyped
      refine (htyped.shown hshown).imp_left fun heq => ?_
      rw [heq]
      exact hopen'

namespace Sample

/-- A handler that never answers in time. -/
def busy : HandlerTable Unit :=
  ⟨[(.sysfs,
    { name := "SYSFS", directions := .getOnly
      handler :=
        { get := fun _ _ response world => ((.error (.timeout "SYSFS"), response), world)
          set := fun _ _ world => (.error (.timeout "SYSFS"), world) } })]⟩

theorem not_retypes_busy (world : Unit) (use : Sent) : ¬ use.Retypes busy world := by
  cases use with
  | message m => exact id
  | set type call request => exact id
  | get type call request response =>
    rintro ⟨handler, hhandler, hchanged⟩
    obtain ⟨entry, hentry, hserves⟩ := Option.bind_eq_some_iff.mp hhandler
    cases List.mem_singleton.mp (Table.mem_of_get? hentry)
    obtain rfl := Option.some.inj hserves
    exact hchanged rfl

/-- A read that leaves both types open, with the kernel side behind a handler. -/
def openRead (participants : ParticipantTable) : Dispatched Unit :=
  dispatch busy (reply warm) participants getTemperature (.ofBytes .auto [1, 2, 3, 4])
    (.allocate .auto) ()

def recordedRead (participants : ParticipantTable) : Dispatched (Unit × List Sent) :=
  dispatch busy.recorded (Transport.recorded (reply warm)) participants getTemperature
    (.ofBytes .auto [1, 2, 3, 4]) (.allocate .auto) ((), [])

theorem declared_getTemperature :
    (primitive getTemperature).requestType = DataType.void.code ∧
      (primitive getTemperature).resultType = DataType.temperature.code := by
  rw [primitive, profile_eq]
  decide

/-- The package settles both types, so that neither backend and no caller sees an open one. -/
theorem types_settled :
    getTemperature.find participants = .ok (participant, profile, primitive getTemperature) ∧
    ∃ sent, recordedRead participants = (openRead participants).recorded sent ∧
      sent.length = 2 ∧ (openRead participants).result = .ok () ∧
      (openRead participants).request.dataType ≠ .auto ∧
      (openRead participants).response.dataType ≠ .auto ∧
      ∀ use ∈ sent, use.requestType ≠ .auto ∧ use.responseType? ≠ some .auto := by
  have hfound : getTemperature.find participants =
      .ok (participant, profile, primitive getTemperature) := reaches_getTemperature.found
  have hrequest (entry : DataType) :
      ¬ StaysOpen entry (primitive getTemperature).requestType :=
    fun h => absurd (declared_getTemperature.1.symm.trans h.2) (by decide)
  have hresponse (entry : DataType) :
      ¬ StaysOpen entry (primitive getTemperature).resultType :=
    fun h => absurd (declared_getTemperature.2.symm.trans h.2) (by decide)
  obtain ⟨sent, hsent, hshows⟩ : ∃ sent,
      recordedRead participants = (openRead participants).recorded sent ∧
        ShowsTypes busy (reply warm) (primitive getTemperature) (.ofBytes .auto [1, 2, 3, 4])
          (.allocate .auto) () (openRead participants) sent :=
    dispatch_shows_types hfound busy (reply warm) (.ofBytes .auto [1, 2, 3, 4]) (.allocate .auto) ()
  obtain ⟨hlength, hran⟩ : (recordedRead participants).world.2.length = 2 ∧
      (openRead participants).result.isOk = true := by
    rw [participants, participant, profile_eq]
    decide
  rw [hsent] at hlength
  refine ⟨hfound, sent, hsent, hlength, done_of_isOk hran,
    fun hopen => hrequest _ (hshows.request_back.mp hopen),
    fun hopen => hresponse _ (hshows.response_back.mp hopen),
    fun use huse => ⟨fun hopen => ?_, fun hopen => ?_⟩⟩
  · rcases hshows.requests_sent use huse with hiff | ⟨hvoid, -⟩
    · exact hrequest _ (hiff.mp hopen)
    · nomatch hvoid.symm.trans hopen
  · obtain ⟨before, after, rfl⟩ := List.append_of_mem huse
    rcases hshows.responses_sent before use after _ rfl hopen with
      hiff | ⟨_, changing, _, -, hchanges⟩
    · exact hresponse _ (hiff.mp rfl)
    · exact not_retypes_busy _ changing hchanges

/-- A package that declares the types of its primitive open. -/
def openPackage : PackageSpec where
  descriptor := { code := "demo" }
  domains :=
    [{ name := "CPU", qualifier := "D0"
       primitives :=
        [{ opcode := .get, tuple := Tuple.ofQualifier PrimitiveId.getTemperature "D0" 255
           requestType := DataType.auto.code, resultType := DataType.auto.code
           actions :=
            [{ actionType := .sysfs, isKernel := false },
              { actionType := .msr, isKernel := true }] }] }]

def openImage : List UInt8 := Package.encode openPackage

def openProfile : Profile := (Package.decode openImage).toOption.getD default

def openParticipants : ParticipantTable :=
  ⟨[{ participant with bound := some (default, openProfile) }]⟩

theorem storable_openPackage : openPackage.Storable := by decide

theorem openProfile_eq : openProfile = openPackage.decoded :=
  Package.getD_decode_encode storable_openPackage

theorem decode_openImage : Package.decode openImage = .ok openProfile := by
  rw [openProfile_eq]
  exact Package.decode_encode_eq storable_openPackage

/-- With such a package the open types cross to a handler and to the kernel side, and come back
from a call that has succeeded. -/
theorem open_types_cross :
    Package.decode openImage = .ok openProfile ∧
      (openRead openParticipants).result = .ok () ∧
      (openRead openParticipants).request.dataType = .auto ∧
      (openRead openParticipants).response.dataType = .auto ∧
      (recordedRead openParticipants).world.2.map
          (fun use => (use.requestType, use.responseType?)) =
        [(.auto, some .auto), (.auto, some .auto)] := by
  have hran : (openRead openParticipants).result.isOk = true ∧
      (openRead openParticipants).request.dataType = .auto ∧
      (openRead openParticipants).response.dataType = .auto ∧
      (recordedRead openParticipants).world.2.map
          (fun use => (use.requestType, use.responseType?)) =
        [(.auto, some .auto), (.auto, some .auto)] := by
    rw [openParticipants, openProfile_eq]
    decide
  exact ⟨decode_openImage, done_of_isOk hran.1, hran.2⟩

end Sample

end DeviceSupport
