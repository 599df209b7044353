import DeviceSupport.Proofs.Dispatch.Request
import DeviceSupport.Proofs.Package.RoundTrip

/-! From a dispatch to its run, and back.

A dispatch `Reaches` its actions when the primitive is found and the request holds the value that
its type asks for. Then the dispatch is the run of one call from one stage (`dispatch_of_reaches`),
and giving the request its value back cannot fail (`restoreRequest_run`), so that the dispatch
comes to what the trials come to. -/
namespace DeviceSupport
set_option autoImplicit false

structure Reaches (i : Invocation) (participants : ParticipantTable) (request : DataBuffer)
    (participant : Participant) (profile : Profile) (primitive : Primitive)
    (value : Option (Measure × UInt32)) : Prop where
  found : i.find participants = .ok (participant, profile, primitive)
  valued : requestValue (primitive.resolveRequest request) = .ok value

theorem Primitive.resolveRequest_of_ne (p : Primitive) {request : DataBuffer}
    (h : request.dataType ≠ .auto) : p.resolveRequest request = request := if_neg h

theorem Primitive.dataType_resolveResponse (p : Primitive) (response : DataBuffer) :
    (p.resolveResponse response).dataType =
      if response.dataType = .auto then (p.resultDataType?.getD .void).widened
      else response.dataType := by
  unfold resolveResponse
  by_cases hopen : response.dataType = .auto
  · rw [if_pos hopen, if_pos hopen]
    dsimp only
    split <;> rfl
  · rw [if_neg hopen, if_neg hopen]
    dsimp only
    split <;> rfl

/-- What is found is a primitive of the profile. -/
theorem Invocation.mem_of_find {i : Invocation} {participants : ParticipantTable}
    {participant : Participant} {profile : Profile} {primitive : Primitive}
    (h : i.find participants = .ok (participant, profile, primitive)) :
    primitive ∈ profile.primitives.toList := by
  unfold find at h
  split at h
  · nomatch h
  split at h
  · nomatch h
  split at h
  · nomatch h
  · next hfound =>
    cases h
    obtain ⟨position, -, hget⟩ := Option.bind_eq_some_iff.mp hfound
    exact Array.mem_toList_iff.mpr (Array.mem_of_getElem? hget)

theorem Invocation.find_of_bound {i : Invocation} {participants : ParticipantTable}
    {participant : Participant} {id : ProfileId} {profile : Profile}
    (hparticipant : participants.find? i.participant = some participant)
    (hbound : participant.bound = some (id, profile))
    (hprimitive : (profile.primitive? i.tuple).isSome = true) :
    i.find participants =
      .ok (participant, profile, (profile.primitive? i.tuple).getD default) := by
  obtain ⟨primitive, hfound⟩ := Option.isSome_iff_exists.mp hprimitive
  rw [find, hparticipant]
  simp only [hbound, hfound, Option.getD_some]

section
variable {σ : Type}

/-- The call that a dispatch makes. -/
def Primitive.call (primitive : Primitive) (handlers : HandlerTable σ) (transport : Transport σ)
    (participant : Participant) (profile : Profile) (response : DataBuffer)
    (value : Option (Measure × UInt32)) : Call σ :=
  { handlers, transport, participant, profile, primitive
    typeOpen := response.dataType = .auto
    requestValue := value
    responseMeasure := Measure.ofType? (primitive.resolveResponse response).dataType }

theorem Primitive.opcode_call (primitive : Primitive) (handlers : HandlerTable σ)
    (transport : Transport σ) (participant : Participant) (profile : Profile)
    (response : DataBuffer) (value : Option (Measure × UInt32)) :
    (primitive.call handlers transport participant profile response value).opcode =
      primitive.opcode := rfl

/-- Where the actions of a dispatch start from. -/
def Primitive.stage (primitive : Primitive) (request response : DataBuffer) (world : σ) :
    Stage σ :=
  ⟨asWord (primitive.resolveRequest request), asWord (primitive.resolveResponse response), world⟩

theorem dispatch_of_reaches {i : Invocation} {participants : ParticipantTable}
    {request : DataBuffer} {participant : Participant} {profile : Profile} {primitive : Primitive}
    {value : Option (Measure × UInt32)}
    (h : Reaches i participants request participant profile primitive value)
    (handlers : HandlerTable σ) (transport : Transport σ) (response : DataBuffer) (world : σ) :
    dispatch handlers transport participants i request response world =
      (runPrimitive (primitive.call handlers transport participant profile response value)
        (primitive.resolveRequest request) (primitive.resolveResponse response)
        world).clearFailed := by
  rw [dispatch, h.found]
  dsimp only
  rw [h.valued]
  rfl

/-- Without a value in its request, a call tries no action. -/
theorem dispatch_of_valueless {i : Invocation} {participants : ParticipantTable}
    {request : DataBuffer} {participant : Participant} {profile : Profile} {primitive : Primitive}
    {fault : Fault} (hfound : i.find participants = .ok (participant, profile, primitive))
    (hvalue : requestValue (primitive.resolveRequest request) = .error fault)
    (handlers : HandlerTable σ) (transport : Transport σ) (response : DataBuffer) (world : σ) :
    dispatch handlers transport participants i request response world =
      (Dispatched.failed fault (primitive.resolveRequest request)
        (primitive.resolveResponse response) world).clearFailed := by
  rw [dispatch, hfound]
  dsimp only
  rw [hvalue]

/-! ## After the run -/

/-- A request that held a value has room for it. -/
theorem restoreRequest_ok {dataType : DataType} {value : Option (Measure × UInt32)}
    {request : DataBuffer} (h : value.isSome = true → 4 ≤ request.capacity) :
    (restoreRequest dataType value request).1 = .ok () := by
  cases value with
  | none => rfl
  | some value => exact DataBuffer.writeUInt32_ok _ (h rfl)

theorem capacity_of_requestValue {request : DataBuffer} {value : Option (Measure × UInt32)}
    (h : requestValue request = .ok value) : value.isSome = true → 4 ≤ request.capacity := by
  intro hsome
  unfold requestValue at h
  split at h
  · cases h
    nomatch hsome
  · split at h
    · next hword => exact request.uint32?_isSome_iff.mp (hword ▸ rfl)
    · nomatch h

theorem capacity_asWord (b : DataBuffer) : (asWord b).capacity = b.capacity := by
  unfold asWord
  split <;> rfl

/-- A call that reaches its actions has room for the value of its request. -/
theorem Reaches.room {i : Invocation} {participants : ParticipantTable} {request : DataBuffer}
    {participant : Participant} {profile : Profile} {primitive : Primitive}
    {value : Option (Measure × UInt32)}
    (h : Reaches i participants request participant profile primitive value)
    (response : DataBuffer) (world : σ) :
    value.isSome = true → 4 ≤ (primitive.stage request response world).request.capacity :=
  fun hsome => (capacity_asWord _).symm ▸ capacity_of_requestValue h.valued hsome

theorem Dispatched.result_clearFailed (d : Dispatched σ) : d.clearFailed.result = d.result := by
  unfold clearFailed
  split <;> rfl

theorem restoreRequest_run (c : Call σ) (request response : DataBuffer) (world : σ)
    (h : c.requestValue.isSome = true → 4 ≤ request.capacity) :
    (restoreRequest request.dataType c.requestValue
      (c.runAll ⟨asWord request, asWord response, world⟩).2.request).1 = .ok () := by
  refine restoreRequest_ok fun hsome => ?_
  rw [c.capacity_run]
  exact (capacity_asWord request).symm ▸ h hsome

theorem result_runPrimitive (c : Call σ) (request response : DataBuffer) (world : σ)
    (h : c.requestValue.isSome = true → 4 ≤ request.capacity) :
    (runPrimitive c request response world).result =
      (c.runAll ⟨asWord request, asWord response, world⟩).1.map fun _ => () := by
  have hrestored := restoreRequest_run c request response world h
  unfold runPrimitive
  dsimp only
  rw [hrestored]
  rcases (c.runAll ⟨asWord request, asWord response, world⟩).1 with fault | action
  · rfl
  · rfl

/-- A dispatch comes to what its trials come to. -/
theorem result_dispatch {i : Invocation} {participants : ParticipantTable} {request : DataBuffer}
    {participant : Participant} {profile : Profile} {primitive : Primitive}
    {value : Option (Measure × UInt32)}
    (h : Reaches i participants request participant profile primitive value)
    (handlers : HandlerTable σ) (transport : Transport σ) (response : DataBuffer) (world : σ) :
    (dispatch handlers transport participants i request response world).result =
      (Call.answer (.unsupportedActionType 0)
        ((primitive.call handlers transport participant profile response value).allTrials
          (primitive.stage request response world))).map fun _ => () := by
  rw [dispatch_of_reaches h, Dispatched.result_clearFailed,
    result_runPrimitive _ _ _ _ (capacity_of_requestValue h.valued), Call.runAll, Call.run_eq]
  rfl

theorem Dispatched.clearFailed_of_ok {d : Dispatched σ} (h : d.result = .ok ()) :
    d.clearFailed = d := by
  rw [clearFailed, h]

theorem Call.runAll_stage {c : Call σ} {s : Stage σ} {t : Trial σ}
    (h : (c.allTrials s).getLast? = some t) : (c.runAll s).2 = t.stop := by
  have hlast : (c.trials false (lanes 0 c.primitive.actions) s).getLast? = some t := h
  rw [runAll, run_eq, hlast]
  rfl

/-- The action that succeeds leaves the response that the caller gets back. -/
theorem dispatch_of_success {i : Invocation} {participants : ParticipantTable}
    {request : DataBuffer} {participant : Participant} {profile : Profile} {primitive : Primitive}
    {value : Option (Measure × UInt32)}
    (h : Reaches i participants request participant profile primitive value)
    {handlers : HandlerTable σ} {transport : Transport σ} {response : DataBuffer} {world : σ}
    {t : Trial σ}
    (hlast : ((primitive.call handlers transport participant profile response value).allTrials
      (primitive.stage request response world)).getLast? = some t)
    (hok : t.outcome = .ok ()) :
    (dispatch handlers transport participants i request response world).result = .ok () ∧
      (dispatch handlers transport participants i request response world).response =
        { t.stop.response with dataType := (primitive.resolveResponse response).dataType } := by
  have hresult := (result_dispatch h handlers transport response world).trans
    ((Call.answer_of_last hlast).trans hok)
  refine ⟨hresult, ?_⟩
  rw [dispatch_of_reaches h, Dispatched.result_clearFailed] at hresult
  rw [dispatch_of_reaches h, Dispatched.clearFailed_of_ok hresult]
  exact congrArg (fun s : Stage σ => { s.response with
    dataType := (primitive.resolveResponse response).dataType }) (Call.runAll_stage hlast)

/-! ## The record of a dispatch -/

def Dispatched.recorded (d : Dispatched σ) (log : List Sent) : Dispatched (σ × List Sent) :=
  { result := d.result, request := d.request, response := d.response, world := (d.world, log)
    notice := d.notice }

theorem Dispatched.recorded_clearFailed (d : Dispatched σ) (log : List Sent) :
    (d.recorded log).clearFailed = d.clearFailed.recorded log := by
  obtain ⟨fault | _, request, response, world, notice⟩ := d
  · rfl
  · rfl

theorem runPrimitive_recorded (c : Call σ) (request response : DataBuffer) (world : σ)
    (log : List Sent) :
    runPrimitive c.recorded request response (world, log) =
      (runPrimitive c request response world).recorded
        (log ++ (c.allTrials ⟨asWord request, asWord response, world⟩).flatMap Trial.sent) := by
  have hrun := c.run_recorded (.unsupportedActionType 0) false (lanes 0 c.primitive.actions)
    ⟨asWord request, asWord response, world⟩ log
  have hall : c.recorded.runAll ⟨asWord request, asWord response, (world, log)⟩ = _ := hrun
  unfold runPrimitive
  rw [hall]
  rfl

/-- Keeping a record changes nothing else, and the record holds what the trials sent. -/
theorem dispatch_recorded {i : Invocation} {participants : ParticipantTable}
    {request : DataBuffer} {participant : Participant} {profile : Profile} {primitive : Primitive}
    {value : Option (Measure × UInt32)}
    (h : Reaches i participants request participant profile primitive value)
    (handlers : HandlerTable σ) (transport : Transport σ) (response : DataBuffer) (world : σ)
    (log : List Sent) :
    dispatch handlers.recorded (Transport.recorded transport) participants i request response
        (world, log) =
      (dispatch handlers transport participants i request response world).recorded
        (log ++
          ((primitive.call handlers transport participant profile response value).allTrials
            (primitive.stage request response world)).flatMap Trial.sent) := by
  rw [dispatch_of_reaches h, dispatch_of_reaches h, ← Dispatched.recorded_clearFailed]
  exact congrArg Dispatched.clearFailed (runPrimitive_recorded
    (primitive.call handlers transport participant profile response value) _ _ _ _)

end

/-! ## A sample

A processor whose temperature is read by a handler or else on the kernel side, and whose passive
trip point is set by a handler. Only the kernel side's unit is known. -/

namespace Sample

def package : PackageSpec where
  descriptor := { code := "demo" }
  domains :=
    [{ name := "CPU", qualifier := "D0"
       primitives :=
        [{ opcode := .get, tuple := Tuple.ofQualifier PrimitiveId.getTemperature "D0" 255
           requestType := DataType.void.code, resultType := DataType.temperature.code
           actions :=
            [{ actionType := .sysfs, isKernel := false },
              { actionType := .msr, isKernel := true }] },
          { opcode := .set, tuple := Tuple.ofQualifier PrimitiveId.setTripPointPassive "D0" 255
            requestType := DataType.temperature.code, resultType := DataType.void.code
            actions := [{ actionType := .sysfs, isKernel := false }] }] }]
  algorithms :=
    [{ actionType := .msr, temperature := ConversionKind.temperatureDeciKelvin.code }]

def image : List UInt8 := Package.encode package

def profile : Profile := (Package.decode image).toOption.getD default

def participant : Participant where
  id := 1
  info := ⟨"TCPU", "", .platform "" ""⟩
  bound := some (default, profile)

def participants : ParticipantTable := ⟨[participant]⟩

def getTemperature : Invocation := ⟨1, PrimitiveId.getTemperature, "D0", 255⟩

def setTripPoint : Invocation := ⟨1, PrimitiveId.setTripPointPassive, "D0", 255⟩

def primitive (i : Invocation) : Primitive := (profile.primitive? i.tuple).getD default

theorem storable_package : package.Storable := by decide

/-- The profile in a form that is evaluated without decoding. -/
theorem profile_eq : profile = package.decoded := Package.getD_decode_encode storable_package

theorem decode_image : Package.decode image = .ok profile := by
  rw [profile_eq]
  exact Package.decode_encode_eq storable_package

theorem find_sample {i : Invocation} (hparticipant : i.participant = 1)
    (hprimitive : (profile.primitive? i.tuple).isSome = true) :
    i.find participants = .ok (participant, profile, primitive i) :=
  Invocation.find_of_bound (hparticipant ▸ rfl) rfl hprimitive

theorem reaches_getTemperature : Reaches getTemperature participants .void participant profile
    (primitive getTemperature) none := by
  refine ⟨find_sample rfl (profile_eq ▸ by decide), ?_⟩
  rw [Primitive.resolveRequest_of_ne _ (by decide)]
  rfl

/-- A kernel side that answers everything with these bytes. -/
def reply (data : List UInt8) : Transport Unit := fun _ world => (.ok (.ok data), world)

/-- Twenty degrees in tenths of a kelvin. -/
def warm : List UInt8 := [0x73, 0x0b, 0, 0]

end Sample

end DeviceSupport
