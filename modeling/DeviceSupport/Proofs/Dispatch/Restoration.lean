import DeviceSupport.Proofs.Dispatch.Entry

/-! What a dispatch leaves of the buffers that its caller gave it.

Trying an action writes at most the first word of the request, so that giving the caller's word back
restores all of it; the types of both buffers are settled before the run and put back after it.
`dispatch_exits` lists the ways out of a dispatch, and `dispatch_restores` says what holds at each
of them. -/
namespace DeviceSupport
set_option autoImplicit false

/-! ## Words of a buffer -/

namespace LittleEndian

theorem encode_decode (bytes : List UInt8) : encode bytes.length (decode bytes) = bytes := by
  induction bytes with
  | nil => rfl
  | cons b bytes ih =>
    have hb : b.toNat < 256 := b.toNat_lt
    have hlow : (b.toNat + 256 * decode bytes) % 256 = b.toNat := by omega
    have hhigh : (b.toNat + 256 * decode bytes) / 256 = decode bytes := by omega
    rw [List.length_cons, decode, encode, hlow, hhigh, ih, UInt8.ofNat_toNat]

theorem ofUInt32_toUInt32 {bytes : List UInt8} (h : bytes.length = 4) :
    ofUInt32 (toUInt32 bytes) = bytes := by
  have hlt : decode bytes < 4294967296 := by
    have hpow := decode_lt bytes
    rw [h] at hpow
    exact hpow
  rw [ofUInt32, toUInt32, UInt32.toNat_ofNat_of_lt' hlt, ← h, encode_decode]

end LittleEndian

namespace DataBuffer

/-- Two buffers that differ in their first word at most, besides type and length. -/
structure SameBehind (b entry : DataBuffer) : Prop where
  capacity : b.capacity = entry.capacity
  behind : b.bytes.drop 4 = entry.bytes.drop 4

theorem SameBehind.refl (b : DataBuffer) : b.SameBehind b := ⟨rfl, rfl⟩

theorem SameBehind.writeUInt32 {b entry : DataBuffer} (h : b.SameBehind entry) (value : UInt32) :
    (b.writeUInt32 value).2.SameBehind entry := by
  have hlen : (LittleEndian.ofUInt32 value).length = 4 := LittleEndian.length_encode 4 value.toNat
  refine ⟨(b.capacity_writeUInt32 value).trans h.capacity, ?_⟩
  rcases Nat.lt_or_ge b.capacity 4 with hlt | hle
  · rw [DataBuffer.writeUInt32, write_of_lt (hlen.symm ▸ hlt)]
    exact h.behind
  · rw [writeUInt32_of_le value hle]
    dsimp only
    rw [List.drop_left' hlen]
    exact h.behind

/-- Writing the word that a buffer held restores its bytes. -/
theorem SameBehind.restore {b entry : DataBuffer} {value : UInt32} (h : b.SameBehind entry)
    (hvalue : entry.uint32? = some value) : (b.writeUInt32 value).2.bytes = entry.bytes := by
  have hroom : 4 ≤ entry.capacity := (uint32?_isSome_iff entry).mp (hvalue ▸ rfl)
  have hword : LittleEndian.toUInt32 (entry.bytes.take 4) = value := by
    rw [uint32?_of_le hroom] at hvalue
    exact Option.some.inj hvalue
  rw [writeUInt32_of_le value (h.capacity ▸ hroom), ← hword,
    LittleEndian.ofUInt32_toUInt32 (List.length_take_of_le hroom)]
  dsimp only
  rw [h.behind, List.take_append_drop]

end DataBuffer

/-! ## The run -/

namespace Call
variable {σ : Type}

theorem prepare_sameBehind (c : Call σ) (action : Action) {request entry : DataBuffer}
    (h : request.SameBehind entry) : (c.prepare action request).2.SameBehind entry :=
  c.prepare_request (P := fun prepared => prepared.SameBehind entry)
    (fun _ word hsame => hsame.writeUInt32 word) h

theorem runAll_request_of_none (c : Call σ) (s : Stage σ) (h : c.requestValue = none) :
    (c.runAll s).2.request = s.request := by
  refine c.run_request (P := fun request => request = s.request) (fun action request heq => ?_)
    _ _ _ s rfl
  rw [c.prepare_of_none h]
  exact heq

theorem runAll_sameBehind (c : Call σ) (s : Stage σ) :
    (c.runAll s).2.request.SameBehind s.request :=
  c.run_request (P := fun request => request.SameBehind s.request)
    (fun action _ h => c.prepare_sameBehind action h) _ _ _ s (DataBuffer.SameBehind.refl _)

end Call

theorem bytes_asWord (b : DataBuffer) : (asWord b).bytes = b.bytes := by
  unfold asWord
  split <;> rfl

theorem data_asWord (b : DataBuffer) : (asWord b).data = b.data := by
  unfold asWord
  split <;> rfl

theorem uint32?_asWord (b : DataBuffer) : (asWord b).uint32? = b.uint32? := by
  unfold DataBuffer.uint32? DataBuffer.capacity
  rw [bytes_asWord]

theorem dataType_restoreRequest (dataType : DataType) (value : Option (Measure × UInt32))
    (request : DataBuffer) : (restoreRequest dataType value request).2.dataType = dataType := by
  unfold restoreRequest
  dsimp only
  split
  · exact DataBuffer.dataType_write _ _
  · rfl

theorem uint32?_of_requestValue {request : DataBuffer} {measure : Measure} {word : UInt32}
    (h : requestValue request = .ok (some (measure, word))) :
    Measure.ofType? request.dataType = some measure ∧ request.uint32? = some word := by
  unfold requestValue at h
  split at h
  · nomatch h
  · next hmeasure =>
    split at h
    · next hword =>
      cases h
      exact ⟨hmeasure, hword⟩
    · nomatch h

section
variable {σ : Type}

/-- The request comes out of a run with the bytes that it went in with. -/
theorem bytes_restoreRequest (c : Call σ) {request : DataBuffer} (response : DataBuffer) (world : σ)
    (h : requestValue request = .ok c.requestValue) :
    (restoreRequest request.dataType c.requestValue
      (c.runAll ⟨asWord request, response, world⟩).2.request).2.bytes = request.bytes := by
  cases hvalue : c.requestValue with
  | none =>
    have hsame := c.runAll_request_of_none ⟨asWord request, response, world⟩ hvalue
    rw [hsame]
    exact bytes_asWord request
  | some value =>
    obtain ⟨measure, word⟩ := value
    rw [hvalue] at h
    obtain ⟨-, hword⟩ := uint32?_of_requestValue h
    have hbehind := c.runAll_sameBehind ⟨asWord request, response, world⟩
    have htyped : { (c.runAll ⟨asWord request, response, world⟩).2.request with
        dataType := request.dataType }.SameBehind (asWord request) :=
      ⟨hbehind.capacity, hbehind.behind⟩
    rw [← uint32?_asWord] at hword
    exact (htyped.restore hword).trans (bytes_asWord request)

/-! ## The ways out -/

/-- A dispatch finds no primitive, or finds no value in the request, or reaches the actions. -/
theorem dispatch_exits (handlers : HandlerTable σ) (transport : Transport σ)
    (participants : ParticipantTable) (i : Invocation) (request response : DataBuffer) (world : σ) :
    (∃ fault, i.find participants = .error fault ∧
      dispatch handlers transport participants i request response world =
        (Dispatched.failed fault request response world).clearFailed) ∨
    (∃ participant profile primitive fault,
      i.find participants = .ok (participant, profile, primitive) ∧
      dispatch handlers transport participants i request response world =
        (Dispatched.failed fault (primitive.resolveRequest request)
          (primitive.resolveResponse response) world).clearFailed) ∨
    ∃ participant profile primitive value,
      Reaches i participants request participant profile primitive value := by
  rcases hfound : i.find participants with fault | ⟨participant, profile, primitive⟩
  · refine .inl ⟨fault, rfl, ?_⟩
    rw [dispatch, hfound]
  rcases hvalue : requestValue (primitive.resolveRequest request) with fault | value
  · exact .inr (.inl ⟨participant, profile, primitive, fault, rfl,
      dispatch_of_valueless hfound hvalue handlers transport response world⟩)
  · exact .inr (.inr ⟨participant, profile, primitive, value, hfound, hvalue⟩)

theorem reaches_of_ok {handlers : HandlerTable σ} {transport : Transport σ}
    {participants : ParticipantTable} {i : Invocation} {request response : DataBuffer} {world : σ}
    (hok : (dispatch handlers transport participants i request response world).result = .ok ()) :
    ∃ participant profile primitive value,
      Reaches i participants request participant profile primitive value := by
  rcases dispatch_exits handlers transport participants i request response world with
    ⟨_, -, hdispatch⟩ | ⟨_, _, _, _, -, hdispatch⟩ | hreaches
  · rw [hdispatch] at hok
    nomatch hok
  · rw [hdispatch] at hok
    nomatch hok
  · exact hreaches

end

/-! ## After the call -/

/-- The primitive that a call is for, if it is found. -/
def Invocation.primitive? (i : Invocation) (participants : ParticipantTable) : Option Primitive :=
  (i.find participants).toOption.map fun found => found.2.2

theorem Invocation.primitive?_of_ok {i : Invocation} {participants : ParticipantTable}
    {participant : Participant} {profile : Profile} {primitive : Primitive}
    (h : i.find participants = .ok (participant, profile, primitive)) :
    i.primitive? participants = some primitive := by
  rw [primitive?, h]
  rfl

theorem Invocation.primitive?_of_error {i : Invocation} {participants : ParticipantTable}
    {fault : Fault} (h : i.find participants = .error fault) : i.primitive? participants = none := by
  rw [primitive?, h]
  rfl

/-- The type that a buffer has after a call: one left open is settled by the primitive, if that is
found. -/
def settledType (found : Option Primitive) (declared : Primitive → DataType) (entry : DataType) :
    DataType :=
  match found with
  | some primitive => if entry = .auto then declared primitive else entry
  | none => entry

theorem Primitive.dataType_resolveRequest (p : Primitive) (request : DataBuffer) :
    (p.resolveRequest request).dataType =
      if request.dataType = .auto then p.requestDataType?.getD .void else request.dataType := by
  unfold resolveRequest
  split <;> rfl

theorem Primitive.bytes_resolveRequest (p : Primitive) (request : DataBuffer) :
    (p.resolveRequest request).bytes = request.bytes := by
  unfold resolveRequest
  split <;> rfl

theorem Primitive.data_resolveRequest (p : Primitive) (request : DataBuffer) :
    (p.resolveRequest request).data = request.data := by
  unfold resolveRequest
  split <;> rfl

namespace Dispatched
variable {σ : Type}

theorem request_clearFailed (d : Dispatched σ) : d.clearFailed.request = d.request := by
  unfold clearFailed
  split <;> rfl

theorem responseType_clearFailed (d : Dispatched σ) :
    d.clearFailed.response.dataType = d.response.dataType := by
  unfold clearFailed
  split <;> rfl

end Dispatched

section
variable {σ : Type} (handlers : HandlerTable σ) (transport : Transport σ)
  (participants : ParticipantTable) (i : Invocation) (request response : DataBuffer) (world : σ)

theorem request_dispatch :
    (dispatch handlers transport participants i request response world).request.bytes =
        request.bytes ∧
      (dispatch handlers transport participants i request response world).request.dataType =
        settledType (i.primitive? participants)
          (fun primitive => primitive.requestDataType?.getD .void) request.dataType := by
  rcases dispatch_exits handlers transport participants i request response world with
    ⟨fault, hfound, hdispatch⟩ | ⟨participant, profile, primitive, fault, hfound, hdispatch⟩ |
      ⟨participant, profile, primitive, value, h⟩
  · rw [hdispatch, Dispatched.request_clearFailed, Invocation.primitive?_of_error hfound]
    exact ⟨rfl, rfl⟩
  · rw [hdispatch, Dispatched.request_clearFailed, Invocation.primitive?_of_ok hfound]
    exact ⟨primitive.bytes_resolveRequest request, primitive.dataType_resolveRequest request⟩
  · rw [dispatch_of_reaches h, Dispatched.request_clearFailed, Invocation.primitive?_of_ok h.found]
    constructor
    · refine (bytes_restoreRequest (primitive.call handlers transport participant profile response
        value) _ world h.valued).trans ?_
      exact primitive.bytes_resolveRequest request
    · refine (dataType_restoreRequest _ _ _).trans ?_
      exact primitive.dataType_resolveRequest request

theorem responseType_dispatch :
    (dispatch handlers transport participants i request response world).response.dataType =
      settledType (i.primitive? participants)
        (fun primitive => (primitive.resultDataType?.getD .void).widened) response.dataType := by
  rcases dispatch_exits handlers transport participants i request response world with
    ⟨fault, hfound, hdispatch⟩ | ⟨participant, profile, primitive, fault, hfound, hdispatch⟩ |
      ⟨participant, profile, primitive, value, h⟩
  · rw [hdispatch, Dispatched.responseType_clearFailed, Invocation.primitive?_of_error hfound]
    rfl
  · rw [hdispatch, Dispatched.responseType_clearFailed, Invocation.primitive?_of_ok hfound]
    exact primitive.dataType_resolveResponse response
  · rw [dispatch_of_reaches h, Dispatched.responseType_clearFailed,
      Invocation.primitive?_of_ok h.found]
    exact primitive.dataType_resolveResponse response

theorem responseType_of_found {participants : ParticipantTable} {i : Invocation}
    {participant : Participant} {profile : Profile} {primitive : Primitive}
    (hfound : i.find participants = .ok (participant, profile, primitive))
    (handlers : HandlerTable σ) (transport : Transport σ) (request response : DataBuffer)
    (world : σ) :
    (dispatch handlers transport participants i request response world).response.dataType =
      (primitive.resolveResponse response).dataType := by
  rw [responseType_dispatch, Invocation.primitive?_of_ok hfound]
  exact (primitive.dataType_resolveResponse response).symm

end

end DeviceSupport
