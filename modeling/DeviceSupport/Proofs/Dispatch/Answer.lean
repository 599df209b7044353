import DeviceSupport.Proofs.Dispatch.Entry
import DeviceSupport.Proofs.Dispatch.Order

/-! What the caller of a get is answered.

The bytes that an action delivers are written over whatever the response holds, and a measure or a
hysteresis is then read off the first four bytes of the response. `Call.shown` is the answer as a
function of the bytes delivered and of these first bytes. So the answer depends on nothing else
when it is not converted, or when four bytes or more are delivered; a shorter delivery is completed
by what the caller or a failed action left in the response. -/
namespace DeviceSupport
set_option autoImplicit false

namespace Call
variable {σ : Type}

def scales (c : Call σ) (action : Action) : Bool :=
  action.actionType = .lal ∧ c.primitive.tuple.id = PrimitiveId.getThresholdHysteresis

/-- The answer of the action is not shown as it was delivered. -/
def converts (c : Call σ) (action : Action) : Bool := c.responseMeasure.isSome || c.scales action

def scaled (c : Call σ) (action : Action) (word : UInt32) : UInt32 :=
  if c.scales action then word / hysteresisDivisor else word

def converted (c : Call σ) (action : Action) (word : UInt32) : Except Fault UInt32 :=
  match c.responseMeasure with
  | none => .ok (c.scaled action word)
  | some measure =>
    (measure.convert word action.actionType (c.algorithm? action) .get).map (c.scaled action)

/-- What is shown for the bytes delivered, when `head` are the first bytes of the response. -/
def shown (c : Call σ) (action : Action) (delivered head : List UInt8) :
    Except Fault (List UInt8) :=
  if c.converts action = true then
    if head.length = 4 then
      (c.converted action (LittleEndian.toUInt32 head)).map LittleEndian.ofUInt32
    else if c.responseMeasure.isSome = true then .error (.parameterIsNull "response value")
    else .ok delivered
  else .ok delivered

theorem scaleHysteresis_of_not (c : Call σ) {action : Action} (response : DataBuffer)
    (h : c.scales action = false) : c.scaleHysteresis action response = (.ok (), response) :=
  if_neg (of_decide_eq_false h)

theorem scaleHysteresis_of_lt (c : Call σ) (action : Action) {response : DataBuffer}
    (h : response.capacity < 4) : c.scaleHysteresis action response = (.ok (), response) := by
  unfold scaleHysteresis
  rw [DataBuffer.uint32?_of_lt h]
  split <;> rfl

theorem scaleHysteresis_of_word (c : Call σ) (action : Action) {response : DataBuffer}
    {word : UInt32} (h : 4 ≤ response.capacity) (hword : response.uint32? = some word)
    (hdata : c.scales action = false → response.data = LittleEndian.ofUInt32 word) :
    (c.scaleHysteresis action response).1.map
        (fun _ => (c.scaleHysteresis action response).2.data) =
      .ok (LittleEndian.ofUInt32 (c.scaled action word)) := by
  cases hscales : c.scales action with
  | false =>
    rw [c.scaleHysteresis_of_not response hscales, scaled, hscales]
    exact congrArg Except.ok (hdata hscales)
  | true =>
    have hscaled : c.scaleHysteresis action response =
        response.writeUInt32 (word / hysteresisDivisor) := by
      rw [scaleHysteresis, if_pos (of_decide_eq_true hscales), hword]
    rw [hscaled, DataBuffer.writeUInt32_ok _ h, DataBuffer.data_writeUInt32 _ h, scaled, hscales]
    rfl

theorem finish_of_get (c : Call σ) (action : Action) (response : DataBuffer)
    (h : c.opcode = .get) :
    c.finish action response =
      match c.normalize action response with
      | (.ok (), response) => c.scaleHysteresis action response
      | failed => failed := by
  unfold finish
  split
  · next hset =>
    rw [h] at hset
    nomatch hset
  · rfl

theorem length_head_iff (response : DataBuffer) :
    (response.bytes.take 4).length = 4 ↔ 4 ≤ response.capacity := by
  rw [List.length_take, DataBuffer.capacity]
  omega

theorem finish_plain (c : Call σ) (action : Action) (response : DataBuffer) (h : c.opcode = .get)
    (hmeasure : c.responseMeasure = none) :
    (c.finish action response).1.map (fun _ => (c.finish action response).2.data) =
      c.shown action response.data (response.bytes.take 4) := by
  rw [c.finish_of_get action response h]
  unfold normalize shown converts converted
  rw [hmeasure]
  dsimp only
  cases hscales : c.scales action with
  | false =>
    rw [c.scaleHysteresis_of_not response hscales]
    rfl
  | true =>
    by_cases hroom : 4 ≤ response.capacity
    · rw [c.scaleHysteresis_of_word action hroom (DataBuffer.uint32?_of_le hroom)
        (fun hnot => Bool.noConfusion (hscales.symm.trans hnot)),
        if_pos ((length_head_iff response).mpr hroom)]
      rfl
    · rw [c.scaleHysteresis_of_lt action (Nat.lt_of_not_le hroom),
        if_neg (mt (length_head_iff response).mp hroom)]
      rfl

theorem finish_measure (c : Call σ) (action : Action) (response : DataBuffer) {measure : Measure}
    (h : c.opcode = .get) (hmeasure : c.responseMeasure = some measure) :
    (c.finish action response).1.map (fun _ => (c.finish action response).2.data) =
      c.shown action response.data (response.bytes.take 4) := by
  rw [c.finish_of_get action response h]
  unfold normalize shown converts converted
  rw [hmeasure]
  dsimp only
  by_cases hroom : 4 ≤ response.capacity
  · rw [DataBuffer.uint32?_of_le hroom, if_pos ((length_head_iff response).mpr hroom)]
    dsimp only
    cases measure.convert (LittleEndian.toUInt32 (response.bytes.take 4)) action.actionType
      (c.algorithm? action) .get with
    | error fault => rfl
    | ok value =>
      dsimp only
      have hwritten : response.writeUInt32 value = (.ok (), (response.writeUInt32 value).2) :=
        Prod.ext (DataBuffer.writeUInt32_ok value hroom) rfl
      have hcapacity : 4 ≤ (response.writeUInt32 value).2.capacity := by
        rw [DataBuffer.capacity_writeUInt32]
        exact hroom
      rw [hwritten]
      dsimp only
      exact c.scaleHysteresis_of_word action hcapacity
        (DataBuffer.uint32?_writeUInt32 value hroom)
        (fun _ => DataBuffer.data_writeUInt32 value hroom)
  · rw [DataBuffer.uint32?_of_lt (Nat.lt_of_not_le hroom),
      if_neg (mt (length_head_iff response).mp hroom)]
    rfl

/-- What a get shows is decided by the bytes produced and by the first bytes of the response,
whether these were produced or not. -/
theorem finish_eq (c : Call σ) (action : Action) (response : DataBuffer) (h : c.opcode = .get) :
    (c.finish action response).1.map (fun _ => (c.finish action response).2.data) =
      c.shown action response.data (response.bytes.take 4) := by
  cases hmeasure : c.responseMeasure with
  | none => exact c.finish_plain action response h hmeasure
  | some measure => exact c.finish_measure action response h hmeasure

end Call

/-! ## Deliveries -/

/-- The backend wrote these bytes into the response, and the action was not repeated. -/
structure Trial.Delivers {σ : Type} (t : Trial σ) (bytes : List UInt8) : Prop where
  once : t.second = none
  answered : t.first.1 = .ok ()
  fits : bytes.length ≤ t.start.response.capacity
  written : t.first.2.response = (t.start.response.write bytes).2

/-- The first bytes of the response after a delivery. What was delivered comes first, and then what
the response held before. -/
def Trial.head {σ : Type} (t : Trial σ) (bytes : List UInt8) : List UInt8 :=
  (bytes ++ t.start.response.bytes.drop bytes.length).take 4

theorem Trial.head_of_le {σ : Type} (t : Trial σ) {bytes : List UInt8} (h : 4 ≤ bytes.length) :
    t.head bytes = bytes.take 4 :=
  List.take_append_of_le_length h

namespace Call
variable {σ : Type}

theorem trial_delivers (c : Call σ) {retried : Bool} {action : Action} {lane : Lane}
    {s : Stage σ} {bytes : List UInt8} (hget : c.opcode = .get)
    (h : (c.trial retried action lane s).Delivers bytes) :
    (c.trial retried action lane s).outcome.map
        (fun _ => (c.trial retried action lane s).stop.response.data) =
      c.shown action (DataBuffer.counted bytes) ((c.trial retried action lane s).head bytes) := by
  have hconclude := c.conclude_last retried action lane s
  rw [h.once, Option.getD_none] at hconclude
  generalize c.trial retried action lane s = t at h hconclude ⊢
  have hfirst : t.first = (.ok (), t.first.2) := Prod.ext h.answered rfl
  have hdone := c.finish_eq action t.first.2.response hget
  have hdata : t.first.2.response.data = DataBuffer.counted bytes := by
    rw [h.written, DataBuffer.data_write h.fits]
  have hbytes : t.first.2.response.bytes.take 4 = t.head bytes := by
    rw [h.written, DataBuffer.write_of_le h.fits, Trial.head]
  rw [hdata, hbytes] at hdone
  rw [hfirst] at hconclude
  obtain ⟨houtcome, hstop⟩ := Prod.mk.inj hconclude
  rw [← houtcome, ← hstop]
  exact hdone

theorem receive_of_ok (c : Call σ) {reply : Message.Response} {response : DataBuffer}
    (hget : c.opcode = .get) (h : (c.receive reply response).1 = .ok ()) :
    c.receive reply response = response.write (reply.data.take reply.length.toNat) := by
  unfold receive at h ⊢
  split at h
  · nomatch h
  · next status hstatus =>
    rw [hget] at h ⊢
    cases hresult : status.toResult reply.length with
    | ok u => rfl
    | error fault =>
      rw [hresult] at h
      nomatch h

theorem runKernel_of_ok (c : Call σ) {action : Action} {index : UInt16} {s : Stage σ}
    (hget : c.opcode = .get) (h : (c.runKernel action index s).1 = .ok ()) :
    ∃ reply world, c.transport (c.message action index s) s.world = (.ok reply, world) ∧
      (reply.data.take reply.length.toNat).length ≤ s.response.capacity ∧
      (c.runKernel action index s).2.response =
        (s.response.write (reply.data.take reply.length.toNat)).2 := by
  unfold runKernel at h ⊢
  dsimp only at h ⊢
  split at h
  · nomatch h
  · split at h
    · nomatch h
    · next reply world htransport =>
      have hreceive := c.receive_of_ok hget h
      rw [hreceive] at h
      refine ⟨reply, world, htransport, DataBuffer.le_of_write_ok h, ?_⟩
      dsimp only
      rw [hreceive]

/-- On the kernel side an action that succeeds delivers the data of the reply. -/
theorem delivers_of_reply (c : Call σ) {retried : Bool} {action : Action} {index : UInt16}
    {s : Stage σ} (hget : c.opcode = .get)
    (hok : (c.trial retried action (.kernel index) s).first.1 = .ok ()) :
    ∃ message reply world, c.transport message s.world = (.ok reply, world) ∧
      (c.trial retried action (.kernel index) s).Delivers
        (reply.data.take reply.length.toNat) := by
  have hfirst := c.trial_first retried action (.kernel index) s
  have honce : (c.trial retried action (.kernel index) s).second = none := by
    refine Option.not_isSome_iff_eq_none.mp fun hrepeated => ?_
    have hlane := ((c.repeated_iff retried action (.kernel index) s).mp hrepeated).2.1
    nomatch hlane
  rw [hfirst] at hok
  have hran : c.attempt action (.kernel index) s =
      c.runKernel action index { s with request := (c.prepare action s.request).2 } := by
    revert hok
    unfold attempt
    rcases c.prepare action s.request with ⟨fault | _, request⟩
    · exact fun hok => (nomatch hok)
    · exact fun _ => rfl
  rw [hran] at hfirst hok
  obtain ⟨reply, world, htransport, hfits, hresponse⟩ := c.runKernel_of_ok hget hok
  refine ⟨_, reply, world, htransport, ⟨honce, ?_, ?_, ?_⟩⟩
  · rw [hfirst]
    exact hok
  · rw [trial_start]
    exact hfits
  · rw [hfirst, trial_start]
    exact hresponse

theorem delivered (c : Call σ) {s : Stage σ} {before after : List (Trial σ)} {t : Trial σ}
    {bytes : List UInt8} (hget : c.opcode = .get) (hrun : c.allTrials s = before ++ t :: after)
    (h : t.Delivers bytes) :
    t.outcome.map (fun _ => t.stop.response.data) =
      c.shown t.action (DataBuffer.counted bytes) (t.head bytes) := by
  obtain ⟨-, -, -, ht⟩ := c.trials_split hrun
  have htrial := c.trial_delivers hget (ht ▸ h)
  rw [← ht] at htrial
  exact htrial

/-- Where the first bytes of the response are not read, or are all delivered, what is shown depends
on the delivery only. -/
theorem shown_head (c : Call σ) {action : Action} {bytes : List UInt8}
    (h : c.converts action = false ∨ 4 ≤ bytes.length) {τ : Type} (t : Trial τ)
    (delivered : List UInt8) :
    c.shown action delivered (t.head bytes) = c.shown action delivered (bytes.take 4) := by
  rcases h with hplain | hlength
  · rw [shown, shown, hplain, if_neg Bool.false_ne_true, if_neg Bool.false_ne_true]
  · rw [t.head_of_le hlength]

end Call

/-! ## Two runs -/

section
variable {σ τ : Type} {i : Invocation} {participants : ParticipantTable} {request : DataBuffer}
  {participant : Participant} {profile : Profile} {primitive : Primitive}
  {value : Option (Measure × UInt32)}
  {handlers : HandlerTable σ} {transport : Transport σ} {response : DataBuffer} {world : σ}
  {before after : List (Trial σ)} {t : Trial σ} {bytes : List UInt8}

/-- What is shown depends on the type of the response and not on who answers. -/
theorem Primitive.shown_call {handlers' : HandlerTable τ} {transport' : Transport τ}
    {response' : DataBuffer} (htype : response'.dataType = response.dataType) (action : Action)
    (delivered head : List UInt8) :
    (primitive.call handlers' transport' participant profile response' value).shown action
        delivered head =
      (primitive.call handlers transport participant profile response value).shown action
        delivered head := by
  have hmeasure : Measure.ofType? (primitive.resolveResponse response').dataType =
      Measure.ofType? (primitive.resolveResponse response).dataType := by
    rw [primitive.dataType_resolveResponse, primitive.dataType_resolveResponse, htype]
  unfold call Call.shown Call.converts Call.converted
  dsimp only
  rw [hmeasure]
  rfl

/-- The caller of a get is answered what is shown for the delivery. -/
theorem dispatch_of_delivery
    (h : Reaches i participants request participant profile primitive value)
    (hget : primitive.opcode = .get)
    (hrun : (primitive.call handlers transport participant profile response value).allTrials
      (primitive.stage request response world) = before ++ t :: after)
    (hdelivers : t.Delivers bytes) (hok : t.outcome = .ok ()) :
    (dispatch handlers transport participants i request response world).result = .ok () ∧
      (primitive.call handlers transport participant profile response value).shown t.action
          (DataBuffer.counted bytes) (t.head bytes) =
        .ok (dispatch handlers transport participants i request response world).response.data := by
  let c := primitive.call handlers transport participant profile response value
  have hmem : t ∈ c.allTrials (primitive.stage request response world) :=
    hrun ▸ List.mem_append_right before List.mem_cons_self
  have hlast := c.getLast?_of_settles hmem (Trial.settles_of_ok hok)
  obtain ⟨hresult, hresponse⟩ := dispatch_of_success h hlast hok
  refine ⟨hresult, ?_⟩
  rw [← Call.delivered c hget hrun hdelivers, hok, hresponse]
  rfl

/-- Two runs whose first success is the same action, with the same delivery, answer alike when no
measure is read off the answer or when there are bytes enough for one. With fewer bytes the answers
agree exactly as far as what is shown for the first bytes of either response agrees. -/
theorem answers_agree {handlers' : HandlerTable τ} {transport' : Transport τ}
    {response' : DataBuffer} {world' : τ} {before' after' : List (Trial τ)} {t' : Trial τ}
    (h : Reaches i participants request participant profile primitive value)
    (hget : primitive.opcode = .get) (htype : response'.dataType = response.dataType)
    (hrun : (primitive.call handlers transport participant profile response value).allTrials
      (primitive.stage request response world) = before ++ t :: after)
    (hrun' : (primitive.call handlers' transport' participant profile response' value).allTrials
      (primitive.stage request response' world') = before' ++ t' :: after')
    (hplace : before'.length = before.length) (hdelivers : t.Delivers bytes)
    (hdelivers' : t'.Delivers bytes) (hok : t.outcome = .ok ()) :
    let c := primitive.call handlers transport participant profile response value
    let d := dispatch handlers transport participants i request response world
    let d' := dispatch handlers' transport' participants i request response' world'
    t'.action = t.action ∧ d.result = .ok () ∧
      (c.converts t.action = false ∨ 4 ≤ bytes.length →
        d'.result = .ok () ∧ d'.response.data = d.response.data ∧
          c.shown t.action (DataBuffer.counted bytes) (bytes.take 4) = .ok d.response.data) ∧
      (t'.outcome = .ok () →
        d'.result = .ok () ∧
          (d'.response.data = d.response.data ↔
            c.shown t.action (DataBuffer.counted bytes) (t'.head bytes) =
              c.shown t.action (DataBuffer.counted bytes) (t.head bytes))) := by
  intro c d d'
  obtain ⟨⟨later, hactions⟩, -⟩ := Call.allTrials_order _ hrun
  obtain ⟨⟨later', hactions'⟩, -⟩ := Call.allTrials_order _ hrun'
  have haction : t'.action = t.action := by
    have hlists : before'.map (·.action) ++ t'.action :: later' =
        before.map (·.action) ++ t.action :: later := hactions'.symm.trans hactions
    have hlength : (before'.map (·.action)).length = (before.map (·.action)).length := by
      rw [List.length_map, List.length_map, hplace]
    exact (List.cons.inj (List.append_inj hlists hlength).2).1
  obtain ⟨hresult, hshown⟩ := dispatch_of_delivery h hget hrun hdelivers hok
  have hdone : t'.outcome.map (fun _ => t'.stop.response.data) =
      c.shown t.action (DataBuffer.counted bytes) (t'.head bytes) := by
    have hdelivered := Call.delivered
      (primitive.call handlers' transport' participant profile response' value) hget hrun' hdelivers'
    rw [haction] at hdelivered
    exact hdelivered.trans (Primitive.shown_call htype _ _ _)
  have hother (hok' : t'.outcome = .ok ()) : d'.result = .ok () ∧
      c.shown t.action (DataBuffer.counted bytes) (t'.head bytes) = .ok d'.response.data := by
    obtain ⟨hresult', hshown'⟩ := dispatch_of_delivery h hget hrun' hdelivers' hok'
    rw [haction] at hshown'
    exact ⟨hresult', (Primitive.shown_call htype _ _ _).symm.trans hshown'⟩
  refine ⟨haction, hresult, fun hread => ?_, fun hok' => ?_⟩
  · have hplain : c.shown t.action (DataBuffer.counted bytes) (bytes.take 4) =
        .ok d.response.data := (c.shown_head hread t _).symm.trans hshown
    have hhead := (c.shown_head hread t' _).trans hplain
    have hok' : t'.outcome = .ok () := by
      rw [hhead] at hdone
      cases houtcome : t'.outcome with
      | ok u => rfl
      | error fault =>
        rw [houtcome] at hdone
        nomatch hdone
    obtain ⟨hresult', hshown'⟩ := hother hok'
    exact ⟨hresult', Except.ok.inj (hshown'.symm.trans hhead), hplain⟩
  · obtain ⟨hresult', hshown'⟩ := hother hok'
    rw [hshown, hshown', Except.ok.injEq]
    exact ⟨hresult', Iff.rfl⟩

end

namespace Sample

/-- A handler that leaves these bytes in the response. -/
def leaving (bytes : List UInt8) : HandlerTable Unit :=
  ⟨[(.sysfs,
    { name := "SYSFS", directions := .getOnly
      handler :=
        { get := fun _ _ response world => (response.write bytes, world)
          set := fun _ _ world => (.ok (), world) } })]⟩

def temperature (left data : List UInt8) : Dispatched Unit :=
  dispatch (leaving left) (reply data) participants getTemperature .void (.allocate .auto) ()

def readingCall (left data : List UInt8) : Call Unit :=
  (primitive getTemperature).call (leaving left) (reply data) participant profile
    (.allocate .auto) none

def reading (left data : List UInt8) : List (Trial Unit) :=
  (readingCall left data).allTrials
    ((primitive getTemperature).stage .void (.allocate .auto) ())

theorem opcode_getTemperature : (primitive getTemperature).opcode = .get := by
  rw [primitive, profile_eq]
  rfl

theorem delivers_reply (c : Call Unit) {s : Stage Unit} {data : List UInt8}
    {before after : List (Trial Unit)} {t : Trial Unit} (hget : c.opcode = .get)
    (hreply : c.transport = reply data) (hfew : data.length < 4294967296)
    (hrun : c.allTrials s = before ++ t :: after) (hlane : t.lane = .kernel 0)
    (hok : t.first.1 = .ok ()) : t.Delivers data := by
  obtain ⟨-, -, -, ht⟩ := c.trials_split hrun
  rw [hlane] at ht
  rw [ht] at hok
  obtain ⟨message, answer, world, htransport, hdelivers⟩ := c.delivers_of_reply hget hok
  rw [hreply] at htransport
  cases htransport
  rw [← ht] at hdelivers
  exact DataBuffer.counted_of_lt hfew ▸ hdelivers

theorem reading_split (left data : List UInt8) (hfew : data.length < 4294967296)
    (h : (reading left data).length = 2 ∧ ((reading left data).getLast?.any fun t =>
      t.lane = .kernel 0 ∧ t.first.1.isOk = true ∧ t.outcome.isOk = true) = true) :
    ∃ before t, reading left data = before ++ [t] ∧ before.length = 1 ∧ t.Delivers data ∧
      t.outcome = .ok () := by
  obtain ⟨hlength, hlast⟩ := h
  obtain ⟨t, ht, hfacts⟩ := (Option.any_eq_true _ _).mp hlast
  obtain ⟨hlane, hfirst, houtcome⟩ := of_decide_eq_true hfacts
  obtain ⟨before, hsplit⟩ := List.getLast?_eq_some_iff.mp ht
  refine ⟨before, t, hsplit, ?_, ?_, done_of_isOk houtcome⟩
  · rw [hsplit, List.length_append] at hlength
    exact Nat.succ.inj hlength
  · have hget : (readingCall left data).opcode = .get := by
      rw [readingCall, Primitive.opcode_call, opcode_getTemperature]
    exact delivers_reply (readingCall left data) hget rfl hfew hsplit hlane (done_of_isOk hfirst)

/-- Whatever the handler leaves, the temperature is that of the reply. -/
theorem temperatures_agree :
    (temperature [0, 0, 0, 0] warm).result = .ok () ∧
      (temperature [255, 255, 255, 255] warm).result = .ok () ∧
      (temperature [255, 255, 255, 255] warm).response.data =
        (temperature [0, 0, 0, 0] warm).response.data := by
  obtain ⟨before, t, hrun, hbefore, hdelivers, hok⟩ :=
    reading_split [0, 0, 0, 0] warm (by decide) (by
      rw [reading, readingCall, primitive, participant, profile_eq]
      decide)
  obtain ⟨before', t', hrun', hbefore', hdelivers', -⟩ :=
    reading_split [255, 255, 255, 255] warm (by decide) (by
      rw [reading, readingCall, primitive, participant, profile_eq]
      decide)
  obtain ⟨-, hresult, hagree, -⟩ := answers_agree reaches_getTemperature
    opcode_getTemperature rfl hrun hrun'
    (hbefore'.trans hbefore.symm) hdelivers hdelivers' hok
  obtain ⟨hresult', hdata, -⟩ := hagree (.inr (Nat.le_refl 4))
  exact ⟨hresult, hresult', hdata⟩

/-- A reply of two bytes is completed by what the handler has left. -/
theorem short_reply_completed :
    (reading [0, 0, 0, 0] [0x73, 0x0b]).map (fun t => (t.sent.length, t.outcome.isOk)) =
        [(1, false), (1, true)] ∧
      (reading [255, 255, 255, 255] [0x73, 0x0b]).map (fun t => (t.sent.length, t.outcome.isOk)) =
        [(1, false), (1, true)] ∧
      (temperature [0, 0, 0, 0] [0x73, 0x0b]).result = .ok () ∧
      (temperature [255, 255, 255, 255] [0x73, 0x0b]).result = .ok () ∧
      (temperature [0, 0, 0, 0] [0x73, 0x0b]).response.data ≠
        (temperature [255, 255, 255, 255] [0x73, 0x0b]).response.data := by
  simp only [reading, readingCall, temperature, primitive, participants, participant, profile_eq]
  exact ⟨by decide, by decide, done_of_isOk (by decide), done_of_isOk (by decide), by decide⟩

end Sample

end DeviceSupport
