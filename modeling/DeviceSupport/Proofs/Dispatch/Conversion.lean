import DeviceSupport.Proofs.Dispatch.Answer
import DeviceSupport.Proofs.Dispatch.Restoration
import DeviceSupport.Proofs.Message

/-! Values on their way to an action and back.

A measure crosses to an action as a plain word in the unit of that action. Before each attempt the
word is made anew from the caller's value, so that what a backend is given does not depend on the
attempts before; a repeat uses the word of its attempt. An answer is converted once, from the word
that the last use of the backend left. -/
namespace DeviceSupport
set_option autoImplicit false

/-! ## Plain words -/

/-- The buffer holds one plain word. -/
structure DataBuffer.IsWord (b : DataBuffer) (word : UInt32) : Prop where
  type : b.dataType = .uint32
  length : b.dataLength = 4
  first : b.uint32? = some word

theorem DataBuffer.IsWord.data {b : DataBuffer} {word : UInt32} (h : b.IsWord word) :
    b.data = LittleEndian.ofUInt32 word := by
  have hroom : 4 ≤ b.capacity := (uint32?_isSome_iff b).mp (h.first ▸ rfl)
  have hword : LittleEndian.toUInt32 (b.bytes.take 4) = word := by
    have hfirst := h.first
    rw [uint32?_of_le hroom] at hfirst
    exact Option.some.inj hfirst
  rw [DataBuffer.data, h.length, ← hword,
    LittleEndian.ofUInt32_toUInt32 (List.length_take_of_le hroom)]
  rfl

/-- Room for a plain word. -/
structure DataBuffer.HoldsWord (b : DataBuffer) : Prop where
  type : b.dataType = .uint32
  room : 4 ≤ b.capacity

theorem DataBuffer.HoldsWord.writeUInt32 {b : DataBuffer} (h : b.HoldsWord) (value : UInt32) :
    (b.writeUInt32 value).2.HoldsWord :=
  ⟨(b.dataType_write _).trans h.type, (b.capacity_writeUInt32 value).symm ▸ h.room⟩

theorem DataBuffer.isWord_writeUInt32 {b : DataBuffer} (value : UInt32) (h : b.HoldsWord) :
    (b.writeUInt32 value).2.IsWord value := by
  have hwrite := writeUInt32_of_le value h.room
  refine ⟨(b.dataType_write _).trans h.type, ?_, uint32?_writeUInt32 value h.room⟩
  rw [hwrite]

/-- What the last use of the backend left, before its answer was converted. -/
def Trial.ran {σ : Type} (t : Trial σ) : Except Fault Unit × Stage σ := t.second.getD t.first

/-- The request that a backend is given is one plain word. -/
def Sent.Carries (word : UInt32) : Sent → Prop
  | .message m =>
    m.request.dataType = .uint32 ∧ m.request.length = 4 ∧
      m.requestBytes = LittleEndian.ofUInt32 word
  | .get _ _ request _ => request.IsWord word
  | .set _ _ request => request.IsWord word

namespace Call
variable {σ : Type}

/-! ## To the action -/

theorem sent?_carries (c : Call σ) {action : Action} {lane : Lane} {s : Stage σ} {word : UInt32}
    {sent : Sent} (hword : s.request.IsWord word) (h : c.sent? action lane s = some sent) :
    sent.Carries word := by
  rcases c.sent?_cases h with ⟨index, rfl, hvalid, rfl⟩ |
    ⟨_, _, -, -, -, ⟨-, rfl⟩ | ⟨-, rfl⟩⟩
  · have hbytes : s.request.data = LittleEndian.ofUInt32 word := hword.data
    have hlen : (LittleEndian.ofUInt32 word).length = 4 :=
      LittleEndian.length_encode 4 word.toNat
    have hne : s.request.data ≠ [] := by
      rw [hbytes]
      exact List.ne_nil_of_length_pos (hlen ▸ Nat.succ_pos 3)
    obtain ⟨htype, hlength⟩ := Message.Request.request_make (c.target action index)
      s.request.dataType s.request.data s.response.dataType s.response.capacity c.opcode hne
    refine ⟨htype.trans hword.type, hlength.trans ?_, ?_⟩
    · rw [hbytes, hlen]
      rfl
    · exact (Message.Request.requestBytes_make _ _ _ _ _ hvalid).trans hbytes
  · exact hword
  · exact hword

theorem prepare_holdsWord (c : Call σ) (action : Action) {request : DataBuffer}
    (h : request.HoldsWord) : (c.prepare action request).2.HoldsWord :=
  c.prepare_request (P := DataBuffer.HoldsWord) (fun _ word hholds => hholds.writeUInt32 word) h

/-- Whatever an action sends, at first or in its repeat, carries the word of its own conversion. -/
theorem trial_carries (c : Call σ) (retried : Bool) {action : Action} (lane : Lane) {s : Stage σ}
    {measure : Measure} {value word : UInt32} (hvalue : c.requestValue = some (measure, value))
    (hroom : s.request.HoldsWord)
    (hword : measure.convert value action.actionType (c.algorithm? action) .set = .ok word) :
    ∀ sent ∈ (c.trial retried action lane s).sent, sent.Carries word := by
  have hprepare : c.prepare action s.request = (.ok (), (s.request.writeUInt32 word).2) := by
    rw [c.prepare_of_ok hvalue hword]
    exact Prod.ext (DataBuffer.writeUInt32_ok word hroom.room) rfl
  intro sent h
  obtain ⟨stage, hsent, hrequest⟩ := c.exists_of_mem_sent h
  refine c.sent?_carries (s := stage) ?_ hsent
  rw [hrequest, hprepare]
  exact DataBuffer.isWord_writeUInt32 word hroom

/-! ## Back from the action -/

theorem scaleHysteresis_word (c : Call σ) (action : Action) {response : DataBuffer}
    {word : UInt32} (hword : response.uint32? = some word) (hlength : response.dataLength = 4) :
    (c.scaleHysteresis action response).2.uint32? = some (c.scaled action word) ∧
      (c.scaleHysteresis action response).2.dataLength = 4 := by
  cases hscales : c.scales action with
  | false =>
    rw [c.scaleHysteresis_of_not response hscales, scaled, hscales]
    exact ⟨hword, hlength⟩
  | true =>
    have hroom : 4 ≤ response.capacity := (DataBuffer.uint32?_isSome_iff response).mp (hword ▸ rfl)
    have hscaled : c.scaleHysteresis action response =
        response.writeUInt32 (word / hysteresisDivisor) := by
      rw [scaleHysteresis, if_pos (of_decide_eq_true hscales), hword]
    rw [hscaled, scaled, hscales]
    exact ⟨DataBuffer.uint32?_writeUInt32 _ hroom, by rw [DataBuffer.writeUInt32_of_le _ hroom]⟩

/-- An answer that is shown as a measure is the conversion of the first word of the response. -/
theorem finish_converts (c : Call σ) {action : Action} {response : DataBuffer} {measure : Measure}
    (hget : c.opcode = .get) (hmeasure : c.responseMeasure = some measure)
    (hok : (c.finish action response).1 = .ok ()) :
    ∃ raw word, response.uint32? = some raw ∧
      measure.convert raw action.actionType (c.algorithm? action) .get = .ok word ∧
      (c.finish action response).2.uint32? = some (c.scaled action word) ∧
      (c.finish action response).2.dataLength = 4 := by
  rw [c.finish_of_get action response hget] at hok ⊢
  unfold normalize at hok ⊢
  rw [hmeasure] at hok ⊢
  dsimp only at hok ⊢
  cases hraw : response.uint32? with
  | none =>
    rw [hraw] at hok
    nomatch hok
  | some raw =>
    rw [hraw] at hok
    dsimp only at hok ⊢
    have hroom : 4 ≤ response.capacity := (DataBuffer.uint32?_isSome_iff response).mp (hraw ▸ rfl)
    cases hword : measure.convert raw action.actionType (c.algorithm? action) .get with
    | error fault =>
      rw [hword] at hok
      nomatch hok
    | ok word =>
      have hwrite := DataBuffer.writeUInt32_of_le word hroom
      have hscale := c.scaleHysteresis_word action (DataBuffer.uint32?_writeUInt32 word hroom)
        (by rw [hwrite])
      refine ⟨raw, word, rfl, hword, ?_⟩
      dsimp only
      rw [hwrite] at hscale ⊢
      exact hscale

/-- What an action that succeeds leaves is converted from what its backend left. -/
theorem trial_converts (c : Call σ) {retried : Bool} {action : Action} {lane : Lane} {s : Stage σ}
    {measure : Measure} (hget : c.opcode = .get) (hmeasure : c.responseMeasure = some measure)
    (hok : (c.trial retried action lane s).outcome = .ok ()) :
    ∃ raw word, (c.trial retried action lane s).ran.2.response.uint32? = some raw ∧
      measure.convert raw action.actionType (c.algorithm? action) .get = .ok word ∧
      (c.trial retried action lane s).stop.response.uint32? = some (c.scaled action word) ∧
      (c.trial retried action lane s).stop.response.dataLength = 4 := by
  have hconclude := c.conclude_last retried action lane s
  rw [hok] at hconclude
  unfold Trial.ran
  generalize (c.trial retried action lane s).second.getD
    (c.trial retried action lane s).first = ran at hconclude ⊢
  obtain ⟨fault | _, stage⟩ := ran
  · nomatch hconclude
  · rw [conclude] at hconclude
    obtain ⟨houtcome, hstop⟩ := Prod.mk.inj hconclude
    rw [← hstop]
    exact c.finish_converts hget hmeasure houtcome

theorem scaled_eq (c : Call σ) (action : Action) (word : UInt32) :
    c.scaled action word =
      if action.actionType = .lal ∧ c.primitive.tuple.id = PrimitiveId.getThresholdHysteresis then
        word / 1000
      else word := by
  unfold scaled scales
  simp only [decide_eq_true_eq]
  rfl

/-! ## The run -/

theorem allTrials_carry (c : Call σ) {s : Stage σ} {t : Trial σ} {measure : Measure}
    {value : UInt32} (ht : t ∈ c.allTrials s) (hvalue : c.requestValue = some (measure, value))
    (hroom : s.request.HoldsWord) :
    (∀ word, measure.convert value t.action.actionType (c.algorithm? t.action) .set = .ok word →
      ∀ sent ∈ t.sent, sent.Carries word) ∧
    ∀ fault, measure.convert value t.action.actionType (c.algorithm? t.action) .set =
      .error fault → fault.IsConversion ∧ t.sent = [] := by
  have hstart : t.start.request.HoldsWord :=
    (c.trials_request (P := DataBuffer.HoldsWord)
      (fun action _ hholds => c.prepare_holdsWord action hholds) _ _ s hroom t ht).1
  obtain ⟨retried, htrial⟩ := c.exists_trial ht
  constructor
  · intro word hword
    rw [htrial]
    exact c.trial_carries retried t.lane hvalue hstart hword
  · intro fault hfault
    have hprepare : (c.prepare t.action t.start.request).1 = .error fault :=
      congrArg Prod.fst (c.prepare_of_error hvalue hfault)
    refine ⟨convert_fault hfault, ?_⟩
    rw [htrial]
    exact (c.trial_unprepared retried t.lane (fun _ => hstart.room) hprepare).1

theorem allTrials_convert (c : Call σ) {s : Stage σ} {t : Trial σ} {measure : Measure}
    (ht : t ∈ c.allTrials s) (hget : c.opcode = .get) (hmeasure : c.responseMeasure = some measure)
    (hok : t.outcome = .ok ()) :
    ∃ raw word, t.ran.2.response.uint32? = some raw ∧
      measure.convert raw t.action.actionType (c.algorithm? t.action) .get = .ok word ∧
      t.stop.response.uint32? = some (c.scaled t.action word) ∧
      t.stop.response.dataLength = 4 := by
  obtain ⟨retried, htrial⟩ := c.exists_trial ht
  rw [htrial] at hok
  have hconverts := c.trial_converts hget hmeasure hok
  rw [← htrial] at hconverts
  exact hconverts

end Call

/-! ## The whole call -/

theorem requestValue_of_measure {request : DataBuffer} {measure : Measure} {word : UInt32}
    {value : Option (Measure × UInt32)} (h : requestValue request = .ok value)
    (hmeasure : Measure.ofType? request.dataType = some measure)
    (hword : request.uint32? = some word) : value = some (measure, word) := by
  rw [requestValue, hmeasure] at h
  dsimp only at h
  rw [hword] at h
  exact (Except.ok.inj h).symm

theorem Primitive.uint32?_resolveRequest (p : Primitive) (request : DataBuffer) :
    (p.resolveRequest request).uint32? = request.uint32? := by
  unfold DataBuffer.uint32? DataBuffer.capacity
  rw [p.bytes_resolveRequest]

theorem holdsWord_asWord {b : DataBuffer} {measure : Measure}
    (hmeasure : Measure.ofType? b.dataType = some measure) (hroom : 4 ≤ b.capacity) :
    (asWord b).HoldsWord := by
  refine ⟨?_, (capacity_asWord b).symm ▸ hroom⟩
  rw [asWord, hmeasure]
  rfl

/-- In every call that reaches its actions, each use of a backend is given the caller's value in one
conversion, by the algorithm of its own action, and the answer of a get is one conversion by the
algorithm of the action that succeeded. -/
theorem values_cross_once {σ : Type} {i : Invocation} {participants : ParticipantTable}
    {request : DataBuffer} {participant : Participant} {profile : Profile} {primitive : Primitive}
    {value : Option (Measure × UInt32)}
    (h : Reaches i participants request participant profile primitive value)
    (handlers : HandlerTable σ) (transport : Transport σ) (response : DataBuffer) (world : σ) :
    let trials := (primitive.call handlers transport participant profile response value).allTrials
      (primitive.stage request response world)
    let d := dispatch handlers transport participants i request response world
    dispatch handlers.recorded (Transport.recorded transport) participants i request response
        (world, []) = d.recorded (trials.flatMap Trial.sent) ∧
      (∀ measure word, Measure.ofType? (primitive.resolveRequest request).dataType = some measure →
        request.uint32? = some word →
          ∀ t ∈ trials,
            (∀ converted, measure.convert word t.action.actionType
                (profile.algorithm? t.action.actionType) .set = .ok converted →
              ∀ sent ∈ t.sent, sent.Carries converted) ∧
            ∀ fault, measure.convert word t.action.actionType
                (profile.algorithm? t.action.actionType) .set = .error fault →
              fault.IsConversion ∧ t.sent = []) ∧
      (∀ measure, primitive.opcode = .get →
        Measure.ofType? (primitive.resolveResponse response).dataType = some measure →
          d.result = .ok () →
            ∃ t raw word, trials.getLast? = some t ∧ t.outcome = .ok () ∧
              t.ran.2.response.uint32? = some raw ∧
              measure.convert raw t.action.actionType
                (profile.algorithm? t.action.actionType) .get = .ok word ∧
              d.response.uint32? =
                some (if t.action.actionType = .lal ∧
                    primitive.tuple.id = PrimitiveId.getThresholdHysteresis then word / 1000
                  else word) ∧
              d.response.dataLength = 4) := by
  intro trials d
  let c := primitive.call handlers transport participant profile response value
  refine ⟨dispatch_recorded h handlers transport response world [], ?_, ?_⟩
  · intro measure word hmeasure hword t ht
    have hword' := (primitive.uint32?_resolveRequest request).trans hword
    have hvalue : c.requestValue = some (measure, word) :=
      requestValue_of_measure h.valued hmeasure hword'
    have hroom : 4 ≤ (primitive.resolveRequest request).capacity :=
      (DataBuffer.uint32?_isSome_iff _).mp (hword' ▸ rfl)
    exact c.allTrials_carry ht hvalue (holdsWord_asWord hmeasure hroom)
  · intro measure hget hmeasure hok
    obtain ⟨t, hlast, hdone⟩ := Call.exists_last_of_answer
      ((result_dispatch h handlers transport response world).symm.trans hok)
    obtain ⟨raw, word, hraw, hword, hfirst, hlength⟩ :=
      c.allTrials_convert (List.mem_of_getLast? hlast) hget hmeasure hdone
    have hresponse := (dispatch_of_success h hlast hdone).2
    rw [c.scaled_eq] at hfirst
    refine ⟨t, raw, word, hlast, hdone, hraw, hword, ?_, ?_⟩
    · rw [hresponse]
      exact hfirst
    · rw [hresponse]
      exact hlength

namespace Sample

/-- A hysteresis that three actions may read: a handler whose unit is not known, the kernel side,
and a handler in thousandths of a degree. -/
def hysteresisPrimitive : Primitive where
  tuple := Tuple.ofQualifier PrimitiveId.getThresholdHysteresis "D0" 255
  size := 0
  operation := Opcode.get.code
  requestType := DataType.temperature.code
  requestSchema := ""
  resultType := DataType.temperature.code
  resultSchema := ""
  actions := [.sysfs, .msr, .lal].map fun actionType =>
    { size := 0, actionType, priority := 0, isKernel := actionType = .msr, params := .ofList [] }

def unit (actionType : ActionType) (kind : ConversionKind) : Algorithm :=
  ⟨actionType, kind.code, 0, 0, 0, 0, 0⟩

def hysteresisProfile : Profile :=
  Profile.insertPrimitives
    { descriptor := { code := "demo" }, declaredSize := 0
      algorithms := [unit .msr .temperatureDeciKelvin, unit .lal .temperatureMilliCelsius,
        unit .lal .temperatureNone] }
    [hysteresisPrimitive]

def hysteresisParticipant : Participant where
  id := 1
  info := ⟨"TCPU", "", .platform "" ""⟩
  bound := some (default, hysteresisProfile)

def getHysteresis : Invocation := ⟨1, PrimitiveId.getThresholdHysteresis, "D0", 255⟩

/-- A handler that asks for more room when it is called first, and then gives a word. -/
def hesitant (word : UInt32) : HandlerTable Bool :=
  ⟨[(.lal,
    { name := "LAL", directions := .getOnly
      handler :=
        { get := fun _ _ response asked =>
            if asked then (response.writeUInt32 word, true)
            else ((.error (.needLargerBuffer 8), response), true)
          set := fun _ _ asked => (.ok (), asked) } })]⟩

def late : Transport Bool := fun _ asked => (.error (.timeout "kernel side"), asked)

def hysteresisTrials : List (Trial Bool) :=
  (hysteresisPrimitive.call (hesitant 5000000) late hysteresisParticipant hysteresisProfile
      (.allocate .auto) (some (.temperature, 50))).allTrials
    (hysteresisPrimitive.stage (.ofUInt32 .temperature 50) (.allocate .auto) false)

def hysteresis : Dispatched Bool :=
  dispatch (hesitant 5000000) late ⟨[hysteresisParticipant]⟩ getHysteresis
    (.ofUInt32 .temperature 50) (.allocate .auto) false

theorem reaches_getHysteresis : Reaches getHysteresis ⟨[hysteresisParticipant]⟩
    (.ofUInt32 .temperature 50) hysteresisParticipant hysteresisProfile hysteresisPrimitive
    (some (.temperature, 50)) := by
  have hfound : hysteresisProfile.primitive? getHysteresis.tuple = some hysteresisPrimitive := by
    decide
  have hfind : getHysteresis.find ⟨[hysteresisParticipant]⟩ = .ok (hysteresisParticipant,
      hysteresisProfile, (hysteresisProfile.primitive? getHysteresis.tuple).getD default) :=
    Invocation.find_of_bound rfl rfl (hfound ▸ rfl)
  rw [hfound] at hfind
  exact ⟨hfind, eq_ok_of_toOption (by decide)⟩

/-- The handler is asked twice for fifty degrees in thousandths, although the kernel side was given
them in another unit before; its answer is converted by the first of its two algorithms. -/
theorem hysteresis_crosses :
    Reaches getHysteresis ⟨[hysteresisParticipant]⟩ (.ofUInt32 .temperature 50)
        hysteresisParticipant hysteresisProfile hysteresisPrimitive (some (.temperature, 50)) ∧
      hysteresisTrials.map (fun t => (t.action.actionType, t.sent.length)) =
        [(.sysfs, 0), (.msr, 1), (.lal, 2)] ∧
      (∀ t ∈ hysteresisTrials, t.action.actionType = .lal →
        ∀ sent ∈ t.sent, sent.Carries 50000) ∧
      hysteresis.response.uint32? = some 5 ∧ hysteresis.response.dataLength = 4 := by
  obtain ⟨-, hto, hback⟩ := values_cross_once reaches_getHysteresis (hesitant 5000000) late
    (.allocate .auto) false
  refine ⟨reaches_getHysteresis, by decide, fun t ht hlal => ?_, ?_⟩
  · have hset : Measure.temperature.convert 50 t.action.actionType
        (hysteresisProfile.algorithm? t.action.actionType) .set = .ok 50000 := by
      rw [hlal]
      exact eq_ok_of_toOption (by decide)
    exact (hto .temperature 50 (by decide) (by decide) t ht).1 50000 hset
  · rw [hysteresis]
    obtain ⟨t, raw, word, hlast, -, hraw, hword, hfirst, hlength⟩ := hback .temperature
      (by decide) (by decide) (done_of_isOk (by decide))
    have hran : hysteresisTrials.getLast?.map
        (fun t => (t.action.actionType, t.ran.2.response.uint32?)) = some (.lal, some 5000000) := by
      decide
    have hget : Measure.temperature.convert 5000000 .lal (hysteresisProfile.algorithm? .lal) .get =
        .ok 5000 := eq_ok_of_toOption (by decide)
    have hid : hysteresisPrimitive.tuple.id = PrimitiveId.getThresholdHysteresis := by
      decide
    rw [hysteresisTrials, hlast, Option.map_some, Option.some.injEq, Prod.mk.injEq] at hran
    obtain ⟨hlal, hword'⟩ := hran
    obtain rfl := Option.some.inj (hraw.symm.trans hword')
    rw [hlal, hget] at hword
    obtain rfl := Except.ok.inj hword
    rw [if_pos ⟨hlal, hid⟩] at hfirst
    exact ⟨hfirst, hlength⟩

end Sample

end DeviceSupport
