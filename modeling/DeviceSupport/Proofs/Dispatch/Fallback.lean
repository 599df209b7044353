import DeviceSupport.Proofs.Dispatch.Entry
import DeviceSupport.Proofs.Dispatch.Order
import DeviceSupport.Proofs.Package.Grammar

/-! How a dispatch falls back from one action to the next.

`Fallback` is everything that the trials of a call have to do with its result and with what
reached a backend. `dispatch_falls_back` says it of every dispatch on a decoded profile that
reaches its actions, whatever handlers and transport answer. -/
namespace DeviceSupport
set_option autoImplicit false

/-- What the trials of a call, its result and what it sent have to do with each other. -/
structure Fallback {σ : Type} (c : Call σ) (s : Stage σ) (trials : List (Trial σ))
    (result : Except Fault Unit) (sent : List Sent) : Prop where
  /-- Each action runs on what the one before it left, and whether it may be repeated depends on
  the actions before it only. -/
  tried : ∀ before t after, trials = before ++ t :: after →
    t.start = (before.getLast?.map Trial.stop).getD s ∧
      t = c.trial (before.any Trial.repeated) t.action t.lane t.start
  /-- Actions are tried in declared order, and only after all before have failed. -/
  in_order : ∀ before t after, trials = before ++ t :: after →
    (∃ later, c.primitive.actions = before.map (·.action) ++ t.action :: later) ∧
      ∀ u ∈ before, ∃ fault, u.outcome = .error fault
  /-- A kernel action has as its number how many kernel actions are declared before it. -/
  numbered : ∀ before t after, trials = before ++ t :: after →
    (t.action.isKernel = true → ∃ index : UInt16, t.lane = .kernel index ∧
      index.toNat = kernelCount (before.map (·.action))) ∧
    (t.action.isKernel = false → t.lane = .handler)
  /-- Every message carries the number of the action that it is for. -/
  messages : ∀ t ∈ trials, ∀ m, Sent.message m ∈ t.sent → t.lane = .kernel m.target.kernelIndex
  /-- An action without a handler for the opcode is unsupported, unless its request could not even
  be converted; no backend hears of it. -/
  unserved : ∀ t ∈ trials, t.lane = .handler →
    c.handlers.handler? t.action.actionType c.opcode = none →
      t.sent = [] ∧ t.second = none ∧
      ((c.prepare t.action t.start.request).1 = .ok () →
        t.outcome = .error (.unsupportedActionType t.action.actionType.code)) ∧
      ∀ fault, (c.prepare t.action t.start.request).1 = .error fault →
        fault.IsConversion ∧ t.outcome = .error fault
  /-- The first success ends the call. -/
  succeeds : ∀ t ∈ trials, t.outcome = .ok () → trials.getLast? = some t
  result_last : ∀ t, trials.getLast? = some t → result = t.outcome
  result_none : trials = [] → result = .error (.unsupportedActionType 0)
  /-- A call only fails when a repeat insists, or when there is no action left to try. -/
  exhausted : ∀ fault, result = .error fault →
    (∃ t, trials.getLast? = some t ∧ t.insists = true) ∨
      trials.map (·.action) = c.primitive.actions
  /-- Only the first handler that asks for more is repeated, when the type was left open. -/
  repeats : ∀ before t after, trials = before ++ t :: after →
    (t.repeated = true ↔
      t.lane = .handler ∧ c.typeOpen = true ∧
        (∃ needed, t.first.1 = .error (.needLargerBuffer needed)) ∧
        ∀ u ∈ before, u.lane = .handler → ∀ needed, u.first.1 ≠ .error (.needLargerBuffer needed))
  once : trials.countP Trial.repeated ≤ 1
  /-- A repeat that asks for more once again ends the call. -/
  insists : ∀ t ∈ trials, ∀ needed stage,
    t.second = some (.error (.needLargerBuffer needed), stage) →
      trials.getLast? = some t ∧ result = .error (.needLargerBuffer needed)
  /-- A trial uses its backend once, and once more for its repeat. -/
  sent_each : ∀ t ∈ trials, t.sent.length ≤ 1 + if t.repeated then 1 else 0
  sent_all : sent = trials.flatMap Trial.sent
  sent_few : sent.length ≤ c.primitive.actions.length + 1

namespace Call
variable {σ : Type} (c : Call σ) (s : Stage σ)

/-- Inside the ceiling of actions the number of a kernel action does not wrap. -/
theorem toNat_kernelCount {before : List Action} {action : Action} {later : List Action}
    (h : c.primitive.actions = before ++ action :: later)
    (hfew : c.primitive.actions.length ≤ 16) :
    (UInt16.ofNat (kernelCount before)).toNat = kernelCount before := by
  have hcount : kernelCount before ≤ before.length := List.countP_le_length
  have hlength : before.length < c.primitive.actions.length := by
    rw [h, List.length_append, List.length_cons]
    omega
  exact UInt16.toNat_ofNat_of_lt' (show kernelCount before < 65536 by omega)

/-- A call is settled by one of its trials, or else every action has been tried. -/
theorem settles_or_complete :
    (∃ t, (c.allTrials s).getLast? = some t ∧ t.settles = true) ∨
      (c.allTrials s).map (·.action) = c.primitive.actions := by
  cases hany : (c.allTrials s).any Trial.settles with
  | true =>
    obtain ⟨t, ht, hsettles⟩ := List.any_eq_true.mp hany
    exact .inl ⟨t, c.getLast?_of_settles ht hsettles, hsettles⟩
  | false =>
    have hnone : ∀ t ∈ c.allTrials s, t.settles = false :=
      fun t ht => Bool.eq_false_iff.mpr (List.any_eq_false.mp hany t ht)
    have hlanes := congrArg (List.map Prod.fst) (c.trials_complete false _ s hnone)
    rw [map_fst_lanes, List.map_map] at hlanes
    exact .inr hlanes

theorem fallback_of_trials (hfew : c.primitive.actions.length ≤ 16)
    (hroom : c.requestValue.isSome = true → 4 ≤ s.request.capacity) :
    Fallback c s (c.allTrials s)
      ((answer (.unsupportedActionType 0) (c.allTrials s)).map fun _ => ())
      ((c.allTrials s).flatMap Trial.sent) := by
  have hsettled : ∀ t ∈ c.allTrials s, t.settles = true →
      (c.allTrials s).getLast? = some t := fun t => c.getLast?_of_settles
  refine
    { tried := fun before t after h => ?tried
      in_order := fun before t after h => ?in_order
      numbered := fun before t after h => ?numbered
      messages := fun t ht m hm => ?messages
      unserved := fun t ht hlane hnone => ?unserved
      succeeds := fun t ht hok => hsettled t ht (Trial.settles_of_ok hok)
      result_last := fun t h => answer_of_last h
      result_none := fun h => by rw [h]; rfl
      exhausted := fun fault h => ?exhausted
      repeats := fun before t after h => c.repeated_split h
      once := c.countP_repeated_le false _ s
      insists := fun t ht needed stage h => ?insists
      sent_each := fun t ht => ?sent_each
      sent_all := rfl
      sent_few := ?sent_few }
  case tried =>
    obtain ⟨-, -, hstart, ht⟩ := c.trials_split h
    rw [Bool.false_or] at ht
    exact ⟨hstart, ht⟩
  case in_order =>
    obtain ⟨-, hbefore, -⟩ := c.trials_split h
    exact ⟨(c.allTrials_order h).1, fun u hu => Trial.error_of_settles (hbefore u hu)⟩
  case numbered =>
    obtain ⟨⟨later, hactions⟩, hlane⟩ := c.allTrials_order h
    rw [hlane]
    refine ⟨fun hkernel => ⟨_, if_pos hkernel, c.toNat_kernelCount hactions hfew⟩, fun huser => ?_⟩
    rw [laneAt, huser, if_neg Bool.false_ne_true]
  case messages =>
    obtain ⟨retried, htrial⟩ := c.exists_trial ht
    rw [htrial] at hm
    exact c.trial_message hm
  case unserved =>
    obtain ⟨retried, htrial⟩ := c.exists_trial ht
    have hstart : c.requestValue.isSome = true → 4 ≤ t.start.request.capacity :=
      fun hsome => c.capacity_start s ht ▸ hroom hsome
    rw [hlane] at htrial
    obtain ⟨hsent, hsecond, houtcome⟩ := c.trial_unserved retried hstart hnone
    rw [← htrial] at hsent hsecond houtcome
    refine ⟨hsent, hsecond, fun hok => ?_, fun fault hfault => ⟨c.prepare_fault hstart hfault, ?_⟩⟩
    · rw [houtcome, hok]
    · rw [houtcome, hfault]
  case exhausted =>
    rcases c.settles_or_complete s with ⟨t, hlast, hsettles⟩ | hcomplete
    · rw [answer_of_last hlast] at h
      rw [Trial.settles, h] at hsettles
      exact .inl ⟨t, hlast, hsettles⟩
    · exact .inr hcomplete
  case insists =>
    obtain ⟨retried, htrial⟩ := c.exists_trial ht
    have houtcome : t.outcome = .error (.needLargerBuffer needed) := by
      rw [htrial] at h ⊢
      exact c.trial_second h
    have hlast := hsettled t ht (by rw [Trial.settles, houtcome, Trial.insists, h])
    exact ⟨hlast, (answer_of_last hlast).trans houtcome⟩
  case sent_each =>
    obtain ⟨retried, htrial⟩ := c.exists_trial ht
    rw [htrial]
    exact c.length_sent_le retried _ _ _
  case sent_few =>
    have hsent := c.length_sent_trials_le false (lanes 0 c.primitive.actions) s
    have honce := c.countP_repeated_le false (lanes 0 c.primitive.actions) s
    have hlength := c.length_trials_le false (lanes 0 c.primitive.actions) s
    have hlanes := congrArg List.length (map_fst_lanes 0 c.primitive.actions)
    rw [List.length_map] at hlanes
    rw [allTrials]
    omega

end Call

/-- Every dispatch on a decoded profile that reaches its actions falls back in their order. Beside
it runs the same dispatch with a record of what its backends are given. -/
theorem dispatch_falls_back {σ : Type} {image : List UInt8} {i : Invocation}
    {participants : ParticipantTable} {request : DataBuffer} {participant : Participant}
    {profile : Profile} {primitive : Primitive} {value : Option (Measure × UInt32)}
    (hprofile : Package.decode image = .ok profile)
    (h : Reaches i participants request participant profile primitive value)
    (handlers : HandlerTable σ) (transport : Transport σ) (response : DataBuffer) (world : σ) :
    let c := primitive.call handlers transport participant profile response value
    let s := primitive.stage request response world
    let d := dispatch handlers transport participants i request response world
    ∃ sent, dispatch handlers.recorded (Transport.recorded transport) participants i request
        response (world, []) = d.recorded sent ∧
      Fallback c s (c.allTrials s) d.result sent := by
  intro c s d
  have hfew : primitive.actions.length ≤ 16 :=
    Package.length_actions_of_decode hprofile (Invocation.mem_of_find h.found)
  have hroom : value.isSome = true → 4 ≤ s.request.capacity := fun hsome =>
    (capacity_asWord (primitive.resolveRequest request)).symm ▸
      capacity_of_requestValue h.valued hsome
  have hresult : d.result = _ := result_dispatch h handlers transport response world
  refine ⟨_, dispatch_recorded h handlers transport response world [], ?_⟩
  rw [hresult, List.nil_append]
  exact c.fallback_of_trials s hfew hroom

namespace Sample

def unserved : HandlerTable Unit := {}

/-- No handler reads the temperature, so that the kernel side is asked next. -/
theorem falls_back_sample :
    Package.decode image = .ok profile ∧
    Reaches getTemperature participants .void participant profile (primitive getTemperature) none ∧
    let c := (primitive getTemperature).call unserved (reply warm) participant profile
      (.allocate .auto) none
    let s := (primitive getTemperature).stage .void (.allocate .auto) ()
    let d := dispatch unserved (reply warm) participants getTemperature .void (.allocate .auto) ()
    ∃ sent, dispatch unserved.recorded (Transport.recorded (reply warm)) participants
        getTemperature .void (.allocate .auto) ((), []) = d.recorded sent ∧
      Fallback c s (c.allTrials s) d.result sent :=
  ⟨decode_image, reaches_getTemperature,
    dispatch_falls_back decode_image reaches_getTemperature unserved (reply warm)
      (.allocate .auto) ()⟩

/-- No handler sets the trip point, and yet the fault is not that of a missing handler: a request
is converted before a handler is looked for. -/
theorem unserved_needs_algorithm :
    unserved.handler? .sysfs .set = none ∧
    (primitive setTripPoint).actions.map (·.actionType) = [.sysfs] ∧
    (dispatch unserved (reply warm) participants setTripPoint (.ofUInt32 .temperature 50) .void
      ()).result = .error (.needAlgorithm ActionType.sysfs.code) := by
  rw [primitive, participants, participant, profile_eq]
  exact ⟨rfl, by decide, eq_error_of_fault? (by decide)⟩

end Sample

end DeviceSupport
