import DeviceSupport.Proofs.Action.Expansion
import DeviceSupport.Proofs.Dispatch.Conversion
import DeviceSupport.Proofs.Dispatch.Order
import DeviceSupport.Proofs.Dispatch.Response
import Mathlib.Data.List.Induction

/-! The size of a response, from its allocation to its return.

Writing to a response does not change its size, and neither do handlers that `KeepCapacity`. What
is left is the allocation before the first action and the repeat of an action, of which there is
one at most. A trial that is not repeated has one size throughout (`capacities_of_none`), and a
repeat brings the size that its action asked for (`capacities_of_some`); what holds of all trials
of a call, in whatever order their actions ask, is `Grows`. -/
namespace DeviceSupport
set_option autoImplicit false

/-- Handlers write to the response that they are given and do not put another in its place. -/
def HandlerTable.KeepCapacity {σ : Type} (handlers : HandlerTable σ) : Prop :=
  ∀ n, handlers.Keeps fun response => response.capacity = n

/-- What the handler answers to this use of it. -/
def Sent.answer? {σ : Type} (handlers : HandlerTable σ) (world : σ) :
    Sent → Option (Except Fault Unit)
  | .message _ => none
  | .get type call request response =>
    (handlers.handler? type .get).map fun handler =>
      (handler.get call request response world).1.1
  | .set type call request =>
    (handlers.handler? type .set).map fun handler => (handler.set call request world).1

namespace Trial
variable {σ : Type}

/-- The size that the handler of this action asked for at first. -/
def asked? (t : Trial σ) : Option UInt32 :=
  match t.lane, t.first.1 with
  | .handler, .error (.needLargerBuffer needed) => some needed
  | _, _ => none

/-- The sizes that the response had, from stage to stage. -/
def capacities (t : Trial σ) : List Nat :=
  (t.start :: t.first.2 :: (t.second.map (·.2)).toList ++ [t.stop]).map (·.response.capacity)

theorem asked?_eq_some_iff (t : Trial σ) (needed : UInt32) :
    t.asked? = some needed ↔
      t.lane = .handler ∧ t.first.1 = .error (.needLargerBuffer needed) := by
  unfold asked?
  split
  · next hlane hfirst => simp [hlane, hfirst]
  · next hother =>
    exact ⟨fun h => (nomatch h), fun h => absurd h.2 (hother needed h.1)⟩

end Trial

namespace Call
variable {σ : Type} (c : Call σ)

/-! ## One trial -/

theorem capacity_attempt (hkeep : c.handlers.KeepCapacity) (action : Action) (lane : Lane)
    (s : Stage σ) : (c.attempt action lane s).2.response.capacity = s.response.capacity :=
  c.attempt_response (DataBuffer.keptByWrite_capacity _) (hkeep _) action lane rfl

theorem capacity_invoke (hkeep : c.handlers.KeepCapacity) (action : Action) (lane : Lane)
    (s : Stage σ) : (c.invoke action lane s).2.response.capacity = s.response.capacity :=
  c.invoke_response (DataBuffer.keptByWrite_capacity _) (hkeep _) action lane rfl

theorem capacity_conclude (action : Action) (ran : Except Fault Unit × Stage σ) :
    (c.conclude action ran).2.response.capacity = ran.2.response.capacity :=
  c.conclude_response (DataBuffer.keptByWrite_capacity _) action rfl

section
variable {c : Call σ} {retried : Bool} {action : Action} {lane : Lane} {s : Stage σ}

theorem capacities_of_none (hkeep : c.handlers.KeepCapacity)
    (h : c.enlargement? lane retried (c.attempt action lane s).1 = none) :
    (c.trial retried action lane s).stop.response.capacity = s.response.capacity ∧
      (c.trial retried action lane s).capacities = List.replicate 3 s.response.capacity := by
  have hattempt := c.capacity_attempt hkeep action lane s
  have hstop := (c.capacity_conclude action (c.attempt action lane s)).trans hattempt
  rw [trial]
  dsimp only
  rw [h]
  refine ⟨hstop, ?_⟩
  simp only [Trial.capacities, Option.map_none, Option.toList_none, List.cons_append,
    List.nil_append, List.map_cons, List.map_nil, hattempt, hstop]
  rfl

theorem capacities_of_some (hkeep : c.handlers.KeepCapacity) {needed : UInt32}
    (h : c.enlargement? lane retried (c.attempt action lane s).1 = some needed) :
    (c.trial retried action lane s).stop.response.capacity = needed.toNat ∧
      (c.trial retried action lane s).capacities =
        [s.response.capacity, s.response.capacity, needed.toNat, needed.toNat] := by
  have hattempt := c.capacity_attempt hkeep action lane s
  have hsecond := (c.capacity_invoke hkeep action lane
    ((c.attempt action lane s).2.enlarged needed)).trans
      (DataBuffer.capacity_reallocate _ needed.toNat)
  have hstop := (c.capacity_conclude action (c.invoke action lane
    ((c.attempt action lane s).2.enlarged needed))).trans hsecond
  rw [trial]
  dsimp only
  rw [h]
  refine ⟨hstop, ?_⟩
  simp only [Trial.capacities, Option.map_some, Option.toList_some, List.cons_append,
    List.nil_append, List.map_cons, List.map_nil, hattempt, hsecond, hstop]

theorem capacities_of_not_repeated (hkeep : c.handlers.KeepCapacity)
    (h : (c.trial retried action lane s).repeated = false) :
    (c.trial retried action lane s).stop.response.capacity = s.response.capacity ∧
      (c.trial retried action lane s).capacities = List.replicate 3 s.response.capacity := by
  cases hlarger : c.enlargement? lane retried (c.attempt action lane s).1 with
  | none => exact capacities_of_none hkeep hlarger
  | some needed =>
    obtain ⟨hasked, hagain⟩ := (c.enlargement?_eq_some_iff retried lane _ needed).mp hlarger
    rw [(c.repeated_iff retried action lane s).mpr ⟨⟨needed, hasked⟩, hagain⟩] at h
    exact Bool.noConfusion h

end

/-! ## What a handler asks for -/

/-- Running an action in its handler asks for more exactly when the handler is used and asks. -/
theorem runHandler_asks_iff (action : Action) (s : Stage σ) (needed : UInt32) :
    (c.runHandler action s).1 = .error (.needLargerBuffer needed) ↔
      ∃ use, c.sentToHandler? action s = some use ∧
        use.answer? c.handlers s.world = some (.error (.needLargerBuffer needed)) := by
  unfold runHandler sentToHandler?
  cases hhandler : c.handlers.handler? action.actionType c.opcode with
  | none => exact ⟨fun h => (nomatch h), fun ⟨_, h, _⟩ => (nomatch h)⟩
  | some handler =>
    dsimp only
    cases hparams : action.params.expand c.participant.info.name c.primitive.tuple.qualifier with
    | error fault =>
      obtain ⟨text, rfl⟩ := Params.expandFrom_fault hparams
      exact ⟨fun h => (nomatch h), fun ⟨_, h, _⟩ => (nomatch h)⟩
    | ok params =>
      dsimp only
      cases hopcode : c.opcode with
      | get =>
        rw [hopcode] at hhandler
        simp [Sent.answer?, hhandler]
      | set =>
        rw [hopcode] at hhandler
        simp [Sent.answer?, hhandler]

theorem attempt_asks_iff (action : Action) {lane : Lane} {s : Stage σ} (needed : UInt32)
    (hroom : c.requestValue.isSome = true → 4 ≤ s.request.capacity) :
    lane = .handler ∧ (c.attempt action lane s).1 = .error (.needLargerBuffer needed) ↔
      ∃ use, c.sentFirst? action lane s = some use ∧
        use.answer? c.handlers s.world = some (.error (.needLargerBuffer needed)) := by
  unfold attempt sentFirst?
  rcases hprepare : c.prepare action s.request with ⟨fault | _, request⟩
  · have hconversion := c.prepare_fault hroom (congrArg Prod.fst hprepare)
    refine ⟨fun h => ?_, fun ⟨_, h, _⟩ => (nomatch h)⟩
    rw [Except.error.inj h.2] at hconversion
    exact hconversion.elim
  · cases lane with
    | handler =>
      exact (and_iff_right rfl).trans (c.runHandler_asks_iff action { s with request } needed)
    | kernel index =>
      refine ⟨fun h => (nomatch h.1), fun ⟨use, hsent, hanswer⟩ => ?_⟩
      rcases c.sent?_cases hsent with ⟨_, -, -, rfl⟩ | ⟨_, _, hlane, -⟩
      · nomatch hanswer
      · nomatch hlane

theorem trial_sent_head? (retried : Bool) (action : Action) (lane : Lane) {s : Stage σ}
    (hroom : c.requestValue.isSome = true → 4 ≤ s.request.capacity) :
    (c.trial retried action lane s).sent.head? = c.sentFirst? action lane s := by
  cases hfirst : c.sentFirst? action lane s with
  | some use =>
    rw [trial]
    dsimp only
    split
    · rw [hfirst]
      rfl
    · rw [hfirst]
      rfl
  | none =>
    -- An action that was not sent has nothing to repeat.
    have hnone : c.enlargement? lane retried (c.attempt action lane s).1 = none := by
      cases hlarger : c.enlargement? lane retried (c.attempt action lane s).1 with
      | none => rfl
      | some needed =>
        obtain ⟨hasked, hlane, -⟩ := (c.enlargement?_eq_some_iff retried lane _ needed).mp hlarger
        obtain ⟨use, hsent, -⟩ := (c.attempt_asks_iff action needed hroom).mp ⟨hlane, hasked⟩
        cases hfirst.symm.trans hsent
    rw [trial]
    dsimp only
    rw [hnone, hfirst]
    rfl

/-- What a trial asks for is what its handler answered when it was first used. -/
theorem asked?_iff_answer {s : Stage σ} {t : Trial σ} (ht : t ∈ c.allTrials s)
    (hroom : c.requestValue.isSome = true → 4 ≤ s.request.capacity) (needed : UInt32) :
    t.asked? = some needed ↔
      ∃ use, t.sent.head? = some use ∧
        use.answer? c.handlers t.start.world = some (.error (.needLargerBuffer needed)) := by
  have hstart : c.requestValue.isSome = true → 4 ≤ t.start.request.capacity :=
    fun hsome => c.capacity_start s ht ▸ hroom hsome
  obtain ⟨retried, htrial⟩ := c.exists_trial ht
  have hhead : t.sent.head? = c.sentFirst? t.action t.lane t.start := by
    rw [htrial]
    simpa using c.trial_sent_head? retried t.action t.lane hstart
  have hfirst : t.first = c.attempt t.action t.lane t.start := by
    rw [htrial]
    simpa using c.trial_first retried t.action t.lane t.start
  rw [t.asked?_eq_some_iff, hhead, hfirst]
  exact c.attempt_asks_iff t.action needed hstart

/-! ## All trials -/

theorem not_repeated_of_retried (actions : List (Action × Lane)) (s : Stage σ) :
    ∀ t ∈ c.trials true actions s, t.repeated = false := by
  have honce := c.countP_repeated_le true actions s
  have hzero : (c.trials true actions s).countP Trial.repeated = 0 :=
    Nat.le_zero.mp (Nat.le_of_succ_le_succ honce)
  exact fun t ht => Bool.eq_false_iff.mpr (List.countP_eq_zero.mp hzero t ht)

/-- Up to a first repeat the size does not change. -/
theorem capacities_of_none_repeated {c : Call σ} (hkeep : c.handlers.KeepCapacity) {retried : Bool}
    {actions : List (Action × Lane)} {s : Stage σ} {before after : List (Trial σ)}
    (h : c.trials retried actions s = before ++ after) (hnone : ∀ u ∈ before, u.repeated = false) :
    ((before.getLast?.map Trial.stop).getD s).response.capacity = s.response.capacity ∧
      ∀ u ∈ before, u.capacities = List.replicate 3 s.response.capacity := by
  induction before using List.reverseRecOn generalizing after with
  | nil => exact ⟨rfl, fun u hu => absurd hu List.not_mem_nil⟩
  | append_singleton before t ih =>
    rw [List.append_assoc, List.singleton_append] at h
    obtain ⟨hlast, hbefore⟩ := ih h fun u hu => hnone u (List.mem_append_left _ hu)
    obtain ⟨-, -, hstart, ht⟩ := c.trials_split h
    have hrepeated := hnone t (List.mem_append_right _ List.mem_cons_self)
    rw [← hstart] at hlast
    rw [ht] at hrepeated
    obtain ⟨hstop, hcapacities⟩ := capacities_of_not_repeated hkeep hrepeated
    rw [← ht, hlast] at hstop hcapacities
    refine ⟨?_, fun u hu => ?_⟩
    · rw [List.getLast?_concat]
      exact hstop
    · rcases List.mem_append.mp hu with hu | hu
      · exact hbefore u hu
      · rw [List.mem_singleton.mp hu]
        exact hcapacities

end Call

/-- What becomes of the size of a response while the actions of a call are tried: from `entry` to
`final`. -/
structure Grows {σ : Type} (c : Call σ) (trials : List (Trial σ)) (entry final : Nat) : Prop where
  /-- An action asks for more when its handler, used for the first time, answers so. -/
  asked : ∀ t ∈ trials, ∀ needed, t.asked? = some needed ↔
    ∃ use, t.sent.head? = some use ∧
      use.answer? c.handlers t.start.world = some (.error (.needLargerBuffer needed))
  steady : c.typeOpen = false ∨ (∀ t ∈ trials, t.asked? = none) →
    (∀ t ∈ trials, t.capacities = List.replicate 3 entry) ∧ final = entry
  /-- The first action that asks gets what it asks for, and so do those after it. -/
  grown : ∀ before t after needed, trials = before ++ t :: after → c.typeOpen = true →
    t.asked? = some needed → (∀ u ∈ before, u.asked? = none) →
      (∀ u ∈ before, u.capacities = List.replicate 3 entry) ∧
        t.capacities = [entry, entry, needed.toNat, needed.toNat] ∧
        (∀ u ∈ after, u.capacities = List.replicate 3 needed.toNat) ∧ final = needed.toNat
  /-- Whatever the kernel side answers, the size stays. -/
  kernel : ∀ t ∈ trials, t.lane ≠ .handler →
    t.capacities = List.replicate 3 t.start.response.capacity

namespace Call
variable {σ : Type} {c : Call σ}

/-- A handler that does not ask for more is not used again. -/
theorem not_repeated_of_kept {s : Stage σ} {before after : List (Trial σ)}
    (h : c.allTrials s = before ++ after)
    (hkept : ∀ u ∈ before, c.typeOpen = false ∨ u.asked? = none) :
    ∀ u ∈ before, u.repeated = false := by
  intro u hu
  obtain ⟨first, rest, rfl⟩ := List.append_of_mem hu
  rw [List.append_assoc, List.cons_append] at h
  refine Bool.eq_false_iff.mpr fun hrepeated => ?_
  obtain ⟨hlane, hopen, ⟨needed, hneeded⟩, -⟩ := (c.repeated_split h).mp hrepeated
  rcases hkept u hu with hfixed | hnone
  · exact Bool.noConfusion (hfixed.symm.trans hopen)
  · rw [(u.asked?_eq_some_iff needed).mpr ⟨hlane, hneeded⟩] at hnone
    nomatch hnone

theorem allTrials_grown (hkeep : c.handlers.KeepCapacity) (s : Stage σ)
    {before after : List (Trial σ)} {t : Trial σ} {needed : UInt32}
    (h : c.allTrials s = before ++ t :: after) (hopen : c.typeOpen = true)
    (hasked : t.asked? = some needed) (hbefore : ∀ u ∈ before, u.asked? = none) :
    (∀ u ∈ before, u.capacities = List.replicate 3 s.response.capacity) ∧
      t.capacities = [s.response.capacity, s.response.capacity, needed.toNat, needed.toNat] ∧
      (∀ u ∈ after, u.capacities = List.replicate 3 needed.toNat) ∧
      ((after.getLast?.map Trial.stop).getD t.stop).response.capacity = needed.toNat := by
  have hnone := not_repeated_of_kept h fun u hu => .inr (hbefore u hu)
  obtain ⟨hlast, hsteady⟩ := capacities_of_none_repeated hkeep h hnone
  obtain ⟨⟨rest, -, hafter⟩, -, hstart, ht⟩ := c.trials_split h
  obtain ⟨hlane, hfirst⟩ := (t.asked?_eq_some_iff needed).mp hasked
  have hany : before.any Trial.repeated = false :=
    List.any_eq_false.mpr fun u hu => Bool.eq_false_iff.mp (hnone u hu)
  rw [hany, Bool.or_false] at ht
  rw [ht, trial_first] at hfirst
  have hlarger := (c.enlargement?_eq_some_iff false t.lane _ needed).mpr
    ⟨hfirst, hlane, hopen, rfl⟩
  obtain ⟨hstop, hcapacities⟩ := capacities_of_some hkeep hlarger
  rw [← ht] at hstop hcapacities
  rw [← hstart] at hlast
  rw [hlast] at hcapacities
  refine ⟨hsteady, hcapacities, ?_⟩
  have hrepeated : t.repeated = true := by
    rw [ht]
    exact (c.repeated_iff false t.action t.lane t.start).mpr ⟨⟨needed, hfirst⟩, hlane, hopen, rfl⟩
  rw [← hstop, hafter, hrepeated, Bool.or_true]
  split
  · exact ⟨fun u hu => absurd hu List.not_mem_nil, rfl⟩
  · exact (capacities_of_none_repeated hkeep (List.append_nil _).symm
      (c.not_repeated_of_retried rest t.stop)).symm

theorem grows_of_trials (hkeep : c.handlers.KeepCapacity) (s : Stage σ)
    (hroom : c.requestValue.isSome = true → 4 ≤ s.request.capacity) :
    Grows c (c.allTrials s) s.response.capacity (c.runAll s).2.response.capacity := by
  have hfinal : (c.runAll s).2 = ((c.allTrials s).getLast?.map Trial.stop).getD s :=
    congrArg Prod.snd (c.run_eq _ _ _ s)
  refine
    { asked := fun t ht needed => c.asked?_iff_answer ht hroom needed
      steady := fun hkept => ?steady
      grown := fun before t after needed h hopen hasked hbefore => ?grown
      kernel := fun t ht hlane => ?kernel }
  case steady =>
    have hall : c.allTrials s = c.allTrials s ++ [] := (List.append_nil _).symm
    obtain ⟨hlast, hsteady⟩ := capacities_of_none_repeated hkeep hall
      (not_repeated_of_kept hall fun u hu => hkept.imp_right fun hnone => hnone u hu)
    exact ⟨hsteady, hfinal ▸ hlast⟩
  case grown =>
    obtain ⟨hsteady, hcapacities, hlater, hlast⟩ :=
      allTrials_grown hkeep s h hopen hasked hbefore
    refine ⟨hsteady, hcapacities, hlater, ?_⟩
    rw [hfinal, h, List.getLast?_append, List.getLast?_cons, Option.some_or, Option.map_some,
      Option.getD_some]
    exact (Option.getD_map Trial.stop t after.getLast?).symm ▸ hlast
  case kernel =>
    obtain ⟨retried, htrial⟩ := c.exists_trial ht
    have hnone : c.enlargement? t.lane retried (c.attempt t.action t.lane t.start).1 = none := by
      cases hlarger : c.enlargement? t.lane retried (c.attempt t.action t.lane t.start).1 with
      | none => rfl
      | some needed =>
        exact absurd ((c.enlargement?_eq_some_iff retried t.lane _ needed).mp hlarger).2.1 hlane
    rw [htrial, trial_start]
    exact (capacities_of_none hkeep hnone).2

end Call

/-! ## The call -/

/-- The size that a response gets when its type is settled. -/
def DataBuffer.sizeFor (b : DataBuffer) (resolved : DataType) : Nat :=
  if b.needsAllocation then resolved.defaultSize else b.capacity

theorem Primitive.capacity_resolveResponse (p : Primitive) (response : DataBuffer) :
    (p.resolveResponse response).capacity =
      response.sizeFor (p.resolveResponse response).dataType := by
  have hwaits (type : DataType) :
      { response with dataType := type }.needsAllocation = response.needsAllocation := rfl
  unfold resolveResponse DataBuffer.sizeFor
  dsimp only
  split
  · rw [hwaits]
    split
    · exact DataBuffer.capacity_reallocate _ _
    · rfl
  · split
    · exact DataBuffer.capacity_reallocate _ _
    · rfl

theorem Dispatched.capacity_clearFailed {σ : Type} (d : Dispatched σ) :
    d.clearFailed.response.capacity = d.response.capacity := by
  unfold clearFailed
  split
  · rfl
  · exact List.length_replicate

/-- What a dispatch does to the size of the response. -/
structure Sized {σ : Type} (handlers : HandlerTable σ) (transport : Transport σ)
    (participants : ParticipantTable) (i : Invocation) (request response : DataBuffer) (world : σ)
    (d : Dispatched σ) : Prop where
  resolved : d.response.dataType = settledType (i.primitive? participants)
    (fun primitive => (primitive.resultDataType?.getD .void).widened) response.dataType
  /-- A response with a type and a size of its own keeps the size. -/
  fixed : response.dataType ≠ .auto → response.needsAllocation = false →
    d.response.capacity = response.capacity
  unfound : i.primitive? participants = none → d.response.capacity = response.capacity
  allocated : (i.primitive? participants).isSome = true → response.dataType ≠ .auto →
    response.needsAllocation = true → d.response.capacity = d.response.dataType.defaultSize
  /-- A call that finds its primitive but not the value of its request tries no action. -/
  valueless : ∀ participant profile primitive fault,
    i.find participants = .ok (participant, profile, primitive) →
      requestValue (primitive.resolveRequest request) = .error fault →
        d.response.capacity = response.sizeFor d.response.dataType
  tried : ∀ participant profile primitive value,
    Reaches i participants request participant profile primitive value →
      let c := primitive.call handlers transport participant profile response value
      Grows c (c.allTrials (primitive.stage request response world))
        (response.sizeFor d.response.dataType) d.response.capacity

section
variable {σ : Type} {handlers : HandlerTable σ} {participants : ParticipantTable} {i : Invocation}
  {request : DataBuffer} {participant : Participant} {profile : Profile} {primitive : Primitive}
  {value : Option (Measure × UInt32)}

theorem dispatch_grows (hkeep : handlers.KeepCapacity)
    (h : Reaches i participants request participant profile primitive value)
    (transport : Transport σ) (response : DataBuffer) (world : σ) :
    let c := primitive.call handlers transport participant profile response value
    let d := dispatch handlers transport participants i request response world
    Grows c (c.allTrials (primitive.stage request response world))
      (response.sizeFor d.response.dataType) d.response.capacity := by
  intro c d
  have hentry : (primitive.stage request response world).response.capacity =
      response.sizeFor d.response.dataType := by
    rw [Primitive.stage, capacity_asWord, primitive.capacity_resolveResponse,
      responseType_of_found h.found handlers transport request response world]
  have hfinal : d.response.capacity =
      (c.runAll (primitive.stage request response world)).2.response.capacity := by
    rw [show d = _ from dispatch_of_reaches h handlers transport response world,
      Dispatched.capacity_clearFailed]
    rfl
  rw [← hentry, hfinal]
  exact Call.grows_of_trials hkeep _ (h.room response world)

theorem capacity_of_valueless {fault : Fault}
    (hfound : i.find participants = .ok (participant, profile, primitive))
    (hvalue : requestValue (primitive.resolveRequest request) = .error fault)
    (handlers : HandlerTable σ) (transport : Transport σ) (response : DataBuffer) (world : σ) :
    let d := dispatch handlers transport participants i request response world
    d.response.capacity = response.sizeFor d.response.dataType := by
  intro d
  have htype : d.response.dataType = (primitive.resolveResponse response).dataType :=
    responseType_of_found hfound handlers transport request response world
  have hd : d = _ := dispatch_of_valueless hfound hvalue handlers transport response world
  rw [htype, ← primitive.capacity_resolveResponse, hd, Dispatched.capacity_clearFailed]
  rfl

/-- A response whose type is not left open has one size from the first action to the return. -/
theorem capacity_of_typed (hkeep : handlers.KeepCapacity)
    (hfound : i.find participants = .ok (participant, profile, primitive))
    (transport : Transport σ) (request : DataBuffer) {response : DataBuffer}
    (htype : response.dataType ≠ .auto) (world : σ) :
    let d := dispatch handlers transport participants i request response world
    d.response.capacity = response.sizeFor d.response.dataType := by
  cases hvalue : requestValue (primitive.resolveRequest request) with
  | error fault => exact capacity_of_valueless hfound hvalue handlers transport response world
  | ok value =>
    exact ((dispatch_grows hkeep ⟨hfound, hvalue⟩ transport response world).steady
      (.inl (decide_eq_false htype))).2

theorem capacity_of_unfound (hunfound : i.primitive? participants = none)
    (handlers : HandlerTable σ) (transport : Transport σ) (request response : DataBuffer)
    (world : σ) :
    (dispatch handlers transport participants i request response world).response.capacity =
      response.capacity := by
  rcases hfound : i.find participants with fault | ⟨participant, profile, primitive⟩
  · rw [dispatch, hfound]
    exact Dispatched.capacity_clearFailed _
  · cases (Invocation.primitive?_of_ok hfound).symm.trans hunfound

end

/-- Whatever the actions answer, and however many of them ask for more, a caller's own size is kept,
a response that waits for allocation gets the size of its type, and after that only the first
handler that asks for more changes the size, once. -/
theorem dispatch_sizes {σ : Type} {handlers : HandlerTable σ} (hkeep : handlers.KeepCapacity)
    (transport : Transport σ) (participants : ParticipantTable) (i : Invocation)
    (request response : DataBuffer) (world : σ) :
    Sized handlers transport participants i request response world
      (dispatch handlers transport participants i request response world) := by
  have hsized : response.needsAllocation = false →
      ∀ type, response.sizeFor type = response.capacity :=
    fun hkept _ => if_neg (Bool.eq_false_iff.mp hkept)
  refine
    { resolved :=
        responseType_dispatch handlers transport participants i request response world
      fixed := fun htype hkept => ?fixed
      unfound := fun hunfound =>
        capacity_of_unfound hunfound handlers transport request response world
      allocated := fun hfound htype hwaits => ?allocated
      valueless := fun _ _ _ _ hfound hvalue =>
        capacity_of_valueless hfound hvalue handlers transport response world
      tried := fun _ _ _ _ h => dispatch_grows hkeep h transport response world }
  case fixed =>
    rcases hfound : i.find participants with fault | ⟨participant, profile, primitive⟩
    · exact capacity_of_unfound (Invocation.primitive?_of_error hfound) _ _ _ _ _
    · exact (capacity_of_typed hkeep hfound transport request htype world).trans (hsized hkept _)
  case allocated =>
    rcases hfound' : i.find participants with fault | ⟨participant, profile, primitive⟩
    · rw [Invocation.primitive?_of_error hfound'] at hfound
      nomatch hfound
    · exact (capacity_of_typed hkeep hfound' transport request htype world).trans (if_pos hwaits)

namespace Sample

/-- A handler that gives these faults one after the other. -/
def script : Handler (List Fault) where
  get _ _ response faults := ((.error (faults.headD (.timeout "script")), response), faults.tail)
  set _ _ faults := (.error (faults.headD (.timeout "script")), faults.tail)

def scripted : HandlerTable (List Fault) :=
  ⟨[(.sysfs, ⟨"SYSFS", .both, script⟩), (.lal, ⟨"LAL", .both, script⟩)]⟩

/-- A kernel side for which every response is too small. -/
def cramped : Transport (List Fault) := fun _ faults => (.ok ⟨1300, 64, []⟩, faults)

theorem keepCapacity_scripted : scripted.KeepCapacity := by
  intro n type handler hhandler call request response faults hcapacity
  obtain ⟨entry, hentry, hserves⟩ := Option.bind_eq_some_iff.mp hhandler
  have hscript : handler = script := by
    rcases List.mem_cons.mp (Table.mem_of_get? hentry) with heq | hmem
    · cases heq
      exact (Option.some.inj hserves).symm
    · cases List.mem_singleton.mp hmem
      exact (Option.some.inj hserves).symm
  rw [hscript]
  exact hcapacity

def requests : List Fault :=
  [.needLargerBuffer 8, .timeout "handler", .needLargerBuffer 32]

def scriptedCall : Call (List Fault) :=
  hysteresisPrimitive.call scripted cramped hysteresisParticipant hysteresisProfile
    (.allocate .auto) none

def scriptedTrials : List (Trial (List Fault)) :=
  scriptedCall.allTrials (hysteresisPrimitive.stage .void (.allocate .auto) requests)

def scriptedDispatch : Dispatched (List Fault) :=
  dispatch scripted cramped ⟨[hysteresisParticipant]⟩ getHysteresis .void (.allocate .auto) requests

/-- Three actions ask for more. The handler that asks first gets its eight bytes and fails all the
same; the kernel side and the last handler ask in vain. -/
theorem first_request_granted :
    scripted.KeepCapacity ∧
      scriptedTrials.map (fun t => (t.lane, fault? t.first.1, t.asked?)) =
        [(.handler, some (.needLargerBuffer 8), some 8),
          (.kernel 0, some (.needLargerBuffer 64), none),
          (.handler, some (.needLargerBuffer 32), some 32)] ∧
      scriptedTrials.map Trial.capacities = [[4, 4, 8, 8], [8, 8, 8], [8, 8, 8]] ∧
      scriptedDispatch.response.capacity = 8 := by
  have hreaches : Reaches getHysteresis ⟨[hysteresisParticipant]⟩ .void hysteresisParticipant
      hysteresisProfile hysteresisPrimitive none :=
    ⟨reaches_getHysteresis.found, by
      rw [Primitive.resolveRequest_of_ne _ (by decide)]
      rfl⟩
  have hasked : scriptedTrials.map (fun t => (t.lane, fault? t.first.1, t.asked?)) =
      [(.handler, some (.needLargerBuffer 8), some 8),
        (.kernel 0, some (.needLargerBuffer 64), none),
        (.handler, some (.needLargerBuffer 32), some 32)] := by decide
  have hsizes := dispatch_sizes keepCapacity_scripted cramped ⟨[hysteresisParticipant]⟩
    getHysteresis .void (.allocate .auto) requests
  have hentry : (DataBuffer.allocate .auto).sizeFor scriptedDispatch.response.dataType = 4 := by
    decide
  obtain ⟨first, rest, htrials, hfirst, hrest⟩ := List.map_eq_cons_iff.mp hasked
  obtain ⟨second, rest, rfl, -, hrest⟩ := List.map_eq_cons_iff.mp hrest
  obtain ⟨third, rest, rfl, -, hrest⟩ := List.map_eq_cons_iff.mp hrest
  obtain rfl := List.map_eq_nil_iff.mp hrest
  obtain ⟨-, hgranted, hlater, hfinal⟩ := (hsizes.tried _ _ _ _ hreaches).grown [] first
    [second, third] 8 htrials rfl (congrArg (·.2.2) hfirst) (List.forall_mem_nil _)
  have hsecond := hlater second List.mem_cons_self
  have hthird := hlater third (List.mem_cons_of_mem _ List.mem_cons_self)
  refine ⟨keepCapacity_scripted, hasked, ?_, hfinal⟩
  rw [← scriptedDispatch, hentry] at hgranted
  rw [htrials, List.map_cons, List.map_cons, List.map_cons, List.map_nil, hgranted, hsecond,
    hthird]
  rfl

end Sample

end DeviceSupport
