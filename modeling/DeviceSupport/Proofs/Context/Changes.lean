import DeviceSupport.Proofs.Dispatch.Effects
import DeviceSupport.Proofs.Dispatch.Writes
import DeviceSupport.Proofs.Participants
import DeviceSupport.Proofs.Profile.Duplicates

/-! Which calls are told of as changes.

A call raises an event when it ends with the success of a configuration action that is not the
kernel side's, on a set whose id stands in the table of events (`Call.Configures`), and in no other
case. The event is decided after the last action, so that what failed before has no part in it. -/
namespace DeviceSupport
set_option autoImplicit false

/-- A call that ends with the success of this trial, and what listeners are told of it. -/
structure Call.Configures {σ : Type} (c : Call σ) (trials : List (Trial σ)) (t : Trial σ)
    (n : Notice) : Prop where
  last : trials.getLast? = some t
  done : t.outcome = .ok ()
  user : t.action.isKernel = false
  type : t.action.actionType = .config
  opcode : c.opcode = .set
  participant : n.participant = c.participant.id
  domain : n.domain = c.primitive.tuple.domain
  event : changeEvent? c.primitive.tuple.id = some n.event

namespace Call
variable {σ : Type}

theorem notice?_eq_some_iff (c : Call σ) (action : Action) (n : Notice) :
    c.notice? action = some n ↔
      (action.isKernel = false ∧ c.opcode = .set ∧ action.actionType = .config) ∧
        n.participant = c.participant.id ∧ n.domain = c.primitive.tuple.domain ∧
        changeEvent? c.primitive.tuple.id = some n.event := by
  obtain ⟨participant, domain, event⟩ := n
  unfold notice?
  split
  · next hconfigures =>
    rw [Option.map_eq_some_iff, and_iff_right hconfigures]
    constructor
    · rintro ⟨event, hevent, hnotice⟩
      cases hnotice
      exact ⟨rfl, rfl, hevent⟩
    · rintro ⟨rfl, rfl, hevent⟩
      exact ⟨event, hevent, rfl⟩
  · next hother => exact ⟨fun h => (nomatch h), fun h => absurd h.1 hother⟩

theorem answer_notice_iff (c : Call σ) (last : Fault) (trials : List (Trial σ)) (n : Notice) :
    (answer last trials).toOption.bind c.notice? = some n ↔ ∃ t, c.Configures trials t n := by
  unfold answer
  cases hlast : trials.getLast? with
  | none => exact ⟨fun h => (nomatch h), fun ⟨t, h⟩ => (nomatch hlast.symm.trans h.last)⟩
  | some t =>
    dsimp only
    cases houtcome : t.outcome with
    | error fault =>
      refine ⟨fun h => (nomatch h), fun ⟨u, h⟩ => ?_⟩
      obtain rfl := Option.some.inj (hlast.symm.trans h.last)
      nomatch houtcome.symm.trans h.done
    | ok u =>
      refine (c.notice?_eq_some_iff t.action n).trans ⟨fun h => ⟨t, ?_⟩, fun ⟨u, h⟩ => ?_⟩
      · obtain ⟨⟨huser, hset, htype⟩, hparticipant, hdomain, hevent⟩ := h
        exact ⟨hlast, houtcome, huser, htype, hset, hparticipant, hdomain, hevent⟩
      · obtain rfl := Option.some.inj (hlast.symm.trans h.last)
        exact ⟨⟨h.user, h.opcode, h.type⟩, h.participant, h.domain, h.event⟩

end Call

/-! ## What a call is for -/

namespace Invocation
variable {i : Invocation} {participants : ParticipantTable} {participant : Participant}
  {profile : Profile} {primitive : Primitive}

theorem find_eq_ok (h : i.find participants = .ok (participant, profile, primitive)) :
    participants.find? i.participant = some participant ∧
      profile.primitive? i.tuple = some primitive := by
  unfold find at h
  split at h
  · nomatch h
  · next hparticipant =>
    split at h
    · nomatch h
    · split at h
      · nomatch h
      · next hprimitive =>
        cases h
        exact ⟨hparticipant, hprimitive⟩

theorem tuple_of_find (hindexed : profile.Indexed)
    (h : i.find participants = .ok (participant, profile, primitive)) :
    primitive.tuple = i.tuple := by
  have hprimitive := (find_eq_ok h).2
  rw [hindexed.primitive?_eq] at hprimitive
  have htuple := List.find?_some hprimitive
  exact of_decide_eq_true htuple

end Invocation

/-! ## The call -/

section
variable {σ : Type} (handlers : HandlerTable σ) (transport : Transport σ)
  (participants : ParticipantTable) (i : Invocation) (request response : DataBuffer) (world : σ)

theorem notice_iff (n : Notice) :
    (dispatch handlers transport participants i request response world).notice = some n ↔
      ∃ participant profile primitive value t,
        Reaches i participants request participant profile primitive value ∧
          let c := primitive.call handlers transport participant profile response value
          c.Configures (c.allTrials (primitive.stage request response world)) t n := by
  constructor
  · intro hnotice
    rcases dispatch_exits handlers transport participants i request response world with
      ⟨_, -, hdispatch⟩ | ⟨_, _, _, _, -, hdispatch⟩ |
        ⟨participant, profile, primitive, value, hreaches⟩
    · rw [hdispatch] at hnotice
      nomatch hnotice
    · rw [hdispatch] at hnotice
      nomatch hnotice
    · rw [notice_dispatch hreaches, Call.answer_notice_iff] at hnotice
      obtain ⟨t, ht⟩ := hnotice
      exact ⟨participant, profile, primitive, value, t, hreaches, ht⟩
  · rintro ⟨participant, profile, primitive, value, t, hreaches, ht⟩
    rw [notice_dispatch hreaches, Call.answer_notice_iff]
    exact ⟨t, ht⟩

end

/-- A call tells listeners of one change, when it ends with the success of a configuration action
outside the kernel side on a set whose id has an event, and of nothing otherwise. -/
theorem execute_announces {σ : Type} (c : Context σ) (i : Invocation)
    (request response : DataBuffer) :
    let d := (c.execute i request response).1
    let after := (c.execute i request response).2
    ∃ told : Option Notice, after.notices = c.notices ++ told.toList ∧
      (∀ n, told = some n ↔
        d.result = .ok () ∧ ∃ participant profile primitive value t,
          Reaches i c.participants request participant profile primitive value ∧
            let call := primitive.call c.handlers c.transport participant profile response value
            call.Configures (call.allTrials (primitive.stage request response c.world)) t n) ∧
      ∀ n, told = some n → n.participant = i.participant ∧
        ∀ image participant profile primitive, Package.decode image = .ok profile →
          i.find c.participants = .ok (participant, profile, primitive) →
            n.domain = i.tuple.domain ∧ changeEvent? i.id = some n.event := by
  intro d after
  have htold := notice_iff c.handlers c.transport c.participants i request response c.world
  refine ⟨d.notice, rfl, fun n => ?iff, fun n hn => ?names⟩
  case iff =>
    refine (htold n).trans ⟨fun h => ⟨?_, h⟩, fun h => h.2⟩
    obtain ⟨participant, profile, primitive, value, t, hreaches, ht⟩ := h
    exact (result_dispatch hreaches c.handlers c.transport response c.world).trans
      ((Call.answer_of_last ht.last).trans ht.done)
  case names =>
    obtain ⟨participant, profile, primitive, value, t, hreaches, ht⟩ := (htold n).mp hn
    obtain ⟨hparticipant, -⟩ := Invocation.find_eq_ok hreaches.found
    refine ⟨ht.participant.trans (ParticipantTable.id_of_find? hparticipant),
      fun image _ _ _ hprofile hfound => ?_⟩
    cases hreaches.found.symm.trans hfound
    have htuple := Invocation.tuple_of_find (Profile.reported_of_decode hprofile).indexed hfound
    refine ⟨ht.domain.trans (congrArg Tuple.domain htuple), ?_⟩
    have hid : primitive.tuple.id = i.id := congrArg Tuple.id htuple
    exact hid ▸ ht.event

namespace Sample

/-- A context in which the trip point is a configuration. -/
def configuredContext : Context Context.Stores :=
  let action : Action :=
    { size := 0, actionType := .config, priority := 0, isKernel := false
      params := .ofList [some (.text "passive")] }
  let profile := Profile.insertPrimitives { descriptor := { code := "demo" }, declaredSize := 0 }
    [{ tripPointPrimitive with actions := [action] }]
  { Context.standalone with
    participants := ⟨[
      { id := 1, info := ⟨"TCPU", "", .platform "" ""⟩, bound := some (default, profile) }]⟩ }

end Sample

/-- A trip point that is configured is told of. -/
example : (Sample.configuredContext.execute Sample.setTripPoint (.ofUInt32 .uint32 50)
    .void).2.notices = [⟨1, Sample.setTripPoint.tuple.domain, .participantSpecChanged⟩] := by
  decide

/-- One that is set on the kernel side, after its configuration has failed, is not. -/
example : (Sample.tripPointContext.execute Sample.setTripPoint (.ofUInt32 .temperature 50)
    .void).2.notices = [] := by decide

end DeviceSupport
