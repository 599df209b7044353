import DeviceSupport.Proofs.Context.Operations
import DeviceSupport.Proofs.Dispatch.Effects
import DeviceSupport.Proofs.Dispatch.Restoration

/-! What listeners are told of a participant's coming and going agrees with the table.

For each id the creations and removals in the log take turns, a creation first, and the id is live
just when their number is odd. `Accounted` is this invariant: whatever leaves log and table alone
keeps it, and a participant that comes or goes adds the event whose turn it is
(`Accounted.comes`, `Accounted.goes`). Calls of primitives tell listeners of changes only
(`changeEvent?_of_notice`), which are no comings and goings. -/
namespace DeviceSupport
set_option autoImplicit false

/-! ## Coming and going in a log -/

namespace Lifecycle

/-- The notice tells that the participant with the id comes or goes. -/
def Concerns (id : UInt8) (n : Notice) : Prop :=
  n.participant = id ∧ (n.event = .participantCreate ∨ n.event = .participantDestroy)

instance (id : UInt8) : DecidablePred (Concerns id) := fun _ => inferInstanceAs (Decidable (_ ∧ _))

/-- What a log says of the coming and going of an id. -/
def events (notices : List Notice) (id : UInt8) : List EventType :=
  (notices.filter fun n => Concerns id n).map (·.event)

/-- The event whose turn it is after so many others. -/
def turn (n : Nat) : EventType := if n % 2 = 0 then .participantCreate else .participantDestroy

/-- Creations and removals by turns, a creation first. -/
def Alternates (events : List EventType) : Prop :=
  ∀ i event, events[i]? = some event → event = turn i

theorem alternates_nil : Alternates [] := fun _ _ h => nomatch h

theorem Alternates.concat {events : List EventType} (h : Alternates events) :
    Alternates (events ++ [turn events.length]) := by
  intro i event hi
  rcases Nat.lt_trichotomy i events.length with hlt | rfl | hgt
  · rw [List.getElem?_append_left hlt] at hi
    exact h i event hi
  · rw [List.getElem?_concat_length] at hi
    exact (Option.some.inj hi).symm
  · have hlength := (List.getElem?_eq_some_iff.mp hi).1
    rw [List.length_append, List.length_singleton] at hlength
    omega

/-- The last event is a creation just when their number is odd. -/
theorem Alternates.getLast?_iff {events : List EventType} (h : Alternates events) :
    events.getLast? = some .participantCreate ↔ events.length % 2 = 1 := by
  rw [List.getLast?_eq_getElem?]
  cases hlast : events[events.length - 1]? with
  | none =>
    have hempty := List.getElem?_eq_none_iff.mp hlast
    have hzero : events.length = 0 := by omega
    simp [hzero]
  | some event =>
    have hlt := (List.getElem?_eq_some_iff.mp hlast).1
    rw [h _ _ hlast, turn]
    split
    · have hodd : events.length % 2 = 1 := by omega
      simp [hodd]
    · have heven : events.length % 2 ≠ 1 := by omega
      simp only [heven, iff_false]
      decide

theorem events_concat (notices : List Notice) (n : Notice) (id : UInt8) :
    events (notices ++ [n]) id =
      events notices id ++ if Concerns id n then [n.event] else [] := by
  rw [events, List.filter_append, List.map_append]
  by_cases h : Concerns id n <;> simp [events, h]

end Lifecycle

/-! ## Calls -/

theorem not_concerns_of_change {id : UInt16} {n : Notice} (h : changeEvent? id = some n.event)
    (participant : UInt8) : ¬ Lifecycle.Concerns participant n := by
  have hevent : n.event = .participantSpecChanged ∨ n.event = .thermalRelationshipChanged ∨
      n.event = .activeRelationshipChanged := by
    unfold changeEvent? at h
    split at h
    · exact .inl (Option.some.inj h).symm
    · split at h
      · exact .inr (.inl (Option.some.inj h).symm)
      · split at h
        · exact .inr (.inr (Option.some.inj h).symm)
        · nomatch h
  rintro ⟨-, hlifecycle⟩
  rcases hevent with hevent | hevent | hevent <;> rw [hevent] at hlifecycle <;>
    exact absurd hlifecycle (by decide)

section
variable {σ : Type}

/-- Listeners of a call are told of a change only. -/
theorem changeEvent?_of_notice {handlers : HandlerTable σ} {transport : Transport σ}
    {participants : ParticipantTable} {i : Invocation} {request response : DataBuffer} {world : σ}
    {n : Notice}
    (h : (dispatch handlers transport participants i request response world).notice = some n) :
    ∃ id, changeEvent? id = some n.event := by
  rcases dispatch_exits handlers transport participants i request response world with
    ⟨_, -, hdispatch⟩ | ⟨_, _, _, _, -, hdispatch⟩ |
      ⟨participant, profile, primitive, value, hreaches⟩
  · rw [hdispatch] at h
    nomatch h
  · rw [hdispatch] at h
    nomatch h
  · rw [notice_dispatch hreaches] at h
    obtain ⟨action, -, hnotice⟩ := Option.bind_eq_some_iff.mp h
    unfold Call.notice? at hnotice
    split at hnotice
    · obtain ⟨event, hevent, rfl⟩ := Option.map_eq_some_iff.mp hnotice
      exact ⟨_, hevent⟩
    · nomatch hnotice

end

/-! ## Log and table -/

namespace Context
variable {σ : Type} {c d : Context σ} {id : UInt8}

/-- The log and the table agree on an id. -/
structure Accounted (c : Context σ) (id : UInt8) : Prop where
  alternates : Lifecycle.Alternates (Lifecycle.events c.notices id)
  live_iff : (c.participants.find? id).isSome = true ↔
    (Lifecycle.events c.notices id).length % 2 = 1

theorem Accounted.keep (h : c.Accounted id)
    (hlog : Lifecycle.events d.notices id = Lifecycle.events c.notices id)
    (hlive : (d.participants.find? id).isSome = (c.participants.find? id).isSome) :
    d.Accounted id :=
  ⟨hlog ▸ h.alternates, by rw [hlive, hlog, h.live_iff]⟩

theorem Accounted.comes (h : c.Accounted id) {p : Participant}
    (hnew : c.participants.find? id = none) (hmade : d.participants.find? id = some p)
    (hlog : Lifecycle.events d.notices id =
      Lifecycle.events c.notices id ++ [.participantCreate]) : d.Accounted id := by
  obtain ⟨halternates, hlive⟩ := h
  rw [hnew] at hlive
  have heven : (Lifecycle.events c.notices id).length % 2 = 0 := by
    have hodd : ¬ (Lifecycle.events c.notices id).length % 2 = 1 := fun h => nomatch hlive.mpr h
    omega
  have hturn : Lifecycle.turn (Lifecycle.events c.notices id).length = .participantCreate :=
    if_pos heven
  rw [← hturn] at hlog
  refine ⟨hlog ▸ halternates.concat, ?_⟩
  rw [hmade, hlog, List.length_append, List.length_singleton, Option.isSome_some]
  exact iff_of_true rfl (by omega)

theorem Accounted.goes (h : c.Accounted id) {p : Participant}
    (hlive : c.participants.find? id = some p) (hgone : d.participants.find? id = none)
    (hlog : Lifecycle.events d.notices id =
      Lifecycle.events c.notices id ++ [.participantDestroy]) : d.Accounted id := by
  obtain ⟨halternates, hodd⟩ := h
  rw [hlive] at hodd
  replace hodd := hodd.mp rfl
  have hturn : Lifecycle.turn (Lifecycle.events c.notices id).length = .participantDestroy :=
    if_neg (by omega)
  rw [← hturn] at hlog
  refine ⟨hlog ▸ halternates.concat, ?_⟩
  rw [hgone, hlog, List.length_append, List.length_singleton, Option.isSome_none]
  exact iff_of_false Bool.false_ne_true (by omega)

/-! ## Operations -/

theorem events_notify (c : Context σ) (other : UInt8) {event : EventType}
    (h : event = .participantCreate ∨ event = .participantDestroy) (id : UInt8) :
    Lifecycle.events (c.notify other event).notices id =
      Lifecycle.events c.notices id ++ if other = id then [event] else [] := by
  have hconcerns : Lifecycle.Concerns id ⟨other, 0, event⟩ ↔ other = id := and_iff_left h
  rw [notify, Lifecycle.events_concat]
  simp only [hconcerns]

theorem accounted_create (h : c.Accounted id) (info : ParticipantInfo) :
    (c.create info).2.Accounted id := by
  rcases c.create_cases info with
    ⟨-, fault, hcreate⟩ | ⟨made, bound, participants, hfree, -, hfind, hcreate⟩
  · rw [hcreate]
    exact h
  · have hlog := events_notify { c with participants } made (.inl rfl) id
    rw [hcreate]
    by_cases hid : made = id
    · subst hid
      rw [if_pos rfl] at hlog
      have hmade := hfind made
      rw [if_pos rfl] at hmade
      exact h.comes (ParticipantTable.find?_of_freeId? hfree) hmade hlog
    · rw [if_neg hid, List.append_nil] at hlog
      exact h.keep hlog (congrArg Option.isSome ((hfind id).trans (if_neg hid)))

theorem accounted_remove (h : c.Accounted id) (other : UInt8) :
    (c.remove other).2.Accounted id := by
  rcases c.remove_cases other with ⟨-, hremove⟩ | ⟨participant, hlive, hremove⟩
  · rw [hremove]
    exact h
  · have hlog := events_notify { c with participants := (c.participants.remove other).2 } other
      (.inr rfl) id
    have hfind := c.participants.find?_remove other id
    rw [hremove]
    by_cases hid : other = id
    · subst hid
      rw [if_pos rfl] at hlog hfind
      exact h.goes hlive hfind hlog
    · rw [if_neg hid, List.append_nil] at hlog
      rw [if_neg hid] at hfind
      exact h.keep hlog (congrArg Option.isSome hfind)

theorem Accounted.bind (h : c.Accounted id) (other : UInt8)
    (bound : Option (ProfileId × Profile)) :
    Accounted { c with participants := c.participants.bind other bound } id := by
  refine h.keep rfl ?_
  dsimp only
  rw [ParticipantTable.find?_bind]
  split
  · exact Option.isSome_map
  · rfl

theorem accounted_call (h : c.Accounted id) (e : Execution) : (c.call e).2.Accounted id := by
  refine h.keep ?_ rfl
  have hnotices : (c.call e).2.notices = c.notices ++ (c.call e).1.notice.toList := rfl
  rw [hnotices]
  cases hnotice : (c.call e).1.notice with
  | none => exact congrArg (Lifecycle.events · id) (List.append_nil _)
  | some n =>
    obtain ⟨primitive, hchange⟩ := changeEvent?_of_notice hnotice
    rw [Option.toList_some, Lifecycle.events_concat, if_neg (not_concerns_of_change hchange id),
      List.append_nil]

theorem accounted_perform (h : c.Accounted id) (op : Operation) : (c.perform op).Accounted id := by
  cases op with
  | register profile => exact h.keep rfl rfl
  | unload other => exact h.keep rfl rfl
  | create info => exact accounted_create h info
  | rebind other =>
    rcases c.rebind_cases other with ⟨-, hrebind⟩ | ⟨participant, bound, -, -, hrebind⟩
    · rw [perform, hrebind]
      exact h
    · rw [perform, hrebind]
      exact h.bind other bound
  | remove other => exact accounted_remove h other
  | execute e => exact accounted_call h e

theorem accounted_run (h : c.Accounted id) (history : List Operation) :
    (c.run history).Accounted id := by
  induction history generalizing c with
  | nil => exact h
  | cons op later ih => exact ih (accounted_perform h op)

/-- After any operations, whether they went through or not, the creations and removals that were
told of an id take turns from a creation on, and the id is live when the last was a creation. One
that goes through is told of once, one that fails is not, and binding anew never is. -/
theorem lifecycle_alternates (handlers : HandlerTable σ) (transport : Transport σ)
    (loader : Loader) (searchPaths : List String) (world : σ) (history : List Operation) :
    let start : Context σ := { handlers, transport, loader, searchPaths, world }
    let c := start.run history
    (∀ id, Lifecycle.Alternates (Lifecycle.events c.notices id) ∧
        ((c.participants.find? id).isSome = true ↔
          (Lifecycle.events c.notices id).getLast? = some .participantCreate)) ∧
      (∀ info, (c.create info).2.notices =
        c.notices ++ ((c.create info).1.toOption.map fun p =>
          (⟨p.id, 0, .participantCreate⟩ : Notice)).toList) ∧
      (∀ id, (c.remove id).2.notices =
        c.notices ++ ((c.remove id).1.toOption.map fun _ =>
          (⟨id, 0, .participantDestroy⟩ : Notice)).toList) ∧
      ∀ id, (c.rebind id).2.notices = c.notices := by
  intro start c
  refine ⟨fun id => ?told, fun info => ?create, fun id => ?remove, fun id => ?rebind⟩
  case told =>
    have hstart : start.Accounted id :=
      ⟨Lifecycle.alternates_nil, iff_of_false Bool.false_ne_true Nat.zero_ne_one⟩
    obtain ⟨halternates, hlive⟩ := accounted_run hstart history
    exact ⟨halternates, hlive.trans halternates.getLast?_iff.symm⟩
  case create =>
    rcases c.create_exits info with ⟨-, hcreate⟩ | ⟨made, bound, inserted, -, -, hcreate⟩
    · rw [hcreate]
      exact (List.append_nil _).symm
    · rw [hcreate]
      rfl
  case remove =>
    rcases c.remove_cases id with ⟨-, hremove⟩ | ⟨participant, -, hremove⟩
    · rw [hremove]
      exact (List.append_nil _).symm
    · rw [hremove]
      rfl
  case rebind =>
    rcases c.rebind_cases id with ⟨-, hrebind⟩ | ⟨participant, bound, -, -, hrebind⟩
    · rw [hrebind]
    · rw [hrebind]

end Context

end DeviceSupport
