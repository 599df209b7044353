import DeviceSupport.Proofs.Context.Operations
import DeviceSupport.Proofs.Registry.History
import Mathlib.Data.List.Basic
import Mathlib.Data.List.Induction

/-! A binding is decided when a participant is created or bound anew, and by nothing else.

One step either decides a participant's binding from the profiles that are loaded just then, or it
leaves the participant as it is (`find?_perform`). So each live participant has a last operation
that decided its binding (`exists_decision`). Registrations and unloads leave all participants alone, and
the answer to a call depends on no loaded profile. -/
namespace DeviceSupport.Context
set_option autoImplicit false

variable {σ : Type}

/-! ## Deciding -/

/-- The operation creates the participant or binds it anew. -/
def Operation.Decides (op : Operation) (c : Context σ) (id : UInt8) : Prop :=
  match op with
  | .create info => ∃ p, (c.create info).1 = .ok p ∧ p.id = id
  | .rebind other => other = id
  | _ => False

/-- A participant that is live after an operation owes its binding to the operation, or was there
before as it is now. -/
def Operation.Accounts (op : Operation) (c : Context σ) (id : UInt8) (p : Participant) : Prop :=
  (op.Decides c id ∧ c.registry.Binds p.info p.bound) ∨
    (¬ op.Decides c id ∧ c.participants.find? id = some p)

section
variable {c : Context σ} {id : UInt8} {p : Participant}

theorem find?_create {info : ParticipantInfo}
    (h : (c.create info).2.participants.find? id = some p) :
    (Operation.create info).Accounts c id p := by
  rcases c.create_cases info with
    ⟨-, fault, hcreate⟩ | ⟨made, bound, participants, -, hbinds, hfind, hcreate⟩
  · rw [hcreate] at h
    refine .inr ⟨fun hdecides => ?_, h⟩
    obtain ⟨made, hmade, -⟩ := hdecides
    rw [hcreate] at hmade
    cases hmade
  · rw [hcreate] at h
    replace h : participants.find? id = some p := h
    rw [hfind] at h
    by_cases hid : made = id
    · rw [if_pos hid] at h
      cases h
      exact .inl ⟨⟨_, by rw [hcreate], hid⟩, hbinds⟩
    · rw [if_neg hid] at h
      refine .inr ⟨fun hdecides => ?_, h⟩
      obtain ⟨other, hother, hotherId⟩ := hdecides
      rw [hcreate] at hother
      cases hother
      exact hid hotherId

theorem find?_rebind {other : UInt8} (h : (c.rebind other).2.participants.find? id = some p) :
    (Operation.rebind other).Accounts c id p := by
  rcases c.rebind_cases other with ⟨hmissing, hrebind⟩ | ⟨q, bound, hfound, hbinds, hrebind⟩
  · rw [hrebind] at h
    refine .inr ⟨fun hdecides : other = id => ?_, h⟩
    rw [← hdecides, hmissing] at h
    cases h
  · rw [hrebind] at h
    replace h : (c.participants.bind other bound).find? id = some p := h
    rw [ParticipantTable.find?_bind] at h
    by_cases hid : other = id
    · subst hid
      rw [if_pos rfl, hfound] at h
      cases h
      exact .inl ⟨rfl, hbinds⟩
    · rw [if_neg hid] at h
      exact .inr ⟨hid, h⟩

theorem find?_remove {other : UInt8} (h : (c.remove other).2.participants.find? id = some p) :
    (Operation.remove other).Accounts c id p := by
  refine .inr ⟨not_false, ?_⟩
  rcases c.remove_cases other with ⟨-, hremove⟩ | ⟨q, -, hremove⟩
  · rw [hremove] at h
    exact h
  · rw [hremove] at h
    replace h : (c.participants.remove other).2.find? id = some p := h
    rw [ParticipantTable.find?_remove] at h
    by_cases hid : other = id
    · rw [if_pos hid] at h
      cases h
    · rwa [if_neg hid] at h

/-- A step decides the binding of a participant that is live after it, or leaves it as it was. -/
theorem find?_perform {op : Operation} (h : (c.perform op).participants.find? id = some p) :
    op.Accounts c id p := by
  cases op with
  | register profile => exact .inr ⟨not_false, h⟩
  | unload other => exact .inr ⟨not_false, h⟩
  | create info => exact find?_create h
  | rebind other => exact find?_rebind h
  | remove other => exact find?_remove h
  | execute e => exact .inr ⟨not_false, h⟩

end

/-! ## Over a history -/

/-- The place in a history where the binding of a participant was decided last. -/
structure Decision (start : Context σ) (history : List Operation) (p : Participant)
    (before : List Operation) (op : Operation) (after : List Operation) : Prop where
  split : history = before ++ op :: after
  decides : op.Decides (start.run before) p.id
  last : ∀ between next, between ++ [next] <+: after →
    ¬ next.Decides (start.run (before ++ op :: between)) p.id
  binds : (start.run before).registry.Binds p.info p.bound

theorem Decision.concat {start : Context σ} {history before after : List Operation}
    {p : Participant} {op next : Operation} (h : Decision start history p before op after)
    (hnext : ¬ next.Decides (start.run history) p.id) :
    Decision start (history ++ [next]) p before op (after ++ [next]) := by
  refine ⟨by rw [h.split]; simp, h.decides, fun between other hprefix => ?_, h.binds⟩
  rcases List.prefix_concat_iff.mp hprefix with heq | hprefix
  · obtain ⟨rfl, hother⟩ := List.append_inj' heq rfl
    cases hother
    rwa [← h.split]
  · exact h.last between other hprefix

theorem exists_decision (start : Context σ) (history : List Operation)
    (hstart : ∀ id, start.participants.find? id = none) (id : UInt8) (p : Participant)
    (h : (start.run history).participants.find? id = some p) :
    ∃ before op after, Decision start history p before op after := by
  induction history using List.reverseRecOn with
  | nil =>
    have hnone : start.participants.find? id = some p := h
    rw [hstart id] at hnone
    nomatch hnone
  | append_singleton history op ih =>
    have hid : p.id = id := ParticipantTable.id_of_find? h
    rw [run_concat] at h
    rcases find?_perform h with ⟨hdecides, hbinds⟩ | ⟨hspared, hbefore⟩
    · refine ⟨history, op, [], rfl, hid ▸ hdecides, fun between next hprefix => ?_, hbinds⟩
      exact absurd (List.prefix_nil.mp hprefix) (by simp)
    · obtain ⟨before, decider, after, hdecision⟩ := ih hbefore
      exact ⟨before, decider, after ++ [op], hdecision.concat (hid ▸ hspared)⟩

/-- The operation registers or unloads a profile. -/
def Operation.Loads : Operation → Prop
  | .register _ => True
  | .unload _ => True
  | _ => False

/-- Of a context, loading and unloading change the loaded profiles only. -/
theorem run_loads (c : Context σ) {later : List Operation} (h : ∀ op ∈ later, op.Loads) :
    c.run later = { c with registry := (c.run later).registry } := by
  induction later generalizing c with
  | nil => rfl
  | cons op later ih =>
    obtain ⟨hop, hrest⟩ := List.forall_mem_cons.mp h
    have hstep : c.run (op :: later) = (c.perform op).run later := rfl
    rw [hstep, ih (c.perform op) hrest]
    cases op with
    | register profile => rfl
    | unload id => rfl
    | create info => exact absurd hop not_false
    | rebind id => exact absurd hop not_false
    | remove id => exact absurd hop not_false
    | execute e => exact absurd hop not_false

/-- While handles have not run out, each is the handle of one loaded profile. -/
theorem get?_run {start : Context σ} {history : List Operation} (hstart : start.registry = {})
    (h : Registry.registrations (history.filterMap Operation.registry?) < 4294967296)
    {e : ProfileId × Profile} (he : e ∈ (start.run history).registry.entries) :
    (start.run history).registry.get? e.1 = some e.2 := by
  rw [registry_run, hstart] at he ⊢
  exact (Registry.rising_run _ h).get?_eq he

/-- In a context that starts empty, each live participant is bound to what the registry chose when
it was last created or bound anew, and whatever is registered or unloaded after that changes neither
a participant nor the answer to any call. -/
theorem bindings_decided (handlers : HandlerTable σ) (transport : Transport σ) (loader : Loader)
    (searchPaths : List String) (world : σ) (history : List Operation) :
    let start : Context σ := { handlers, transport, loader, searchPaths, world }
    (∀ id p, (start.run history).participants.find? id = some p →
      ∃ before op after, Decision start history p before op after ∧
        (Registry.registrations (before.filterMap Operation.registry?) < 4294967296 →
          ∀ e ∈ (start.run before).registry.entries,
            (start.run before).registry.get? e.1 = some e.2)) ∧
      ∀ later : List Operation, (∀ op ∈ later, op.Loads) →
        (start.run (history ++ later)).participants = (start.run history).participants ∧
          ∀ e, ((start.run (history ++ later)).call e).1 = ((start.run history).call e).1 := by
  intro start
  refine ⟨fun id p hlive => ?decided, fun later hlater => ?kept⟩
  case decided =>
    obtain ⟨before, op, after, hdecision⟩ := exists_decision start history (fun _ => rfl) id p hlive
    exact ⟨before, op, after, hdecision, fun hcount e he => get?_run rfl hcount he⟩
  case kept =>
    rw [run_append, run_loads (start.run history) hlater]
    exact ⟨rfl, fun e => rfl⟩

end DeviceSupport.Context
