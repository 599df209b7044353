import DeviceSupport.Proofs.Context.Operations
import DeviceSupport.Proofs.Participants.Ids

/-! Creating a participant: all of it, or nothing.

A creation puts the participant into the table before it looks for a profile, so that a fault in
between would leave half of it behind. There is none: what is chosen is always loaded
(`exists_of_choose`). Whatever has been done to a context before, its table is in order
(`Reachable.ordered`), so that a creation fails only when each id is taken, and takes the lowest free
one else. -/
namespace DeviceSupport.Context
set_option autoImplicit false

variable {σ : Type}

/-! ## The contexts that come about -/

/-- A context starts without profiles and participants. After that come operations in any order;
packages are loaded from files, bindings taken away and settings applied; what runs actions is
exchanged, and its state changes by itself. -/
inductive Reachable : Context σ → Prop where
  | start (handlers : HandlerTable σ) (transport : Transport σ) (loader : Loader)
    (searchPaths : List String) (world : σ) :
    Reachable { handlers, transport, loader, searchPaths, world }
  | perform {c : Context σ} (h : Reachable c) (op : Operation) : Reachable (c.perform op)
  | load {c : Context σ} (h : Reachable c) (files : FileTree) : Reachable (c.loadPackages files).2
  | unbind {c : Context σ} (h : Reachable c) (id : UInt8) : Reachable (c.unbind id).2
  | configure {c : Context σ} (h : Reachable c) (settings : Settings) :
    Reachable (c.withSettings settings)
  | serve {c : Context σ} (h : Reachable c) (handlers : HandlerTable σ) (world : σ) :
    Reachable { c with handlers, world }

theorem Reachable.run {c : Context σ} (h : c.Reachable) (history : List Operation) :
    (c.run history).Reachable := by
  induction history generalizing c with
  | nil => exact h
  | cons op later ih => exact ih (h.perform op)

/-- Taking a binding away changes that one at most. -/
theorem unbind_cases (c : Context σ) (id : UInt8) :
    (c.unbind id).2 = c ∨
      (c.unbind id).2 = { c with participants := c.participants.bind id none } := by
  unfold unbind
  cases c.participants.find? id with
  | none => exact .inl rfl
  | some participant => exact .inr rfl

/-! ## The table -/

theorem ordered_perform {c : Context σ} (h : c.participants.Ordered) (op : Operation) :
    (c.perform op).participants.Ordered := by
  cases op with
  | register profile => exact h
  | unload id => exact h
  | create info =>
    rcases c.create_exits info with ⟨-, hcreate⟩ | ⟨id, bound, inserted, hinsert, -, hcreate⟩
    · rw [perform, hcreate]
      exact h
    · rw [perform, hcreate]
      exact (h.insert hinsert).bind id bound
  | rebind id =>
    rcases c.rebind_cases id with ⟨-, hrebind⟩ | ⟨participant, bound, -, -, hrebind⟩
    · rw [perform, hrebind]
      exact h
    · rw [perform, hrebind]
      exact h.bind id bound
  | remove id =>
    rcases c.remove_cases id with ⟨-, hremove⟩ | ⟨participant, -, hremove⟩
    · rw [perform, hremove]
      exact h
    · rw [perform, hremove]
      exact h.remove id
  | execute e => exact h

theorem Reachable.ordered {c : Context σ} (h : c.Reachable) : c.participants.Ordered := by
  induction h with
  | start handlers transport loader searchPaths world => exact ParticipantTable.ordered_empty
  | perform _ op ih => exact ordered_perform ih op
  | load _ files ih => exact ih
  | @unbind c _ id ih =>
    rcases c.unbind_cases id with hsame | hunbound
    · rw [hsame]
      exact ih
    · rw [hunbound]
      exact ih.bind id none
  | configure _ settings ih => exact ih
  | serve _ handlers world ih => exact ih

/-! ## Creating -/

/-- What is chosen is loaded. -/
theorem exists_of_choose {c : Context σ} {info : ParticipantInfo} {id : ProfileId}
    (h : c.choose info = some id) : ∃ profile, c.registry.get? id = some profile := by
  rw [choose, Option.or_eq_some_iff] at h
  rcases h with hselected | ⟨-, hnamed⟩
  · obtain ⟨winner, hwinner, rfl⟩ := Option.map_eq_some_iff.mp hselected
    exact Registry.get?_of_selectScored hwinner
  · obtain ⟨first, hfirst, rfl⟩ := Option.map_eq_some_iff.mp hnamed
    exact Registry.get?_of_findByCode? hfirst

theorem create_of_full {c : Context σ} (h : c.participants.Ordered) (hfull : c.participants.Full)
    (info : ParticipantInfo) :
    c.create info = (.error (.resourceExhausted "participant" 253 253), c) := by
  have hnone := (ParticipantTable.freeId?_eq_none_iff c.participants).mpr hfull
  rcases c.create_exits info with ⟨-, hcreate⟩ | ⟨id, bound, inserted, hinsert, -, -⟩
  · rw [hcreate, h.full_iff.mp hfull, Participant.length_ids]
    rfl
  · obtain ⟨free, hfree, -⟩ := ParticipantTable.insert_eq_ok hinsert
    rw [hnone] at hfree
    nomatch hfree

/-- A creation that went through: the participant has the lowest free id, and nothing has changed
beside it. -/
structure Created (c : Context σ) (info : ParticipantInfo) (p : Participant) : Prop where
  result : (c.create info).1 = .ok p
  info_eq : p.info = info
  lowest : c.participants.LowestFree p.id
  live : (c.create info).2.participants.find? p.id = some p
  others : ∀ other, other ≠ p.id →
    (c.create info).2.participants.find? other = c.participants.find? other
  frame : (c.create info).2 =
    notify { c with participants := (c.create info).2.participants } p.id .participantCreate

theorem exists_created {c : Context σ} (h : ¬ c.participants.Full) (info : ParticipantInfo) :
    ∃ p, c.Created info p := by
  rcases c.create_cases info with ⟨hnone, -⟩ | ⟨id, bound, participants, hfree, -, hfind, hcreate⟩
  · exact absurd ((ParticipantTable.freeId?_eq_none_iff c.participants).mp hnone) h
  · have hparticipants : (c.create info).2.participants = participants := by
      rw [hcreate]
      rfl
    refine ⟨{ id, info, bound }, by rw [hcreate], rfl, ParticipantTable.lowestFree_of_freeId? hfree,
      ?_, fun other hother => ?_, by rw [hcreate]; rfl⟩
    · rw [hparticipants, hfind, if_pos rfl]
    · rw [hparticipants, hfind, if_neg hother.symm]

/-- In whatever way a context came about, ids lie in their range and each names its own participant.
When no id is left a creation fails and changes nothing at all; else it succeeds, for what it chooses
is loaded, and the participant gets the lowest id that is free, beside all others as they were. -/
theorem create_takes_lowest {c : Context σ} (h : c.Reachable) (info : ParticipantInfo) :
    (∀ id p, c.participants.find? id = some p → 1 ≤ id ∧ id ≤ 253 ∧ p.id = id) ∧
      (∀ p ∈ c.participants.entries, c.participants.find? p.id = some p) ∧
      (∀ id, c.choose info = some id → ∃ profile, c.registry.get? id = some profile) ∧
      ((∃ fault, (c.create info).1 = .error fault) ↔ c.participants.Full) ∧
      (c.participants.Full →
        c.create info = (.error (.resourceExhausted "participant" 253 253), c)) ∧
      (¬ c.participants.Full → ∃ p, c.Created info p) := by
  have hordered := h.ordered
  have hfails := fun hfull => create_of_full hordered hfull info
  refine ⟨fun id p hfound => ?ranged, fun p hp => hordered.find?_of_mem hp,
    fun id hchosen => exists_of_choose hchosen, ⟨fun ⟨fault, hfault⟩ => ?full, fun hfull => ?fault⟩,
    hfails, fun hroom => exists_created hroom info⟩
  case ranged =>
    have hid := ParticipantTable.id_of_find? hfound
    obtain ⟨hfirst, hlast⟩ := hordered.ranged p (ParticipantTable.mem_of_find? hfound)
    rw [hid] at hfirst hlast
    exact ⟨hfirst, hlast, hid⟩
  case full =>
    refine Classical.byContradiction fun hroom => ?_
    obtain ⟨p, hp⟩ := exists_created hroom info
    rw [hp.result] at hfault
    nomatch hfault
  case fault => exact ⟨_, congrArg Prod.fst (hfails hfull)⟩

/-! ## Filling the table -/

theorem length_create {c : Context σ} (h : ¬ c.participants.Full) (info : ParticipantInfo) :
    (c.create info).2.participants.entries.length = c.participants.entries.length + 1 := by
  rcases c.create_exits info with ⟨hnone, -⟩ | ⟨id, bound, inserted, hinsert, -, hcreate⟩
  · exact absurd ((ParticipantTable.freeId?_eq_none_iff c.participants).mp hnone) h
  · have hparticipants : (c.create info).2.participants = inserted.bind id bound := by
      rw [hcreate]
      rfl
    have hbound : (inserted.bind id bound).entries.length = inserted.entries.length :=
      List.length_map _
    rw [hparticipants, hbound, ParticipantTable.entries_insert hinsert,
      ParticipantTable.length_place]

/-- As many creations as there are ids left fill the table. -/
theorem full_run_create {c : Context σ} (h : c.Reachable) {infos : List ParticipantInfo}
    (hcount : c.participants.entries.length + infos.length = 253) :
    (c.run (infos.map .create)).participants.Full := by
  induction infos generalizing c with
  | nil => exact h.ordered.full_iff.mpr hcount
  | cons info infos ih =>
    rw [List.length_cons] at hcount
    have hroom : ¬ c.participants.Full := by
      rw [h.ordered.full_iff]
      omega
    refine ih (c := (c.create info).2) (h.perform (.create info)) ?_
    rw [length_create hroom]
    omega

end DeviceSupport.Context

namespace DeviceSupport.Sample
open Context (Operation)

/-! ## A sample

A table with a gap, and one that is full. -/

def device (name : String) : ParticipantInfo := ⟨name, "", .acpi "INT3403" "" "" ""⟩

def gapped : List Operation :=
  [.create (device "TFN1"), .register default, .create (device "TSKN"), .create (device "GEN1"),
    .remove 2, .rebind 3]

def crowd : List ParticipantInfo := List.replicate 253 (device "GEN1")

theorem gap_filled :
    let c := Context.standalone.run gapped
    let full := Context.standalone.run (crowd.map .create)
    (c.Reachable ∧ ∃ p, c.Created (device "TAMB") p ∧ p.id = 2) ∧
      full.Reachable ∧
      full.create (device "GEN2") = (.error (.resourceExhausted "participant" 253 253), full) := by
  intro c full
  have hstart : Context.standalone.Reachable := .start _ _ _ _ _
  have hgapped : c.Reachable := hstart.run gapped
  have hcrowded : full.Reachable := hstart.run (crowd.map .create)
  have hcount : Context.standalone.participants.entries.length + crowd.length = 253 := by
    rw [crowd, List.length_replicate]
    exact Nat.zero_add 253
  have hfree : c.participants.find? 2 = none := by decide
  have hroom : ¬ c.participants.Full := by
    intro hfull
    have htaken := hfull 2 (by decide) (by decide)
    rw [hfree] at htaken
    nomatch htaken
  obtain ⟨-, -, -, -, -, hcreated⟩ := Context.create_takes_lowest hgapped (device "TAMB")
  obtain ⟨-, -, -, -, hrefused, -⟩ := Context.create_takes_lowest hcrowded (device "GEN2")
  obtain ⟨p, hp⟩ := hcreated hroom
  have hid : (c.create (device "TAMB")).1.toOption.map (·.id) = some 2 := by decide
  rw [hp.result] at hid
  exact ⟨⟨hgapped, p, hp, Option.some.inj hid⟩, hcrowded,
    hrefused (Context.full_run_create hstart hcount)⟩

end DeviceSupport.Sample
