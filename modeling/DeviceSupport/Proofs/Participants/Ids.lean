import DeviceSupport.Proofs.Participants
import Mathlib.Data.List.Basic
import Mathlib.Data.List.Perm.Subperm

/-! The ids in a participant table.

A table is `Ordered` if its ids ascend and lie in the range that participants can have; every change
of the table keeps that. In an ordered table each participant is found under its own id, a new one
takes the lowest id that nobody has, and there is none left just when the table holds as many
participants as there are ids. -/
namespace DeviceSupport
set_option autoImplicit false

/-! ## The range -/

namespace Participant

theorem toNat_ofNat_of_lt {n : Nat} (h : n < 254) : (UInt8.ofNat n).toNat = n :=
  UInt8.toNat_ofNat_of_lt' (Nat.lt_trans h (by decide))

theorem mem_ids_iff (id : UInt8) : id ∈ ids ↔ 1 ≤ id ∧ id ≤ 253 := by
  have hfirst : firstId.toNat = 1 := rfl
  have hlast : lastId.toNat = 253 := rfl
  have hbounds : 1 ≤ id ∧ id ≤ 253 ↔ 1 ≤ id.toNat ∧ id.toNat < 254 := by
    rw [UInt8.le_iff_toNat_le, UInt8.le_iff_toNat_le, Nat.lt_succ_iff]
    rfl
  rw [hbounds, ids, List.mem_map, hfirst, hlast]
  simp only [List.mem_range'_1]
  constructor
  · rintro ⟨n, ⟨hpos, hlt⟩, rfl⟩
    rw [toNat_ofNat_of_lt hlt]
    exact ⟨hpos, hlt⟩
  · rintro ⟨hpos, hlt⟩
    exact ⟨id.toNat, ⟨hpos, hlt⟩, UInt8.ofNat_toNat⟩

theorem pairwise_ids : ids.Pairwise (· < ·) := by
  refine List.pairwise_map.mpr
    (List.Pairwise.imp_of_mem (fun {m n} hm hn hlt => ?_) List.pairwise_lt_range')
  have hsmall (k : Nat) (hk : k ∈ List.range' firstId.toNat (lastId.toNat + 1 - firstId.toNat)) :
      k < 254 := (List.mem_range'_1.mp hk).2
  rw [UInt8.lt_iff_toNat_lt, toNat_ofNat_of_lt (hsmall m hm), toNat_ofNat_of_lt (hsmall n hn)]
  exact hlt

theorem length_ids : ids.length = 253 := by
  rw [ids, List.length_map, List.length_range']
  rfl

end Participant

namespace ParticipantTable

/-! ## The free id -/

/-- Every id of the range belongs to a participant. -/
def Full (t : ParticipantTable) : Prop := ∀ id : UInt8, 1 ≤ id → id ≤ 253 → (t.find? id).isSome = true

/-- The id is the lowest one of the range that nobody has. -/
structure LowestFree (t : ParticipantTable) (id : UInt8) : Prop where
  first : 1 ≤ id
  last : id ≤ 253
  free : t.find? id = none
  lowest : ∀ lower : UInt8, 1 ≤ lower → lower < id → (t.find? lower).isSome = true

theorem freeId?_eq_none_iff (t : ParticipantTable) : t.freeId? = none ↔ t.Full := by
  simp only [freeId?, List.find?_eq_none, Participant.mem_ids_iff, Bool.not_eq_true,
    Option.isNone_eq_false_iff, Full, and_imp]

theorem lowestFree_of_freeId? {t : ParticipantTable} {id : UInt8} (h : t.freeId? = some id) :
    t.LowestFree id := by
  obtain ⟨hfree, before, after, hsplit, hbefore⟩ := List.find?_eq_some_iff_append.mp h
  have hmem : id ∈ Participant.ids := by
    rw [hsplit]
    simp
  obtain ⟨hfirst, hlast⟩ := (Participant.mem_ids_iff id).mp hmem
  refine ⟨hfirst, hlast, Option.isNone_iff_eq_none.mp hfree, fun lower hlower hlt => ?_⟩
  -- Ids ascend, so that whatever is lower stands before the first free one.
  have hordered := Participant.pairwise_ids
  rw [hsplit, List.pairwise_append, List.pairwise_cons] at hordered
  have hin : lower ∈ Participant.ids :=
    (Participant.mem_ids_iff lower).mpr ⟨hlower, UInt8.le_trans (UInt8.le_of_lt hlt) hlast⟩
  rw [hsplit, List.mem_append, List.mem_cons] at hin
  rcases hin with hin | rfl | hin
  · have htaken := hbefore lower hin
    simpa using htaken
  · exact absurd hlt (UInt8.lt_irrefl _)
  · exact absurd (hordered.2.1.1 lower hin) (UInt8.not_lt.mpr (UInt8.le_of_lt hlt))

/-! ## Ids in order -/

/-- Ids ascend, and lie in their range. -/
structure Ordered (t : ParticipantTable) : Prop where
  ascending : t.entries.Pairwise fun p q => p.id < q.id
  ranged : ∀ p ∈ t.entries, 1 ≤ p.id ∧ p.id ≤ 253

theorem mem_place {p q : Participant} {entries : List Participant} :
    q ∈ place p entries ↔ q = p ∨ q ∈ entries := by
  induction entries with
  | nil => simp [place]
  | cons first entries ih =>
    rw [place]
    split
    · exact List.mem_cons
    · rw [List.mem_cons, ih, List.mem_cons, or_left_comm]

theorem length_place (p : Participant) (entries : List Participant) :
    (place p entries).length = entries.length + 1 := by
  induction entries with
  | nil => rfl
  | cons first entries ih =>
    rw [place]
    split
    · rfl
    · rw [List.length_cons, ih, List.length_cons]

theorem pairwise_place {p : Participant} {entries : List Participant}
    (h : entries.Pairwise fun p q => p.id < q.id) (hnew : ∀ q ∈ entries, q.id ≠ p.id) :
    (place p entries).Pairwise fun p q => p.id < q.id := by
  induction entries with
  | nil => simp [place]
  | cons first entries ih =>
    obtain ⟨hfirst, hrest⟩ := List.pairwise_cons.mp h
    obtain ⟨hne, hothers⟩ := List.forall_mem_cons.mp hnew
    rw [place]
    split
    · next hlt =>
      refine List.pairwise_cons.mpr ⟨fun q hq => ?_, h⟩
      rcases List.mem_cons.mp hq with rfl | hq
      · exact hlt
      · exact UInt8.lt_trans hlt (hfirst q hq)
    · next hge =>
      refine List.pairwise_cons.mpr ⟨fun q hq => ?_, ih hrest hothers⟩
      rcases mem_place.mp hq with rfl | hq
      · exact UInt8.lt_of_le_of_ne (UInt8.not_lt.mp hge) hne
      · exact hfirst q hq

theorem ordered_empty : Ordered {} :=
  ⟨List.Pairwise.nil, fun _ hp => absurd hp List.not_mem_nil⟩

theorem entries_insert {t t' : ParticipantTable} {info : ParticipantInfo} {p : Participant}
    (h : t.insert info = .ok (p, t')) : t'.entries = place p t.entries := by
  unfold insert at h
  split at h
  · cases h
    rfl
  · nomatch h

theorem Ordered.insert {t t' : ParticipantTable} {info : ParticipantInfo} {p : Participant}
    (h : t.Ordered) (hinsert : t.insert info = .ok (p, t')) : t'.Ordered := by
  have hplaced := entries_insert hinsert
  obtain ⟨id, hid, rfl, -⟩ := insert_eq_ok hinsert
  have hfree := lowestFree_of_freeId? hid
  have hnew := ne_of_find?_eq_none hfree.free
  refine ⟨hplaced ▸ pairwise_place h.ascending hnew, fun q hq => ?_⟩
  rw [hplaced] at hq
  rcases mem_place.mp hq with rfl | hq
  · exact ⟨hfree.first, hfree.last⟩
  · exact h.ranged q hq

theorem Ordered.remove {t : ParticipantTable} (h : t.Ordered) (id : UInt8) :
    (t.remove id).2.Ordered :=
  ⟨h.ascending.filter _, fun p hp => h.ranged p (List.mem_of_mem_filter hp)⟩

theorem Ordered.bind {t : ParticipantTable} (h : t.Ordered) (id : UInt8)
    (bound : Option (ProfileId × Profile)) : (t.bind id bound).Ordered := by
  have hid (p : Participant) : (if p.id = id then { p with bound } else p).id = p.id := by
    split <;> rfl
  refine ⟨List.pairwise_map.mpr (h.ascending.imp fun {p q} hlt => ?_), fun p hp => ?_⟩
  · rw [hid p, hid q]
    exact hlt
  · obtain ⟨q, hq, rfl⟩ := List.mem_map.mp hp
    rw [hid q]
    exact h.ranged q hq

/-! ## What order gives -/

theorem Ordered.find?_of_mem {t : ParticipantTable} (h : t.Ordered) {p : Participant}
    (hp : p ∈ t.entries) : t.find? p.id = some p := by
  obtain ⟨before, after, hsplit⟩ := List.append_of_mem hp
  have hordered := h.ascending
  rw [hsplit, List.pairwise_append] at hordered
  refine List.find?_eq_some_iff_append.mpr
    ⟨decide_eq_true rfl, before, after, hsplit, fun q hq => ?_⟩
  have hlt : q.id < p.id := hordered.2.2 q hq p List.mem_cons_self
  simpa using UInt8.ne_of_lt hlt

theorem mem_of_find? {t : ParticipantTable} {id : UInt8} {p : Participant}
    (h : t.find? id = some p) : p ∈ t.entries := List.mem_of_find?_eq_some h

/-- A table is full when it holds one participant for each id. -/
theorem Ordered.full_iff {t : ParticipantTable} (h : t.Ordered) :
    t.Full ↔ t.entries.length = 253 := by
  have hdistinct : (t.entries.map (·.id)).Nodup :=
    List.pairwise_map.mpr (h.ascending.imp UInt8.ne_of_lt)
  have hsubperm : (t.entries.map (·.id)).Subperm Participant.ids := by
    refine List.subperm_of_subset hdistinct fun id hid => ?_
    obtain ⟨p, hp, rfl⟩ := List.mem_map.mp hid
    exact (Participant.mem_ids_iff p.id).mpr (h.ranged p hp)
  have hlength : (t.entries.map (·.id)).length = t.entries.length := List.length_map _
  constructor
  · intro hfull
    have hids : Participant.ids.Nodup := Participant.pairwise_ids.imp UInt8.ne_of_lt
    have hall : Participant.ids ⊆ t.entries.map (·.id) := by
      intro id hid
      obtain ⟨hfirst, hlast⟩ := (Participant.mem_ids_iff id).mp hid
      obtain ⟨p, hp⟩ := Option.isSome_iff_exists.mp (hfull id hfirst hlast)
      exact List.mem_map.mpr ⟨p, mem_of_find? hp, id_of_find? hp⟩
    have hle := hsubperm.length_le
    have hge := (List.subperm_of_subset hids hall).length_le
    rw [hlength, Participant.length_ids] at hle hge
    exact Nat.le_antisymm hle hge
  · intro hcount id hfirst hlast
    have hsame : Participant.ids.length = (t.entries.map (·.id)).length := by
      rw [hlength, hcount, Participant.length_ids]
    have hperm := hsubperm.perm_of_length_le (Nat.le_of_eq hsame)
    have hid := hperm.mem_iff.mpr ((Participant.mem_ids_iff id).mpr ⟨hfirst, hlast⟩)
    obtain ⟨p, hp, rfl⟩ := List.mem_map.mp hid
    rw [h.find?_of_mem hp]
    rfl

end ParticipantTable

end DeviceSupport
