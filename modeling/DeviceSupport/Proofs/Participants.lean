import DeviceSupport.Participant

/-! The participant table seen through its look-ups.

Putting a participant in, taking one out and giving one another binding each change what is found
under one id, and under no other. -/
namespace DeviceSupport.ParticipantTable
set_option autoImplicit false

theorem id_of_find? {t : ParticipantTable} {id : UInt8} {p : Participant}
    (h : t.find? id = some p) : p.id = id := by
  have hid := List.find?_some h
  exact of_decide_eq_true hid

theorem find?_of_freeId? {t : ParticipantTable} {id : UInt8} (h : t.freeId? = some id) :
    t.find? id = none := by
  have hfree := List.find?_some h
  exact Option.isNone_iff_eq_none.mp hfree

theorem ne_of_find?_eq_none {t : ParticipantTable} {id : UInt8} (h : t.find? id = none) :
    ∀ p ∈ t.entries, p.id ≠ id := by
  simpa [find?] using h

theorem find?_place {p : Participant} {entries : List Participant}
    (h : ∀ q ∈ entries, q.id ≠ p.id) (id : UInt8) :
    (place p entries).find? (fun q => decide (q.id = id)) =
      if p.id = id then some p else entries.find? fun q => decide (q.id = id) := by
  induction entries with
  | nil =>
    by_cases hp : p.id = id <;> simp [place, hp]
  | cons q entries ih =>
    obtain ⟨hq, hrest⟩ := List.forall_mem_cons.mp h
    rw [place]
    split
    · by_cases hp : p.id = id <;> simp [List.find?_cons, hp]
    · rw [List.find?_cons, List.find?_cons, ih hrest]
      by_cases hid : q.id = id
      · have hp : p.id ≠ id := fun hp => hq (hid.trans hp.symm)
        simp [hid, hp]
      · simp [hid]

/-- A new participant has the free id, and everything else is found as before. -/
theorem insert_eq_ok {t t' : ParticipantTable} {info : ParticipantInfo} {p : Participant}
    (h : t.insert info = .ok (p, t')) :
    ∃ id, t.freeId? = some id ∧ p = { id, info } ∧
      ∀ other, t'.find? other = if id = other then some p else t.find? other := by
  unfold insert at h
  split at h
  · next id hfree =>
    cases h
    refine ⟨id, hfree, rfl, fun other => ?_⟩
    have hnew := ne_of_find?_eq_none (find?_of_freeId? hfree)
    exact find?_place (p := { id, info }) hnew other
  · nomatch h

theorem insert_eq_error {t : ParticipantTable} {info : ParticipantInfo} {fault : Fault}
    (h : t.insert info = .error fault) : t.freeId? = none := by
  unfold insert at h
  split at h
  · nomatch h
  · next hfree => exact hfree

theorem find?_remove (t : ParticipantTable) (id other : UInt8) :
    (t.remove id).2.find? other = if id = other then none else t.find? other := by
  unfold remove find?
  rw [List.find?_filter]
  by_cases h : id = other
  · subst h
    simp
  · rw [if_neg h]
    refine congrArg (fun test => t.entries.find? test) (funext fun p => ?_)
    by_cases hp : p.id = other
    · simp [hp, Ne.symm h]
    · simp [hp]

theorem find?_bind (t : ParticipantTable) (id other : UInt8)
    (bound : Option (ProfileId × Profile)) :
    (t.bind id bound).find? other =
      if id = other then (t.find? other).map ({ · with bound }) else t.find? other := by
  have hmap : (t.bind id bound).find? other =
      (t.find? other).map fun p => if p.id = id then { p with bound } else p := by
    unfold bind find?
    rw [List.find?_map]
    refine congrArg (fun test => (t.entries.find? test).map _) (funext fun p => ?_)
    by_cases hp : p.id = id <;> simp [hp]
  rw [hmap]
  cases hfound : t.find? other with
  | none => simp
  | some p =>
    have hp := id_of_find? hfound
    subst hp
    by_cases h : id = p.id
    · simp [h]
    · simp [h, Ne.symm h]

end DeviceSupport.ParticipantTable
