import DeviceSupport.Registry

/-! What a history of registrations and unloads leaves in a registry.

A registration takes the next handle, and stays unless its handle is unloaded later on. `remaining`
reads this off the history itself, without any registry; `entries_run` says that the registry holds
just that, in the order of registration. As long as handles have not run out they count up
(`rising_registered`), so that each is the handle of one entry only. -/
namespace DeviceSupport.Registry
set_option autoImplicit false

/-! ## Histories -/

inductive Operation where
  | register (profile : Profile)
  | unload (id : ProfileId)
  deriving DecidableEq, Repr

def perform (r : Registry) : Operation → Registry
  | .register profile => (r.register profile).2
  | .unload id => (r.unload id).2

def run (r : Registry) (history : List Operation) : Registry := history.foldl perform r

/-- The registrations of a history that nothing has taken out again, with their handles, in the
order in which they were made. -/
def remaining (next : UInt32) : List Operation → List (ProfileId × Profile)
  | [] => []
  | .register profile :: later =>
    if .unload ⟨next⟩ ∈ later then remaining (next + 1) later
    else (⟨next⟩, profile) :: remaining (next + 1) later
  | .unload _ :: later => remaining next later

/-- The registrations of a history with the handles that they answered, in the order in which they
were made. -/
def registered (r : Registry) : List Operation → List (ProfileId × Profile)
  | [] => []
  | .register profile :: later =>
    ((r.register profile).1, profile) :: registered (r.register profile).2 later
  | .unload id :: later => registered (r.unload id).2 later

/-- An entry from before a history stays unless the history unloads its handle. -/
theorem entries_run (r : Registry) (history : List Operation) :
    (r.run history).entries =
      r.entries.filter (fun e => decide (.unload e.1 ∉ history)) ++ remaining r.nextId history := by
  induction history generalizing r with
  | nil =>
    have hkept : r.entries.filter (fun _ => true) = r.entries :=
      List.filter_eq_self.mpr fun _ _ => rfl
    simp [run, remaining, hkept]
  | cons op later ih =>
    have hstep : r.run (op :: later) = (r.perform op).run later := rfl
    rw [hstep, ih]
    cases op with
    | register profile =>
      simp only [perform, register, remaining, List.filter_append, List.append_assoc,
        List.mem_cons, reduceCtorEq, false_or]
      by_cases h : Operation.unload ⟨r.nextId⟩ ∈ later <;> simp [h]
    | unload id =>
      have hkept (e : ProfileId × Profile) :
          (decide (.unload e.1 ∉ later) && decide (e.1 ≠ id)) =
            decide (.unload e.1 ∉ Operation.unload id :: later) := by
        by_cases he : e.1 = id <;> simp [he]
      simp only [perform, unload, remaining, Table.erase, List.filter_filter, hkept]

/-! ## Handles -/

/-- How many profiles a history registers. -/
def registrations : List Operation → Nat
  | [] => 0
  | .register _ :: later => registrations later + 1
  | .unload _ :: later => registrations later

/-- Entries whose handles count up from `next` and stay below `stop`. -/
structure Rising (next stop : Nat) (entries : List (ProfileId × Profile)) : Prop where
  bounded : ∀ e ∈ entries, next ≤ e.1.number.toNat ∧ e.1.number.toNat < stop
  ordered : entries.Pairwise fun a b => a.1.number.toNat < b.1.number.toNat

theorem Rising.cons {next stop : Nat} {e : ProfileId × Profile}
    {entries : List (ProfileId × Profile)} (h : Rising (next + 1) stop entries)
    (hnext : e.1.number.toNat = next) (hstop : next < stop) : Rising next stop (e :: entries) := by
  refine ⟨List.forall_mem_cons.mpr ⟨?_, fun f hf => ?_⟩, List.pairwise_cons.mpr ⟨?_, h.ordered⟩⟩
  · omega
  · have := h.bounded f hf
    omega
  · intro f hf
    have := h.bounded f hf
    omega

theorem Rising.sublist {next stop : Nat} {fewer entries : List (ProfileId × Profile)}
    (h : Rising next stop entries) (hsublist : fewer.Sublist entries) : Rising next stop fewer :=
  ⟨fun e he => h.bounded e (hsublist.subset he), h.ordered.sublist hsublist⟩

/-- A registration counts the next handle up, as long as there is one. -/
theorem toNat_nextId_register (r : Registry) (profile : Profile)
    (h : r.nextId.toNat + 1 < 4294967296) :
    (r.register profile).2.nextId.toNat = r.nextId.toNat + 1 := by
  have hnext : (r.register profile).2.nextId = r.nextId + 1 := rfl
  rw [hnext, UInt32.toNat_add, UInt32.toNat_one]
  omega

theorem toNat_nextId_run (r : Registry) (history : List Operation)
    (h : r.nextId.toNat + registrations history < 4294967296) :
    (r.run history).nextId.toNat = r.nextId.toNat + registrations history := by
  induction history generalizing r with
  | nil => rfl
  | cons op later ih =>
    have hstep : r.run (op :: later) = (r.perform op).run later := rfl
    cases op with
    | register profile =>
      rw [registrations] at h
      have hnext := r.toNat_nextId_register profile (by omega)
      rw [hstep, perform, ih _ (by omega), hnext, registrations]
      omega
    | unload id => exact ih (r.unload id).2 h

/-- Handles do not repeat while there are new ones. -/
theorem rising_registered (r : Registry) (history : List Operation)
    (h : r.nextId.toNat + registrations history < 4294967296) :
    Rising r.nextId.toNat (r.nextId.toNat + registrations history) (registered r history) := by
  induction history generalizing r with
  | nil => exact ⟨fun e he => absurd he List.not_mem_nil, List.Pairwise.nil⟩
  | cons op later ih =>
    cases op with
    | register profile =>
      rw [registrations] at h ⊢
      have hnext := r.toNat_nextId_register profile (by omega)
      have hlater := ih (r.register profile).2 (by omega)
      rw [hnext, Nat.add_right_comm] at hlater
      exact hlater.cons rfl (by omega)
    | unload id => exact ih (r.unload id).2 h

theorem sublist_registered (r : Registry) (history : List Operation) :
    (remaining r.nextId history).Sublist (registered r history) := by
  induction history generalizing r with
  | nil => exact List.Sublist.refl []
  | cons op later ih =>
    cases op with
    | register profile =>
      have hlater := ih (r.register profile).2
      rw [remaining, registered]
      split
      · exact hlater.cons _
      · exact hlater.cons_cons _
    | unload id => exact ih (r.unload id).2

/-- Under handles that rise, each entry is found by its own. -/
theorem Rising.get?_eq {next stop : Nat} {entries : List (ProfileId × Profile)}
    (h : Rising next stop entries) {e : ProfileId × Profile} (he : e ∈ entries) :
    Table.get? e.1 entries = some e.2 := by
  have hordered := h.ordered
  clear h
  induction entries with
  | nil => exact absurd he List.not_mem_nil
  | cons first rest ih =>
    rw [List.pairwise_cons] at hordered
    obtain ⟨hfirst, hrest⟩ := hordered
    rw [Table.get?]
    rcases List.mem_cons.mp he with rfl | hmem
    · exact if_pos rfl
    · have hne : first.1 ≠ e.1 := fun heq => Nat.ne_of_lt (hfirst e hmem) (by rw [heq])
      rw [if_neg hne]
      exact ih hmem hrest

theorem rising_run (history : List Operation) (h : registrations history < 4294967296) :
    Rising 0 (registrations history) (({} : Registry).run history).entries := by
  have hregistered := rising_registered {} history (by simpa using h)
  rw [entries_run]
  simpa using hregistered.sublist (sublist_registered {} history)

end DeviceSupport.Registry
