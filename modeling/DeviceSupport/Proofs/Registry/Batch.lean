import DeviceSupport.Proofs.Registry.History

/-! Profiles that are registered one after the other.

They get consecutive handles (`numbered_getElem?`), stand behind what was there before
(`run_registers`), and each is found by its own handle as long as handles last
(`get?_run_registers`). -/
namespace DeviceSupport.Registry
set_option autoImplicit false

/-- Each item beside the handle it gets when the first one gets `next`. -/
def numbered {α : Type} (next : UInt32) : List α → List (ProfileId × α)
  | [] => []
  | item :: more => (⟨next⟩, item) :: numbered (next + 1) more

theorem numbered_map {α β : Type} (f : α → β) (next : UInt32) (items : List α) :
    numbered next (items.map f) = (numbered next items).map fun (id, item) => (id, f item) := by
  induction items generalizing next with
  | nil => rfl
  | cons item more ih => simp [numbered, ih]

theorem numbered_snd {α : Type} (next : UInt32) (items : List α) :
    (numbered next items).map (·.2) = items := by
  induction items generalizing next with
  | nil => rfl
  | cons item more ih => simp [numbered, ih]

theorem add_one_add_ofNat (next : UInt32) (i : Nat) :
    next + 1 + UInt32.ofNat i = next + UInt32.ofNat (i + 1) := by
  rw [UInt32.ofNat_add, UInt32.add_assoc, UInt32.add_comm 1]
  rfl

/-- The handles count up by one. -/
theorem numbered_getElem? {α : Type} (next : UInt32) (items : List α) (i : Nat) :
    (numbered next items)[i]? = items[i]?.map (⟨next + UInt32.ofNat i⟩, ·) := by
  induction items generalizing next i with
  | nil => rfl
  | cons item more ih =>
    cases i with
    | zero => simp [numbered]
    | succ i => simp [numbered, ih, add_one_add_ofNat]

theorem run_registers (r : Registry) (profiles : List Profile) :
    r.run (profiles.map .register) =
      { nextId := r.nextId + UInt32.ofNat profiles.length
        entries := r.entries ++ numbered r.nextId profiles } := by
  induction profiles generalizing r with
  | nil => simp [run, numbered]
  | cons profile profiles ih =>
    have hstep : r.run ((profile :: profiles).map .register) =
        (r.register profile).2.run (profiles.map .register) := rfl
    rw [hstep, ih]
    simp [register, numbered, add_one_add_ofNat]

theorem registrations_append (before after : List Operation) :
    registrations (before ++ after) = registrations before + registrations after := by
  induction before with
  | nil => simp [registrations]
  | cons op before ih =>
    cases op with
    | register profile =>
      rw [List.cons_append, registrations, registrations, ih]
      omega
    | unload id => exact ih

theorem registrations_registers (profiles : List Profile) :
    registrations (profiles.map .register) = profiles.length := by
  induction profiles with
  | nil => rfl
  | cons profile profiles ih => simp [registrations, ih]

/-- What is registered on top of a history is found by its handle. -/
theorem get?_run_registers (history : List Operation) (profiles : List Profile)
    (h : registrations history + profiles.length < 4294967296) {e : ProfileId × Profile}
    (he : e ∈ numbered (({} : Registry).run history).nextId profiles) :
    ((({} : Registry).run history).run (profiles.map .register)).get? e.1 = some e.2 := by
  have hrun : (({} : Registry).run history).run (profiles.map .register) =
      ({} : Registry).run (history ++ profiles.map .register) := by
    rw [run, run, run, List.foldl_append]
  have hrising := rising_run (history ++ profiles.map .register) (by
    rw [registrations_append, registrations_registers]
    exact h)
  rw [← hrun] at hrising
  refine hrising.get?_eq ?_
  rw [run_registers]
  exact List.mem_append_right _ he

end DeviceSupport.Registry
