import DeviceSupport.Context
import DeviceSupport.Proofs.Participants
import DeviceSupport.Proofs.Registry.Best

/-! What the operations on a context do.

Each of them is described once: `create_exits`, `rebind_cases` and `remove_cases` say everything
that can become of the participants, and `registry_run` what becomes of the loaded profiles. A
selected profile is always one that is loaded, so that binding it cannot fail (`rebindAs_binds`). -/
namespace DeviceSupport
set_option autoImplicit false

/-! ## What a registry binds a device to -/

/-- The binding that a device gets: the best match, or else the first-loaded profile with the
conventional code of its name, or nothing. -/
inductive Registry.Binds (r : Registry) (info : ParticipantInfo) :
    Option (ProfileId × Profile) → Prop where
  | weighted {id : ProfileId} {score : Nat} {profile : Profile}
    (selected : r.selectScored info.criteria = some (id, score))
    (loaded : r.get? id = some profile) : r.Binds info (some (id, profile))
  | named {id : ProfileId} {first profile : Profile}
    (unselected : r.selectScored info.criteria = none)
    (found : r.findByCode? (Participant.conventionalCode info.name) = some (id, first))
    (loaded : r.get? id = some profile) : r.Binds info (some (id, profile))
  | nothing
    (unselected : r.selectScored info.criteria = none)
    (missing : r.findByCode? (Participant.conventionalCode info.name) = none) : r.Binds info none

namespace Registry

theorem get?_of_selectScored {r : Registry} {c : Criteria} {id : ProfileId} {score : Nat}
    (h : r.selectScored c = some (id, score)) : ∃ profile, r.get? id = some profile := by
  obtain ⟨before, profile, after, hsplit, -⟩ := (best_eq_some_iff r.entries id score).mp h
  have hmem : (id, profile) ∈ r.entries := by
    rw [hsplit]
    simp
  exact Table.get?_of_mem hmem

theorem get?_of_findByCode? {r : Registry} {code : String} {e : ProfileId × Profile}
    (h : r.findByCode? code = some e) : ∃ profile, r.get? e.1 = some profile :=
  Table.get?_of_mem (List.mem_of_find?_eq_some h)

end Registry

namespace Context
variable {σ : Type}

/-! ## Operations -/

/-- A call of a primitive as its caller makes it. -/
structure Execution where
  invocation : Invocation
  request : DataBuffer
  response : DataBuffer
  deriving DecidableEq, Repr

inductive Operation where
  | register (profile : Profile)
  | unload (id : ProfileId)
  | create (info : ParticipantInfo)
  | rebind (id : UInt8)
  | remove (id : UInt8)
  | execute (call : Execution)
  deriving DecidableEq, Repr

def call (c : Context σ) (e : Execution) : Dispatched σ × Context σ :=
  c.execute e.invocation e.request e.response

def perform (c : Context σ) : Operation → Context σ
  | .register profile => (c.register profile).2
  | .unload id => (c.unload id).2
  | .create info => (c.create info).2
  | .rebind id => (c.rebind id).2
  | .remove id => (c.remove id).2
  | .execute e => (c.call e).2

def run (c : Context σ) (history : List Operation) : Context σ := history.foldl perform c

theorem run_concat (c : Context σ) (history : List Operation) (op : Operation) :
    c.run (history ++ [op]) = (c.run history).perform op := by
  rw [run, List.foldl_append]
  rfl

theorem run_append (c : Context σ) (first second : List Operation) :
    c.run (first ++ second) = (c.run first).run second := List.foldl_append

/-! ## Participants -/

/-- Binding a participant always succeeds. -/
theorem rebindAs_binds (c : Context σ) (id : UInt8) (info : ParticipantInfo) :
    ∃ bound, c.registry.Binds info bound ∧
      c.rebindAs id info =
        (.ok bound, { c with participants := c.participants.bind id bound }) := by
  unfold rebindAs choose Registry.select Registry.selectByName
  cases hscored : c.registry.selectScored info.criteria with
  | some winner =>
    obtain ⟨profile, hprofile⟩ := Registry.get?_of_selectScored hscored
    refine ⟨some (winner.1, profile), .weighted hscored hprofile, ?_⟩
    simp [hprofile]
  | none =>
    cases hnamed : c.registry.findByCode? (Participant.conventionalCode info.name) with
    | some e =>
      obtain ⟨profile, hprofile⟩ := Registry.get?_of_findByCode? hnamed
      refine ⟨some (e.1, profile), .named hscored hnamed hprofile, ?_⟩
      simp [hprofile]
    | none => exact ⟨none, .nothing hscored hnamed, rfl⟩

/-- A creation finds no free id and changes nothing, or puts one participant into the table, binds
it by the registry and tells listeners. -/
theorem create_exits (c : Context σ) (info : ParticipantInfo) :
    (c.participants.freeId? = none ∧
      c.create info =
        (.error (.resourceExhausted "participant" (UInt32.ofNat c.participants.entries.length)
          (UInt32.ofNat Participant.ids.length)), c)) ∨
    ∃ id bound inserted, c.participants.insert info = .ok ({ id, info }, inserted) ∧
      c.registry.Binds info bound ∧
      c.create info =
        (.ok { id, info, bound },
          notify { c with participants := inserted.bind id bound } id .participantCreate) := by
  unfold create
  cases hinsert : c.participants.insert info with
  | error fault =>
    have hfree := ParticipantTable.insert_eq_error hinsert
    rw [ParticipantTable.insert, hfree] at hinsert
    cases hinsert
    exact .inl ⟨hfree, rfl⟩
  | ok made =>
    obtain ⟨participant, inserted⟩ := made
    obtain ⟨id, -, rfl, -⟩ := ParticipantTable.insert_eq_ok hinsert
    obtain ⟨bound, hbinds, hbound⟩ := rebindAs_binds { c with participants := inserted } id info
    refine .inr ⟨id, bound, inserted, rfl, hbinds, ?_⟩
    simp [hbound]

/-- What a creation does to the look-ups in the table. -/
theorem create_cases (c : Context σ) (info : ParticipantInfo) :
    (c.participants.freeId? = none ∧ ∃ fault, c.create info = (.error fault, c)) ∨
    ∃ id bound participants, c.participants.freeId? = some id ∧ c.registry.Binds info bound ∧
      (∀ other, participants.find? other =
        if id = other then some { id, info, bound } else c.participants.find? other) ∧
      c.create info =
        (.ok { id, info, bound }, notify { c with participants } id .participantCreate) := by
  rcases c.create_exits info with ⟨hfree, hcreate⟩ | ⟨id, bound, inserted, hinsert, hbinds, hcreate⟩
  · exact .inl ⟨hfree, _, hcreate⟩
  · obtain ⟨free, hfree, hid, hfind⟩ := ParticipantTable.insert_eq_ok hinsert
    cases hid
    refine .inr ⟨id, bound, inserted.bind id bound, hfree, hbinds, fun other => ?_, hcreate⟩
    rw [ParticipantTable.find?_bind, hfind]
    by_cases h : id = other <;> simp [h]

/-- A participant that is live is bound by the registry; without it nothing changes. -/
theorem rebind_cases (c : Context σ) (id : UInt8) :
    (c.participants.find? id = none ∧ c.rebind id = (.error (.participantNotFound id), c)) ∨
    ∃ participant bound, c.participants.find? id = some participant ∧
      c.registry.Binds participant.info bound ∧
      c.rebind id =
        (.ok (bound.map (·.1)), { c with participants := c.participants.bind id bound }) := by
  unfold rebind
  cases hfound : c.participants.find? id with
  | none => exact .inl ⟨rfl, rfl⟩
  | some participant =>
    obtain ⟨bound, hbinds, hbound⟩ := c.rebindAs_binds id participant.info
    refine .inr ⟨participant, bound, rfl, hbinds, ?_⟩
    simp [hbound, Except.map]

theorem remove_cases (c : Context σ) (id : UInt8) :
    (c.participants.find? id = none ∧ c.remove id = (.error (.participantNotFound id), c)) ∨
    ∃ participant, c.participants.find? id = some participant ∧
      c.remove id =
        (.ok (), notify { c with participants := (c.participants.remove id).2 } id
          .participantDestroy) := by
  unfold remove ParticipantTable.remove
  cases hfound : c.participants.find? id with
  | none => exact .inl ⟨rfl, rfl⟩
  | some participant => exact .inr ⟨participant, rfl, rfl⟩

/-! ## Profiles -/

/-- What an operation does to the loaded profiles. -/
def Operation.registry? : Operation → Option Registry.Operation
  | .register profile => some (.register profile)
  | .unload id => some (.unload id)
  | _ => none

theorem registry_perform (c : Context σ) (op : Operation) :
    (c.perform op).registry = op.registry?.elim c.registry c.registry.perform := by
  cases op with
  | register profile => rfl
  | unload id => rfl
  | create info =>
    rcases c.create_cases info with ⟨-, fault, h⟩ | ⟨id, bound, participants, -, -, -, h⟩
    · rw [perform, h]
      rfl
    · rw [perform, h]
      rfl
  | rebind id =>
    rcases c.rebind_cases id with ⟨-, h⟩ | ⟨participant, bound, -, -, h⟩
    · rw [perform, h]
      rfl
    · rw [perform, h]
      rfl
  | remove id =>
    rcases c.remove_cases id with ⟨-, h⟩ | ⟨participant, -, h⟩
    · rw [perform, h]
      rfl
    · rw [perform, h]
      rfl
  | execute e => rfl

/-- The loaded profiles after a history are those of its registrations and unloads alone. -/
theorem registry_run (c : Context σ) (history : List Operation) :
    (c.run history).registry = c.registry.run (history.filterMap Operation.registry?) := by
  induction history generalizing c with
  | nil => rfl
  | cons op later ih =>
    have hstep : c.run (op :: later) = (c.perform op).run later := rfl
    rw [hstep, ih, registry_perform]
    cases hop : op.registry? with
    | none => rw [List.filterMap_cons_none hop, Option.elim_none]
    | some change =>
      rw [List.filterMap_cons_some hop, Option.elim_some]
      rfl

end Context

end DeviceSupport
