import DeviceSupport.Proofs.Registry.History
import Mathlib.Data.List.Basic
import Mathlib.Data.List.Nodup
import Mathlib.Data.List.Perm.Subperm

/-! A handle names one profile, from its registration to its unload, and none ever after.

`Loaded` says of a handle and a profile that a registration answered with the one for the other and
that no unload came after it. It is read off the history, and the registry holds just the entries
for which it is true (`mem_entries_run_iff`); since handles rise while they last, a look-up finds the
profile of its own handle, and an unload takes out one entry. -/
namespace DeviceSupport.Registry
set_option autoImplicit false

/-! ## What a history has loaded -/

/-- A registration of the profile was answered with the handle, which nothing unloaded after it. -/
def Loaded (r : Registry) (history : List Operation) (e : ProfileId × Profile) : Prop :=
  ∃ before after, history = before ++ .register e.2 :: after ∧
    ((r.run before).register e.2).1 = e.1 ∧ .unload e.1 ∉ after

theorem loaded_cons (r : Registry) (op : Operation) (later : List Operation)
    (e : ProfileId × Profile) :
    r.Loaded (op :: later) e ↔
      (op = .register e.2 ∧ (r.register e.2).1 = e.1 ∧ .unload e.1 ∉ later) ∨
        (r.perform op).Loaded later e := by
  constructor
  · rintro ⟨before, after, hsplit, hhandle, hkept⟩
    cases before with
    | nil =>
      obtain ⟨rfl, rfl⟩ := List.cons_eq_cons.mp hsplit
      exact .inl ⟨rfl, hhandle, hkept⟩
    | cons first before =>
      obtain ⟨rfl, rfl⟩ := List.cons_eq_cons.mp hsplit
      exact .inr ⟨before, after, rfl, hhandle, hkept⟩
  · rintro (⟨rfl, hhandle, hkept⟩ | ⟨before, after, rfl, hhandle, hkept⟩)
    · exact ⟨[], later, rfl, hhandle, hkept⟩
    · exact ⟨op :: before, after, rfl, hhandle, hkept⟩

theorem mem_remaining_iff (r : Registry) (history : List Operation) (e : ProfileId × Profile) :
    e ∈ remaining r.nextId history ↔ r.Loaded history e := by
  induction history generalizing r with
  | nil =>
    refine ⟨fun h => absurd h List.not_mem_nil, ?_⟩
    rintro ⟨before, after, hsplit, -⟩
    exact absurd hsplit (by simp)
  | cons op later ih =>
    rw [loaded_cons, ← ih]
    cases op with
    | unload id => simp [remaining, perform, unload]
    | register profile =>
      have hnext : (r.perform (.register profile)).nextId = r.nextId + 1 := rfl
      have hhandle : (r.register e.2).1 = ⟨r.nextId⟩ := rfl
      rw [remaining, hnext, hhandle]
      obtain ⟨id, loaded⟩ := e
      by_cases htaken : Operation.unload ⟨r.nextId⟩ ∈ later
      · rw [if_pos htaken]
        refine ⟨.inr, fun h => ?_⟩
        rcases h with ⟨-, rfl, hkept⟩ | h
        · exact absurd htaken hkept
        · exact h
      · rw [if_neg htaken, List.mem_cons, Prod.mk.injEq]
        refine or_congr_left ⟨?_, ?_⟩
        · rintro ⟨rfl, rfl⟩
          exact ⟨rfl, rfl, htaken⟩
        · rintro ⟨hop, hid, -⟩
          cases hop
          exact ⟨hid.symm, rfl⟩

instance (r : Registry) (history : List Operation) : DecidablePred (r.Loaded history) := fun e =>
  decidable_of_iff _ (r.mem_remaining_iff history e)

theorem entries_run_empty (history : List Operation) :
    (({} : Registry).run history).entries = remaining 0 history := by
  rw [entries_run]
  exact List.nil_append _

theorem mem_entries_run_iff (history : List Operation) (e : ProfileId × Profile) :
    e ∈ (({} : Registry).run history).entries ↔ Loaded {} history e := by
  rw [entries_run_empty]
  exact mem_remaining_iff {} history e

/-! ## Under handles that rise -/

section
variable {next stop : Nat} {r : Registry}

theorem Rising.nodup {entries : List (ProfileId × Profile)} (h : Rising next stop entries) :
    (entries.map (·.1)).Nodup := by
  refine List.pairwise_map.mpr (h.ordered.imp fun {e later} hlt heq => ?_)
  rw [heq] at hlt
  exact Nat.lt_irrefl _ hlt

/-- What remains is picked from all registrations, in their order. -/
theorem Rising.remaining_eq {history : List Operation}
    (h : Rising next stop (registered r history)) :
    remaining r.nextId history =
      (registered r history).filter fun e => decide (r.Loaded history e) := by
  have hloaded (e : ProfileId × Profile) :
      decide (r.Loaded history e) = true ↔ e ∈ remaining r.nextId history := by
    rw [decide_eq_true_eq, mem_remaining_iff]
  have hpicked : (remaining r.nextId history).Sublist
      ((registered r history).filter fun e => decide (r.Loaded history e)) := by
    have hall := (sublist_registered r history).filter fun e => decide (r.Loaded history e)
    rwa [List.filter_eq_self.mpr fun e he => (hloaded e).mpr he] at hall
  -- Both have the same entries, each once, so that none of them was left out.
  have hdistinct : ((registered r history).filter fun e => decide (r.Loaded history e)).Nodup :=
    (List.Nodup.of_map _ h.nodup).filter _
  have hall : (registered r history).filter (fun e => decide (r.Loaded history e)) ⊆
      remaining r.nextId history :=
    fun e he => (hloaded e).mp (List.mem_filter.mp he).2
  exact hpicked.eq_of_length_le (List.subperm_of_subset hdistinct hall).length_le

theorem Rising.get?_eq_some_iff (h : Rising next stop r.entries) (id : ProfileId)
    (profile : Profile) : r.get? id = some profile ↔ (id, profile) ∈ r.entries :=
  ⟨Table.mem_of_get?, fun hmem => h.get?_eq hmem⟩

/-- An unload takes out the entry of its handle. -/
theorem Rising.unload_eq (h : Rising next stop r.entries) {id : ProfileId} {profile : Profile}
    (hloaded : r.get? id = some profile) :
    ∃ before after, r.entries = before ++ (id, profile) :: after ∧
      r.unload id = (some profile, { r with entries := before ++ after }) := by
  obtain ⟨before, after, hsplit⟩ := List.append_of_mem (Table.mem_of_get? hloaded)
  have hordered := h.ordered
  rw [hsplit, List.pairwise_append, List.pairwise_cons] at hordered
  obtain ⟨-, ⟨hafter, -⟩, hbefore⟩ := hordered
  have hothers : ∀ e, e ∈ before ∨ e ∈ after → e.1 ≠ id := by
    rintro e (he | he) rfl
    · exact Nat.lt_irrefl _ (hbefore e he (e.1, profile) List.mem_cons_self)
    · exact Nat.lt_irrefl _ (hafter e he)
  have hkeep (part : List (ProfileId × Profile)) (hpart : ∀ e ∈ part, e ∈ before ∨ e ∈ after) :
      part.filter (fun e => decide (e.1 ≠ id)) = part :=
    List.filter_eq_self.mpr fun e he => decide_eq_true (hothers e (hpart e he))
  refine ⟨before, after, hsplit, ?_⟩
  rw [unload, hloaded, Table.erase, hsplit, List.filter_append,
    List.filter_cons_of_neg (by simp), hkeep before fun e he => .inl he,
    hkeep after fun e he => .inr he]

end

theorem unload_of_get?_none {r : Registry} {id : ProfileId} (h : r.get? id = none) :
    r.unload id = (none, r) := by
  have hkeep : Table.erase id r.entries = r.entries := by
    refine List.filter_eq_self.mpr fun e he => decide_eq_true ?_
    rintro rfl
    obtain ⟨profile, hprofile⟩ := Table.get?_of_mem he
    rw [Registry.get?, hprofile] at h
    nomatch h
  rw [unload, h, hkeep]

theorem findByCode?_eq_some_iff (r : Registry) (code : String) (e : ProfileId × Profile) :
    r.findByCode? code = some e ↔
      ∃ before after, r.entries = before ++ e :: after ∧ e.2.code = code ∧
        ∀ earlier ∈ before, earlier.2.code ≠ code := by
  rw [findByCode?, List.find?_eq_some_iff_append]
  simp only [decide_eq_true_eq, Bool.not_eq_true', decide_eq_false_iff_not]
  constructor
  · rintro ⟨hcode, before, after, hsplit, hbefore⟩
    exact ⟨before, after, hsplit, hcode, hbefore⟩
  · rintro ⟨before, after, hsplit, hcode, hbefore⟩
    exact ⟨hcode, before, after, hsplit, hbefore⟩

/-! ## Over a history -/

/-- As long as handles last: they rise in load order and stay below the next one, no registration
answers with one that was answered before, each finds its own profile until that is unloaded, what
is loaded stands in the order of registration, the first with a code is found by the code, and an
unload takes out the entry of its handle and nothing else. -/
theorem handles_stable (history : List Operation) (h : registrations history < 4294967296) :
    let r := ({} : Registry).run history
    (r.entries.Pairwise (fun e later => e.1.number < later.1.number) ∧
        ∀ e ∈ r.entries, e.1.number < r.nextId) ∧
      ((registered {} history).map (·.1)).Nodup ∧
      (∀ id profile, r.get? id = some profile ↔ Loaded {} history (id, profile)) ∧
      (r.entries = (registered {} history).filter fun e => decide (Loaded {} history e)) ∧
      (∀ code e, r.findByCode? code = some e ↔
        ∃ before after, r.entries = before ++ e :: after ∧ e.2.code = code ∧
          ∀ earlier ∈ before, earlier.2.code ≠ code) ∧
      ∀ id, (∀ profile, r.get? id = some profile →
          ∃ before after, r.entries = before ++ (id, profile) :: after ∧
            r.unload id = (some profile, { r with entries := before ++ after })) ∧
        (r.get? id = none → r.unload id = (none, r)) := by
  intro r
  have hrising : Rising 0 (registrations history) r.entries := rising_run history h
  have hlast : ({} : Registry).nextId.toNat + registrations history < 4294967296 := by simpa using h
  have hnext : r.nextId.toNat = registrations history := by
    rw [toNat_nextId_run {} history hlast]
    exact Nat.zero_add _
  have hregistered := rising_registered {} history hlast
  refine ⟨⟨hrising.ordered, fun e he => ?below⟩, hregistered.nodup, fun id profile => ?found,
    (entries_run_empty history).trans hregistered.remaining_eq, r.findByCode?_eq_some_iff,
    fun id => ⟨fun profile => hrising.unload_eq, unload_of_get?_none⟩⟩
  case below =>
    rw [UInt32.lt_iff_toNat_lt, hnext]
    exact (hrising.bounded e he).2
  case found => rw [hrising.get?_eq_some_iff, mem_entries_run_iff]

end DeviceSupport.Registry

namespace DeviceSupport.Sample
open Registry (Operation)

/-! ## A sample

A profile is unloaded and comes again, under another handle; two unloads come too late. -/

def bare (code : String) : Profile := { descriptor := { code }, declaredSize := 0 }

def reloaded : List Operation :=
  [.register (bare "fan"), .register (bare "cpu"), .unload ⟨0⟩, .register (bare "fan"),
    .unload ⟨0⟩, .unload ⟨7⟩]

theorem reloaded_handles :
    let r := ({} : Registry).run reloaded
    Registry.registrations reloaded < 4294967296 ∧
      ((Registry.registered {} reloaded).map (·.1)).Nodup ∧
      r.get? ⟨2⟩ = some (bare "fan") ∧ r.get? ⟨0⟩ = none ∧
      r.findByCode? "fan" = some (⟨2⟩, bare "fan") ∧ r.unload ⟨0⟩ = (none, r) := by
  intro r
  have hcount : Registry.registrations reloaded < 4294967296 := by decide
  obtain ⟨-, hfresh, hfound, -, hcode, hunload⟩ := Registry.handles_stable reloaded hcount
  have hgone : r.get? ⟨0⟩ = none := rfl
  have hlater : Registry.Loaded {} reloaded (⟨2⟩, bare "fan") :=
    ⟨reloaded.take 3, reloaded.drop 4, rfl, rfl, by decide⟩
  have hfirst : r.entries = [(⟨1⟩, bare "cpu")] ++ (⟨2⟩, bare "fan") :: [] := rfl
  exact ⟨hcount, hfresh, (hfound ⟨2⟩ _).mpr hlater, hgone,
    (hcode "fan" _).mpr ⟨_, _, hfirst, rfl, by decide⟩, (hunload ⟨0⟩).2 hgone⟩

end DeviceSupport.Sample
