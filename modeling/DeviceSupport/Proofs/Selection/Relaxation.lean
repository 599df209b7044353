import DeviceSupport.Proofs.Selection.Matches

/-! Less said finds no less.

A field that becomes blank or a wildcard, in the criteria or in a descriptor, can no longer conflict
and no longer matches. So a candidate stays one, its score goes down by the weights of the matches
that are gone, and criteria that say less still select something (`relaxing_keeps_candidates`). -/
namespace DeviceSupport
set_option autoImplicit false

open Criteria (Field)

/-! ## Blanks -/

/-- The fields `new` are the fields `old`, but for some that have become blank or a wildcard. -/
structure Blanked (blanks : Finset Field) (old new : Field → String) : Prop where
  blank : ∀ f ∈ blanks, new f = "" ∨ new f = "*"
  kept : ∀ f, f ∉ blanks → new f = old f

structure Criteria.Relaxed (c : Criteria) (blanks : Finset Field) (c' : Criteria) : Prop
    extends Blanked blanks c.field c'.field where
  bus : c'.bus = c.bus

structure Descriptor.Relaxed (d : Descriptor) (blanks : Finset Field) (d' : Descriptor) : Prop
    extends Blanked blanks d.field d'.field where
  bus : d'.bus = d.bus

/-! ## Candidates -/

namespace Criteria

theorem admits_iff (c : Criteria) (d : Descriptor) :
    c.Admits d ↔ d.bus = c.bus ∧ ∀ f ∈ c.bus.fields, ¬ Conflicts (c.comparison d f) := by
  rw [Admits, compare_eq, List.forall_mem_map]

theorem mem_matched_iff (c : Criteria) (d : Descriptor) (f : Field) :
    f ∈ c.matched d ↔ f ∈ c.bus.fields ∧ c.Meets d f := by
  rw [matched, Finset.mem_filter, List.mem_toFinset]

section
variable {c c' : Criteria} {d d' : Descriptor} {asked offered : Finset Field}

/-- A field that is blanked on either side says nothing; the others are what they were. -/
theorem Relaxed.field_cases (hc : c.Relaxed asked c') (hd : d.Relaxed offered d') (f : Field) :
    (f ∈ asked ∪ offered ∧ ¬ Conflicts (c'.comparison d' f) ∧ ¬ c'.Meets d' f) ∨
      (f ∉ asked ∪ offered ∧ d'.field f = d.field f ∧ c'.field f = c.field f) := by
  unfold Conflicts Meets comparison
  by_cases hasked : f ∈ asked
  · have hsilent := hc.blank f hasked
    exact .inl ⟨Finset.mem_union_left offered hasked, by tauto, by tauto⟩
  · by_cases hoffered : f ∈ offered
    · have hsilent := hd.blank f hoffered
      exact .inl ⟨Finset.mem_union_right asked hoffered, by tauto, by tauto⟩
    · exact .inr ⟨Finset.notMem_union.mpr ⟨hasked, hoffered⟩, hd.kept f hoffered, hc.kept f hasked⟩

theorem Relaxed.admits (hc : c.Relaxed asked c') (hd : d.Relaxed offered d') (h : c.Admits d) :
    c'.Admits d' := by
  rw [admits_iff] at h ⊢
  obtain ⟨hbus, hfields⟩ := h
  refine ⟨hd.bus.trans (hbus.trans hc.bus.symm), fun f hf => ?_⟩
  rcases hc.field_cases hd f with ⟨-, hsilent, -⟩ | ⟨-, hoffered, hasked⟩
  · exact hsilent
  · have hsame := hfields f (hc.bus ▸ hf)
    rw [comparison] at hsame ⊢
    rwa [hoffered, hasked]

theorem Relaxed.matched_eq (hc : c.Relaxed asked c') (hd : d.Relaxed offered d') :
    c'.matched d' = c.matched d \ (asked ∪ offered) := by
  ext f
  rw [Finset.mem_sdiff, mem_matched_iff, mem_matched_iff, hc.bus]
  rcases hc.field_cases hd f with ⟨hblanked, -, hsilent⟩ | ⟨hkept, hoffered, hasked⟩
  · exact iff_of_false (fun h => hsilent h.2) fun h => h.2 hblanked
  · rw [Meets, hoffered, hasked, ← Meets]
    exact (and_iff_left hkept).symm

/-- What was matched is still matched or blanked. -/
theorem Relaxed.sum_matched (hc : c.Relaxed asked c') (hd : d.Relaxed offered d') :
    ∑ f ∈ c'.matched d', f.weight + ∑ f ∈ (asked ∪ offered) ∩ c.matched d, f.weight =
      ∑ f ∈ c.matched d, f.weight := by
  rw [hc.matched_eq hd, Finset.inter_comm, ← Finset.sdiff_inter_self_left]
  exact Finset.sum_sdiff Finset.inter_subset_left

theorem Relaxed.score_eq (hc : c.Relaxed asked c') (hd : d.Relaxed offered d') {s : Nat}
    (h : c.score d = some s) :
    ∃ s', c'.score d' = some s' ∧
      s' + ∑ f ∈ (asked ∪ offered) ∩ c.matched d, f.weight = s := by
  obtain ⟨hadmits, rfl⟩ := (c.score_eq_some_iff d s).mp h
  exact ⟨_, (c'.score_eq_some_iff d' _).mpr ⟨hc.admits hd hadmits, rfl⟩, hc.sum_matched hd⟩

end

end Criteria

theorem Descriptor.relaxed_self (d : Descriptor) : d.Relaxed ∅ d :=
  ⟨⟨fun _ hf => absurd hf (Finset.notMem_empty _), fun _ _ => rfl⟩, rfl⟩

/-! ## Selection -/

theorem Registry.select_eq_none_iff (r : Registry) (c : Criteria) :
    r.select c = none ↔ ∀ e ∈ r.entries, c.scoreOf e = none := by
  rw [select, Option.map_eq_none_iff]
  exact best_eq_none_iff r.entries

theorem Registry.exists_select (r : Registry) {c c' : Criteria} {asked : Finset Field}
    (hc : c.Relaxed asked c') {id : ProfileId} (h : r.select c = some id) :
    ∃ id', r.select c' = some id' := by
  apply Option.ne_none_iff_exists'.mp
  intro hnone
  have hselected : r.select c ≠ none := fun heq => nomatch h.symm.trans heq
  refine hselected ((r.select_eq_none_iff c).mpr fun e he => ?_)
  have hlost := (r.select_eq_none_iff c').mp hnone e he
  refine Option.eq_none_iff_forall_ne_some.mpr fun s hs => ?_
  obtain ⟨s', hs', -⟩ := hc.score_eq e.2.descriptor.relaxed_self hs
  exact nomatch hlost.symm.trans hs'

/-- Blanks in the criteria or in a descriptor keep every candidate. Its score is less by exactly the
weights of the blanked fields that matched. So no registry selects nothing where it selected a
profile before the criteria said less. -/
theorem Criteria.relaxing_keeps_candidates {c c' : Criteria} {asked : Finset Field}
    (hc : c.Relaxed asked c') :
    (∀ (d d' : Descriptor) (offered : Finset Field), d.Relaxed offered d' →
      ∀ s, c.score d = some s → ∃ s', c'.score d' = some s' ∧ s' ≤ s ∧
        s - s' = ∑ f ∈ (asked ∪ offered) ∩ c.matched d, f.weight) ∧
    ∀ (r : Registry) (id : ProfileId), r.select c = some id → ∃ id', r.select c' = some id' := by
  refine ⟨fun d d' offered hd s hs => ?_, fun r id hid => r.exists_select hc hid⟩
  obtain ⟨s', hs', hsum⟩ := hc.score_eq hd hs
  exact ⟨s', hs', by omega, by omega⟩

namespace Sample

/-- The report of the same sensor without its device and with any type. -/
def vaguely : Criteria := .acpi "" "*" "7" "_SB_"

/-- A profile for one device of a type, wherever it is. -/
def wherever : Descriptor := { acpiDevice := "INT3403", acpiType := "0x02", acpiScope := "*" }

theorem reported_relaxed : reported.Relaxed {.acpiDevice, .acpiType} vaguely := by
  refine ⟨⟨by decide, fun f => ?_⟩, rfl⟩
  cases f <;> decide

/-- Without device and type the profile for them is still chosen, with nothing left of its
twelve. -/
theorem vaguely_selects :
    reported.Relaxed {.acpiDevice, .acpiType} vaguely ∧ wherever.Relaxed ∅ wherever ∧
      reported.score wherever = some 12 ∧
      (∃ s', vaguely.score wherever = some s' ∧ s' ≤ 12 ∧ 12 - s' = 12) ∧
      ∃ id', (({} : Registry).register
        ⟨wherever, 0, [], #[], TupleTable.empty, [], [], []⟩).2.select vaguely = some id' := by
  have hrelaxed := reported_relaxed
  have hscore : reported.score wherever = some 12 := by decide
  obtain ⟨hscores, hselects⟩ := Criteria.relaxing_keeps_candidates hrelaxed
  have hselected : Registry.select
      (({} : Registry).register ⟨wherever, 0, [], #[], TupleTable.empty, [], [], []⟩).2 reported =
        some ⟨0⟩ := by decide
  obtain ⟨s', hs', hle, hlost⟩ := hscores _ _ _ wherever.relaxed_self 12 hscore
  exact ⟨hrelaxed, wherever.relaxed_self, hscore, ⟨s', hs', hle, hlost.trans (by decide)⟩,
    hselects _ _ hselected⟩

end Sample

end DeviceSupport
