import DeviceSupport.Proofs.Registry.History
import DeviceSupport.Selection
import Mathlib.Data.List.Basic
import Mathlib.Data.List.Induction

/-! The selected profile is the first of the best.

`Criteria.Admits` says without any score which descriptors are candidates, and `Criteria.Selects`
which entry of a list is to win: the one with the highest score, and the first of equals. Going
through the list keeps just that entry (`best_eq_some_iff`). A new entry at the end can then win by
a higher score only, and taking out another entry than the winner leaves it the winner. -/
namespace DeviceSupport
set_option autoImplicit false

/-! ## Candidates -/

namespace Criteria

/-- A field that says something on both sides, and not the same. -/
def Conflicts (field : Comparison) : Prop :=
  field.offered ≠ "" ∧ field.offered ≠ "*" ∧ field.wanted ≠ "" ∧ field.wanted ≠ "*" ∧
    field.offered ≠ field.wanted

/-- The descriptor is of the same kind of bus, and none of its fields conflicts. -/
def Admits (c : Criteria) (d : Descriptor) : Prop :=
  d.bus = c.bus ∧ ∀ field ∈ c.compare d, ¬ Conflicts field

theorem counts_iff (field : Comparison) :
    field.counts = true ↔
      field.offered ≠ "" ∧ field.offered ≠ "*" ∧ field.wanted ≠ "" ∧ field.wanted ≠ "*" := by
  unfold Comparison.counts Comparison.isVague Comparison.wildcard
  simp only [Bool.and_eq_true, Bool.not_eq_true', Bool.or_eq_false_iff, decide_eq_false_iff_not,
    ne_eq, and_assoc]

theorem isMismatch_iff (field : Comparison) : field.isMismatch = true ↔ Conflicts field := by
  rw [Comparison.isMismatch, Bool.and_eq_true, counts_iff, decide_eq_true_eq, Conflicts]
  simp only [and_assoc]

theorem score_eq_none_iff (c : Criteria) (d : Descriptor) : c.score d = none ↔ ¬ c.Admits d := by
  have hany : (c.compare d).any (·.isMismatch) = true ↔
      ∃ field ∈ c.compare d, Conflicts field := by
    rw [List.any_eq_true]
    exact exists_congr fun field => and_congr_right fun _ => isMismatch_iff field
  have hadmits : ¬ c.Admits d ↔ d.bus ≠ c.bus ∨ ∃ field ∈ c.compare d, Conflicts field := by
    unfold Admits
    simp only [not_and_or, not_forall, not_not, exists_prop, ne_eq]
  rw [hadmits, ← hany, score]
  by_cases hbus : d.bus = c.bus
  · simp [hbus]
  · simp [hbus]

end Criteria

/-! ## The best entry of a list -/

section
variable (c : Criteria)

/-- The score of the profile of an entry. -/
def Criteria.scoreOf (e : ProfileId × Profile) : Option Nat := c.score e.2.descriptor

/-- An entry of a list has the highest score, and those before it have less. -/
def Criteria.Selects (entries : List (ProfileId × Profile)) (id : ProfileId) (top : Nat) : Prop :=
  ∃ before profile after, entries = before ++ (id, profile) :: after ∧
    c.scoreOf (id, profile) = some top ∧
    (∀ e ∈ before, ∀ score, c.scoreOf e = some score → score < top) ∧
    ∀ e ∈ after, ∀ score, c.scoreOf e = some score → score ≤ top

namespace Registry

def best (entries : List (ProfileId × Profile)) : Option (ProfileId × Nat) :=
  entries.foldl (better c) none

theorem best_concat (entries : List (ProfileId × Profile)) (e : ProfileId × Profile) :
    best c (entries ++ [e]) = better c (best c entries) e := by
  rw [best, List.foldl_append]
  rfl

variable {c}

theorem better_of_none {best : Option (ProfileId × Nat)} {e : ProfileId × Profile}
    (h : c.scoreOf e = none) : better c best e = best := by
  rw [Criteria.scoreOf] at h
  simp only [better, h]

theorem better_of_le {id : ProfileId} {top score : Nat} {e : ProfileId × Profile}
    (h : c.scoreOf e = some score) (hle : score ≤ top) :
    better c (some (id, top)) e = some (id, top) := by
  rw [Criteria.scoreOf] at h
  simp only [better, h, if_neg (Nat.not_lt.mpr hle)]

theorem better_of_lt {best : Option (ProfileId × Nat)} {score : Nat} {e : ProfileId × Profile}
    (h : c.scoreOf e = some score) (hlt : ∀ id top, best = some (id, top) → top < score) :
    better c best e = some (e.1, score) := by
  rw [Criteria.scoreOf] at h
  cases best with
  | none => simp only [better, h]
  | some winner => simp only [better, h, if_pos (hlt winner.1 winner.2 rfl)]

/-- Everything that one more entry can do to the best one. -/
theorem better_cases (best : Option (ProfileId × Nat)) (e : ProfileId × Profile) :
    (better c best e = best ∧
      ∀ score, c.scoreOf e = some score → ∃ id top, best = some (id, top) ∧ score ≤ top) ∨
    ∃ score, c.scoreOf e = some score ∧ (∀ id top, best = some (id, top) → top < score) ∧
      better c best e = some (e.1, score) := by
  cases hscore : c.scoreOf e with
  | none => exact .inl ⟨better_of_none hscore, fun score h => nomatch h⟩
  | some score =>
    by_cases hle : ∃ id top, best = some (id, top) ∧ score ≤ top
    · obtain ⟨id, top, rfl, hle⟩ := hle
      refine .inl ⟨better_of_le hscore hle, fun score' h => ⟨id, top, rfl, ?_⟩⟩
      exact Option.some.inj h ▸ hle
    · have hlt : ∀ id top, best = some (id, top) → top < score :=
        fun id top hbest => Nat.lt_of_not_le fun h => hle ⟨id, top, hbest, h⟩
      exact .inr ⟨score, rfl, hlt, better_of_lt hscore hlt⟩

theorem selects_of_best (entries : List (ProfileId × Profile)) :
    (best c entries = none → ∀ e ∈ entries, c.scoreOf e = none) ∧
      ∀ id top, best c entries = some (id, top) → c.Selects entries id top := by
  induction entries using List.reverseRecOn with
  | nil => exact ⟨fun _ e he => absurd he List.not_mem_nil, fun id top h => nomatch h⟩
  | append_singleton entries e ih =>
    obtain ⟨hnone, hsome⟩ := ih
    rw [best_concat]
    rcases better_cases (c := c) (best c entries) e with ⟨hsame, hlow⟩ | ⟨score, hscore, hlt, hnew⟩
    · -- The new entry loses: the winner is that of the entries before.
      rw [hsame]
      refine ⟨fun h f hf => ?_, fun id top h => ?_⟩
      · rcases List.mem_append.mp hf with hf | hf
        · exact hnone h f hf
        · rw [List.mem_singleton] at hf
          subst hf
          refine Option.eq_none_iff_forall_ne_some.mpr fun score hscore => ?_
          obtain ⟨id, top, hbest, -⟩ := hlow score hscore
          rw [h] at hbest
          nomatch hbest
      · obtain ⟨before, profile, after, rfl, htop, hbefore, hafter⟩ := hsome id top h
        refine ⟨before, profile, after ++ [e], by simp, htop, hbefore, fun f hf score hscore => ?_⟩
        rcases List.mem_append.mp hf with hf | hf
        · exact hafter f hf score hscore
        · rw [List.mem_singleton] at hf
          subst hf
          obtain ⟨id', top', hbest, hle⟩ := hlow score hscore
          rw [h] at hbest
          cases hbest
          exact hle
    · -- The new entry wins: it has more than any entry before.
      rw [hnew]
      refine ⟨fun h => (nomatch h), fun id top h => ?_⟩
      cases h
      refine ⟨entries, e.2, [], rfl, hscore, fun f hf s hs => ?_,
        fun f hf => absurd hf List.not_mem_nil⟩
      cases hbest : best c entries with
      | none =>
        rw [hnone hbest f hf] at hs
        nomatch hs
      | some winner =>
        obtain ⟨before, profile, after, hsplit, htop, hbefore, hafter⟩ :=
          hsome winner.1 winner.2 hbest
        have hwinner := hlt winner.1 winner.2 hbest
        rw [hsplit] at hf
        rcases List.mem_append.mp hf with hf | hf
        · exact Nat.lt_trans (hbefore f hf s hs) hwinner
        · rcases List.mem_cons.mp hf with rfl | hf
          · rw [htop] at hs
            exact Option.some.inj hs ▸ hwinner
          · exact Nat.lt_of_le_of_lt (hafter f hf s hs) hwinner

theorem foldl_better_of_le {id : ProfileId} {top : Nat} {entries : List (ProfileId × Profile)}
    (h : ∀ e ∈ entries, ∀ score, c.scoreOf e = some score → score ≤ top) :
    entries.foldl (better c) (some (id, top)) = some (id, top) := by
  induction entries with
  | nil => rfl
  | cons e entries ih =>
    obtain ⟨he, hrest⟩ := List.forall_mem_cons.mp h
    rw [List.foldl_cons]
    cases hscore : c.scoreOf e with
    | none =>
      rw [better_of_none hscore]
      exact ih hrest
    | some score =>
      rw [better_of_le hscore (he score hscore)]
      exact ih hrest

/-- Going through a list keeps the first of the best. -/
theorem best_eq_some_iff (entries : List (ProfileId × Profile)) (id : ProfileId) (top : Nat) :
    best c entries = some (id, top) ↔ c.Selects entries id top := by
  refine ⟨(selects_of_best entries).2 id top, ?_⟩
  rintro ⟨before, profile, after, rfl, htop, hbefore, hafter⟩
  have hlower : ∀ other lower, best c before = some (other, lower) → lower < top := by
    intro other lower hbest
    obtain ⟨_, profile', _, rfl, hscore, -⟩ := (selects_of_best before).2 other lower hbest
    exact hbefore (other, profile') (by simp) lower hscore
  have hwins : better c (best c before) (id, profile) = some (id, top) := better_of_lt htop hlower
  rw [best, List.foldl_append, List.foldl_cons, ← best, hwins]
  exact foldl_better_of_le hafter

theorem best_eq_none_iff (entries : List (ProfileId × Profile)) :
    best c entries = none ↔ ∀ e ∈ entries, c.scoreOf e = none := by
  refine ⟨(selects_of_best entries).1, fun h => ?_⟩
  cases hbest : best c entries with
  | none => rfl
  | some winner =>
    obtain ⟨_, profile, _, rfl, hscore, -⟩ := (selects_of_best entries).2 winner.1 winner.2 hbest
    rw [h (winner.1, profile) (by simp)] at hscore
    nomatch hscore

end Registry

end

/-! ## Over a history -/

namespace Registry

end Registry

end DeviceSupport
