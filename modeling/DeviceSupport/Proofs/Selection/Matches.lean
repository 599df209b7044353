import DeviceSupport.Proofs.Registry.Best
import Mathlib.Combinatorics.Colex

/-! What a score tells of the fields that match.

The fields that identify a device on a bus are ranked, and a field weighs twice as much as the next
one. So the score of a candidate is the number whose binary digits are the fields that match
(`score_eq_some_iff`): scores are equal only for the same matches, and of two scores the one with
the more telling field is higher, whatever matches below it (`matches_rank_scores`). -/
namespace DeviceSupport
set_option autoImplicit false

/-! ## Fields -/

/-- What identifies a device on some bus. -/
inductive Criteria.Field where
  | acpiDevice
  | acpiType
  | acpiUid
  | acpiScope
  | pciDevice
  | pciVendor
  | pciBus
  | pciFunction
  | kind
  | name
  deriving DecidableEq, Repr

/-- The fields of a kind of bus, the most telling first. -/
def Bus.fields : Bus → List Criteria.Field
  | .acpi => [.acpiDevice, .acpiType, .acpiUid, .acpiScope]
  | .pci => [.pciDevice, .pciVendor, .pciBus, .pciFunction]
  | .platform => [.kind, .name]
  | .other _ => []

namespace Criteria.Field

/-- How many fields of the same bus are less telling. -/
def significance : Field → Nat
  | .acpiDevice | .pciDevice => 3
  | .acpiType | .pciVendor => 2
  | .acpiUid | .pciBus | .kind => 1
  | .acpiScope | .pciFunction | .name => 0

def weight (f : Field) : Nat := 2 ^ f.significance

end Criteria.Field

def Descriptor.field (d : Descriptor) : Criteria.Field → String
  | .acpiDevice => d.acpiDevice
  | .acpiType => d.acpiType
  | .acpiUid => d.acpiUid
  | .acpiScope => d.acpiScope
  | .pciDevice => d.pciDeviceId
  | .pciVendor => d.pciVendorId
  | .pciBus => d.pciBus
  | .pciFunction => d.pciFunction
  | .kind => d.kind
  | .name => d.name

/-- Criteria say nothing about the fields of another bus. -/
def Criteria.field : Criteria → Criteria.Field → String
  | .acpi device _ _ _, .acpiDevice => device
  | .acpi _ type _ _, .acpiType => type
  | .acpi _ _ uid _, .acpiUid => uid
  | .acpi _ _ _ scope, .acpiScope => scope
  | .pci _ device _ _, .pciDevice => device
  | .pci vendor _ _ _, .pciVendor => vendor
  | .pci _ _ bus _, .pciBus => bus
  | .pci _ _ _ function, .pciFunction => function
  | .platform kind _, .kind => kind
  | .platform _ name, .name => name
  | _, _ => ""

theorem Bus.ranked_fields (bus : Bus) :
    bus.fields.Pairwise fun f g => g.significance < f.significance := by
  cases bus
  case other => exact List.Pairwise.nil
  all_goals decide

theorem Bus.nodup_fields (bus : Bus) : bus.fields.Nodup :=
  bus.ranked_fields.imp fun hlt heq => absurd (heq ▸ hlt) (Nat.lt_irrefl _)

theorem Bus.significance_injOn (bus : Bus) :
    Set.InjOn Criteria.Field.significance (bus.fields.toFinset : Set Criteria.Field) := by
  intro f hf g hg
  rw [Finset.mem_coe, List.mem_toFinset] at hf hg
  revert f g
  cases bus <;> simp [Bus.fields, Criteria.Field.significance]

/-! ## Matches -/

namespace Criteria

/-- Both sides say something about a field, and the same. -/
def Meets (c : Criteria) (d : Descriptor) (f : Field) : Prop :=
  d.field f ≠ "" ∧ d.field f ≠ "*" ∧ c.field f ≠ "" ∧ c.field f ≠ "*" ∧
    d.field f = c.field f

instance (c : Criteria) (d : Descriptor) (f : Field) : Decidable (c.Meets d f) :=
  inferInstanceAs (Decidable (_ ∧ _))

/-- The fields in which a descriptor matches. -/
def matched (c : Criteria) (d : Descriptor) : Finset Field :=
  c.bus.fields.toFinset.filter (c.Meets d)

def comparison (c : Criteria) (d : Descriptor) (f : Field) : Comparison :=
  ⟨d.field f, c.field f, f.weight⟩

theorem compare_eq (c : Criteria) (d : Descriptor) :
    c.compare d = c.bus.fields.map (c.comparison d) := by
  cases c <;> rfl

theorem isMatch_comparison (c : Criteria) (d : Descriptor) (f : Field) :
    (c.comparison d f).isMatch = true ↔ c.Meets d f := by
  rw [Comparison.isMatch, Bool.and_eq_true, counts_iff, decide_eq_true_eq, Meets]
  simp only [comparison, and_assoc]

theorem total_map_comparison (c : Criteria) (d : Descriptor) (fields : List Field) :
    Comparison.total (fields.map (c.comparison d)) =
      (fields.map fun f => if c.Meets d f then f.weight else 0).sum := by
  induction fields with
  | nil => rfl
  | cons f fields ih =>
    rw [List.map_cons, Comparison.total, ih, List.map_cons, List.sum_cons]
    congr 1
    exact if_congr (c.isMatch_comparison d f) rfl rfl

/-- A score adds up the weights of the fields that match. -/
theorem score_eq_some_iff (c : Criteria) (d : Descriptor) (s : Nat) :
    c.score d = some s ↔ c.Admits d ∧ s = ∑ f ∈ c.matched d, f.weight := by
  have htotal : Comparison.total (c.compare d) = ∑ f ∈ c.matched d, f.weight := by
    rw [compare_eq, total_map_comparison, matched, Finset.sum_filter,
      List.sum_toFinset _ c.bus.nodup_fields]
  have hadmits : c.Admits d ↔ c.score d ≠ none := by rw [Ne, score_eq_none_iff, not_not]
  rw [hadmits, ← htotal, score]
  by_cases hbus : d.bus = c.bus
  · by_cases hconflict : (c.compare d).any (·.isMismatch) = true
    · simp [hbus, hconflict]
    · simp [hbus, hconflict, eq_comm]
  · simp [hbus]

theorem matched_subset (c : Criteria) (d : Descriptor) : c.matched d ⊆ c.bus.fields.toFinset :=
  Finset.filter_subset _ _

end Criteria

/-! ## Weights -/

section
open Criteria (Field)
variable {bus : Bus} {M N : Finset Field}

theorem Bus.significance_mem_image (hM : M ⊆ bus.fields.toFinset) {f : Field}
    (hf : f ∈ bus.fields.toFinset) : f.significance ∈ M.image Field.significance ↔ f ∈ M := by
  rw [Finset.mem_image]
  constructor
  · rintro ⟨g, hg, heq⟩
    exact bus.significance_injOn (hM hg) hf heq ▸ hg
  · exact fun h => ⟨f, h, rfl⟩

/-- The weights of fields of one bus add up to a number in binary. -/
theorem Bus.sum_weight (hM : M ⊆ bus.fields.toFinset) :
    ∑ f ∈ M, f.weight = ∑ i ∈ M.image Field.significance, 2 ^ i :=
  (Finset.sum_image (bus.significance_injOn.mono (Finset.coe_subset.mpr hM))).symm

theorem Bus.sum_weight_inj (hM : M ⊆ bus.fields.toFinset) (hN : N ⊆ bus.fields.toFinset) :
    ∑ f ∈ M, f.weight = ∑ f ∈ N, f.weight ↔ M = N := by
  rw [Bus.sum_weight hM, Bus.sum_weight hN, (Finset.geomSum_injective (le_refl 2)).eq_iff]
  refine ⟨fun himage => ?_, fun h => h ▸ rfl⟩
  ext f
  by_cases hf : f ∈ bus.fields.toFinset
  · rw [← Bus.significance_mem_image hM hf, himage, Bus.significance_mem_image hN hf]
  · exact iff_of_false (fun h => hf (hM h)) fun h => hf (hN h)

/-- Binary numbers compare by the first digit in which they differ. -/
theorem Bus.sum_weight_lt_iff (hM : M ⊆ bus.fields.toFinset) (hN : N ⊆ bus.fields.toFinset) :
    ∑ f ∈ M, f.weight < ∑ f ∈ N, f.weight ↔
      ∃ f ∈ N, f ∉ M ∧ ∀ g ∈ M, g ∉ N → g.significance < f.significance := by
  rw [Bus.sum_weight hM, Bus.sum_weight hN,
    Finset.geomSum_lt_geomSum_iff_toColex_lt_toColex (le_refl 2),
    Finset.Colex.toColex_lt_toColex_iff_exists_forall_lt]
  constructor
  · rintro ⟨i, hi, hnot, hbelow⟩
    obtain ⟨f, hf, rfl⟩ := Finset.mem_image.mp hi
    rw [Bus.significance_mem_image hM (hN hf)] at hnot
    refine ⟨f, hf, hnot, fun g hg hother => ?_⟩
    refine hbelow g.significance (Finset.mem_image_of_mem _ hg) ?_
    rw [Bus.significance_mem_image hN (hM hg)]
    exact hother
  · rintro ⟨f, hf, hnot, hbelow⟩
    refine ⟨f.significance, Finset.mem_image_of_mem _ hf, ?_, fun i hi hother => ?_⟩
    · rw [Bus.significance_mem_image hM (hN hf)]
      exact hnot
    · obtain ⟨g, hg, rfl⟩ := Finset.mem_image.mp hi
      rw [Bus.significance_mem_image hN (hM hg)] at hother
      exact hbelow g hg hother

/-- The most telling of the fields that only one of two sets holds. -/
def Criteria.Field.Decides (f : Field) (M N : Finset Field) : Prop :=
  f ∈ symmDiff M N ∧ ∀ g ∈ symmDiff M N, g.significance ≤ f.significance

theorem Bus.exists_decides_iff (hM : M ⊆ bus.fields.toFinset) (hN : N ⊆ bus.fields.toFinset) :
    (∃ f ∈ N, f.Decides M N) ↔
      ∃ f ∈ N, f ∉ M ∧ ∀ g ∈ M, g ∉ N → g.significance < f.significance := by
  unfold Criteria.Field.Decides
  simp only [Finset.mem_symmDiff]
  constructor
  · rintro ⟨f, hf, honly, hmost⟩
    have hnot : f ∉ M := honly.elim (fun h => absurd hf h.2) And.right
    refine ⟨f, hf, hnot, fun g hg hother => ?_⟩
    refine Nat.lt_of_le_of_ne (hmost g (.inl ⟨hg, hother⟩)) fun heq => hnot ?_
    exact bus.significance_injOn (hM hg) (hN hf) heq ▸ hg
  · rintro ⟨f, hf, hnot, hbelow⟩
    have hnonempty : (N \ M).Nonempty := ⟨f, Finset.mem_sdiff.mpr ⟨hf, hnot⟩⟩
    obtain ⟨top, htop, hmost⟩ := (N \ M).exists_max_image Field.significance hnonempty
    obtain ⟨hin, hout⟩ := Finset.mem_sdiff.mp htop
    refine ⟨top, hin, .inr ⟨hin, hout⟩, fun g hg => ?_⟩
    rcases hg with ⟨hg, hother⟩ | hg
    · have hlt := hbelow g hg hother
      have hle := hmost f (Finset.mem_sdiff.mpr ⟨hf, hnot⟩)
      omega
    · exact hmost g (Finset.mem_sdiff.mpr hg)

end

/-! ## Scores -/

/-- Two candidates score the same just when the same fields match. Otherwise the most telling field
that matches in one of them only gives that one the higher score, and no number of less telling
matches makes up for it. -/
theorem Criteria.matches_rank_scores (c : Criteria) {d e : Descriptor} {s t : Nat}
    (hd : c.score d = some s) (he : c.score e = some t) :
    (s = t ↔ c.matched d = c.matched e) ∧
      (t < s ↔ ∃ f ∈ c.matched d, f.Decides (c.matched e) (c.matched d)) ∧
      ∀ f ∈ c.matched d, f ∉ c.matched e →
        (∀ g ∈ c.matched e, g ∉ c.matched d → g.significance < f.significance) → t < s := by
  obtain ⟨-, rfl⟩ := (c.score_eq_some_iff d s).mp hd
  obtain ⟨-, rfl⟩ := (c.score_eq_some_iff e t).mp he
  have hdecides := Bus.exists_decides_iff (c.matched_subset e) (c.matched_subset d)
  have hless := Bus.sum_weight_lt_iff (c.matched_subset e) (c.matched_subset d)
  refine ⟨Bus.sum_weight_inj (c.matched_subset d) (c.matched_subset e), ?_, ?_⟩
  · exact hless.trans hdecides.symm
  · exact fun f hf hnot hbelow => hless.mpr ⟨f, hf, hnot, hbelow⟩

namespace Sample

/-- What a bus reports about a sensor. -/
def reported : Criteria := .acpi "INT3403" "0x02" "7" "_SB_"

/-- A profile for one kind of device. -/
def byDevice : Descriptor := { acpiDevice := "INT3403", acpiType := "*" }

/-- A profile for any device in one place. -/
def byPlace : Descriptor := { acpiType := "0x02", acpiUid := "7", acpiScope := "_SB_" }

/-- The device alone outweighs type, number and scope together. -/
theorem device_outweighs :
    reported.score byDevice = some 8 ∧ reported.score byPlace = some 7 ∧
      reported.matched byDevice ≠ reported.matched byPlace ∧
      (∃ f ∈ reported.matched byDevice,
        f.Decides (reported.matched byPlace) (reported.matched byDevice)) ∧
      (∀ g ∈ reported.matched byPlace, g ∉ reported.matched byDevice →
        g.significance < Criteria.Field.significance .acpiDevice) ∧ 7 < 8 := by
  have hdevice : reported.score byDevice = some 8 := by decide
  have hplace : reported.score byPlace = some 7 := by decide
  have hbelow : ∀ g ∈ reported.matched byPlace, g ∉ reported.matched byDevice →
      g.significance < Criteria.Field.significance .acpiDevice := by decide
  obtain ⟨hequal, hhigher, houtweighs⟩ := reported.matches_rank_scores hdevice hplace
  exact ⟨hdevice, hplace, fun h => absurd (hequal.mpr h) (by decide), hhigher.mp (by decide),
    hbelow, houtweighs .acpiDevice (by decide) (by decide) hbelow⟩

end Sample

end DeviceSupport
