import DeviceSupport.Proofs.Package.RoundTrip
import Mathlib.Data.Finset.Card
import Mathlib.Data.List.Basic

/-! Every repetition of a tuple is reported, and reported once.

A profile lists a primitive as a duplicate when it comes in, if the chain of its tuple is not empty
at that time. `Reported` says what this amounts to for the list of primitives as a whole: the report
holds just the positions whose tuple stands further up as well, in increasing order, and it has as
many entries as there are primitives beyond the distinct tuples. One more primitive keeps it
(`Reported.insertPrimitive`), whichever domain the primitive comes from, so it holds of each profile
that is read or put together (`Built.reported`). -/
namespace DeviceSupport
set_option autoImplicit false

/-! ## Repetitions in a list of tuples -/

/-- The tuple stands at the position, and further up as well. -/
def Duplicate.Repeats (d : Duplicate) (tuples : List Tuple) : Prop :=
  tuples[d.position]? = some d.tuple ∧ d.tuple ∈ tuples.take d.position

namespace Duplicate

theorem Repeats.position_lt {d : Duplicate} {tuples : List Tuple} (h : d.Repeats tuples) :
    d.position < tuples.length :=
  (List.getElem?_eq_some_iff.mp h.1).1

theorem repeats_concat (d : Duplicate) (tuples : List Tuple) (t : Tuple) :
    d.Repeats (tuples ++ [t]) ↔ d.Repeats tuples ∨ (t ∈ tuples ∧ d = ⟨t, tuples.length⟩) := by
  obtain ⟨tuple, position⟩ := d
  unfold Repeats
  dsimp only
  rcases Nat.lt_trichotomy position tuples.length with hlt | rfl | hgt
  · rw [List.getElem?_append_left hlt, List.take_append_of_le_length (Nat.le_of_lt hlt)]
    simp [Nat.ne_of_lt hlt]
  · rw [List.getElem?_concat_length, List.take_left]
    constructor
    · rintro ⟨htuple, hmem⟩
      cases htuple
      exact .inr ⟨hmem, rfl⟩
    · rintro (⟨hfound, -⟩ | ⟨hmem, heq⟩)
      · exact absurd hfound (by simp)
      · cases heq
        exact ⟨rfl, hmem⟩
  · have hbehind : (tuples ++ [t])[position]? = none := by
      rw [List.getElem?_eq_none_iff, List.length_append, List.length_singleton]
      omega
    have hbeyond : tuples[position]? = none := List.getElem?_eq_none (Nat.le_of_lt hgt)
    simp [hbehind, hbeyond, Nat.ne_of_gt hgt]

end Duplicate

theorem Tuple.mem_take_iff {t : Tuple} {tuples : List Tuple} {n : Nat} :
    t ∈ tuples.take n ↔ ∃ i < n, tuples[i]? = some t := by
  rw [List.mem_iff_getElem?]
  refine exists_congr fun i => ?_
  rw [List.getElem?_take]
  by_cases h : i < n <;> simp [h]

theorem Tuple.card_toFinset_concat (tuples : List Tuple) (t : Tuple) :
    (tuples ++ [t]).toFinset.card = tuples.toFinset.card + if t ∈ tuples then 0 else 1 := by
  have hinsert : (tuples ++ [t]).toFinset = insert t tuples.toFinset := by
    ext u
    simp
  rw [hinsert]
  by_cases h : t ∈ tuples
  · rw [if_pos h, Finset.insert_eq_of_mem (List.mem_toFinset.mpr h), Nat.add_zero]
  · rw [if_neg h, Finset.card_insert_of_notMem fun hmem => h (List.mem_toFinset.mp hmem)]

namespace Profile

/-- The tuples of the primitives, in the order of the primitives. -/
def tuples (p : Profile) : List Tuple := p.primitives.toList.map (·.tuple)

@[simp] theorem length_tuples (p : Profile) : p.tuples.length = p.primitives.size := by
  simp [tuples]

@[simp] theorem tuples_insertPrimitive (p : Profile) (primitive : Primitive) :
    (p.insertPrimitive primitive).2.tuples = p.tuples ++ [primitive.tuple] := by
  simp [tuples]

/-! ## The report -/

/-- The report lists the repetitions of the list of primitives, all of them and nothing else. -/
structure Reported (p : Profile) : Prop where
  indexed : p.Indexed
  ordered : p.duplicates.Pairwise fun d e => d.position < e.position
  mem_iff : ∀ d, d ∈ p.duplicates ↔ d.Repeats p.tuples
  counted : p.duplicates.length + p.tuples.toFinset.card = p.primitives.size

theorem Indexed.duplicates_insertPrimitive {p : Profile} (h : p.Indexed) (primitive : Primitive) :
    (p.insertPrimitive primitive).2.duplicates =
      p.duplicates ++ if primitive.tuple ∈ p.tuples then [⟨primitive.tuple, p.tuples.length⟩]
        else [] := by
  have hnew : (p.insertPrimitive primitive).1 = true ↔ primitive.tuple ∉ p.tuples := by
    rw [h.insertPrimitive_isNew]
    simp [tuples]
  have hduplicates : (p.insertPrimitive primitive).2.duplicates =
      if (p.insertPrimitive primitive).1 then p.duplicates
      else p.duplicates ++ [⟨primitive.tuple, p.primitives.size⟩] := rfl
  rw [hduplicates, length_tuples]
  by_cases hmem : primitive.tuple ∈ p.tuples
  · rw [if_neg fun hisNew => hnew.mp hisNew hmem, if_pos hmem]
  · rw [if_pos (hnew.mpr hmem), if_neg hmem, List.append_nil]

theorem Reported.insertPrimitive {p : Profile} (h : p.Reported) (primitive : Primitive) :
    (p.insertPrimitive primitive).2.Reported := by
  have hduplicates := h.indexed.duplicates_insertPrimitive primitive
  have hsize : (p.insertPrimitive primitive).2.primitives.size = p.primitives.size + 1 := by
    simp [← length_tuples]
  refine ⟨h.indexed.insertPrimitive primitive, ?ordered, fun d => ?mem_iff, ?counted⟩
  case ordered =>
    rw [hduplicates, List.pairwise_append]
    refine ⟨h.ordered, by split <;> simp, fun d hd e he => ?_⟩
    have hlast : e.position = p.tuples.length := by
      split at he
      · exact congrArg Duplicate.position (List.mem_singleton.mp he)
      · exact absurd he List.not_mem_nil
    rw [hlast]
    exact ((h.mem_iff d).mp hd).position_lt
  case mem_iff =>
    rw [hduplicates, tuples_insertPrimitive, Duplicate.repeats_concat, List.mem_append, h.mem_iff]
    split <;> simp [*]
  case counted =>
    rw [hduplicates, tuples_insertPrimitive, Tuple.card_toFinset_concat, hsize, List.length_append,
      ← h.counted]
    split <;> simp <;> omega

/-! ## How profiles come about -/

/-- A profile is read from an image or starts out empty, and takes records one by one. -/
inductive Built : Profile → Prop where
  | empty (descriptor : Descriptor) (declaredSize : UInt32) : Built { descriptor, declaredSize }
  | decoded {image : List UInt8} {p : Profile} (h : Package.decode image = .ok p) : Built p
  | primitive {p : Profile} (h : Built p) (added : Primitive) : Built (p.insertPrimitive added).2
  | domain {p : Profile} (h : Built p) (added : Domain) : Built (p.insertDomain added)
  | algorithm {p : Profile} (h : Built p) (added : Algorithm) : Built (p.insertAlgorithm added)
  | event {p : Profile} (h : Built p) (added : Event) : Built (p.insertEvent added)

theorem reported_withoutPrimitives (descriptor : Descriptor) (declaredSize : UInt32)
    (domains : List Domain) (algorithms : List Algorithm) (events : List Event) :
    (withoutPrimitives descriptor declaredSize domains algorithms events).Reported where
  indexed := indexed_withoutPrimitives descriptor declaredSize domains algorithms events
  ordered := List.Pairwise.nil
  mem_iff d := by
    refine ⟨fun h => absurd h List.not_mem_nil, fun h => ?_⟩
    exact absurd h.position_lt (Nat.not_lt_zero _)
  counted := rfl

theorem Reported.insertPrimitives {p : Profile} (h : p.Reported) (primitives : List Primitive) :
    (p.insertPrimitives primitives).Reported := by
  induction primitives generalizing p with
  | nil => exact h
  | cons primitive primitives ih => exact ih (h.insertPrimitive primitive)

theorem reported_of_decode {image : List UInt8} {p : Profile} (h : Package.decode image = .ok p) :
    p.Reported := by
  obtain ⟨i, -, rfl⟩ := (Package.decode_eq_ok_iff image p).mp h
  exact (reported_withoutPrimitives _ _ _ _ _).insertPrimitives i.primitives

theorem Built.reported {p : Profile} (h : p.Built) : p.Reported := by
  induction h with
  | empty descriptor declaredSize => exact reported_withoutPrimitives descriptor declaredSize [] [] []
  | decoded h => exact reported_of_decode h
  | primitive _ added ih => exact ih.insertPrimitive added
  | domain _ added ih => exact ⟨ih.indexed, ih.ordered, ih.mem_iff, ih.counted⟩
  | algorithm _ added ih => exact ⟨ih.indexed, ih.ordered, ih.mem_iff, ih.counted⟩
  | event _ added ih => exact ⟨ih.indexed, ih.ordered, ih.mem_iff, ih.counted⟩

/-! ## Looking up beside the report -/

/-- Where a look-up reads. -/
def position? (p : Profile) (t : Tuple) : Option Nat := (p.positions.chain t).head?

theorem primitive?_eq_bind (p : Profile) (t : Tuple) :
    p.primitive? t = (p.position? t).bind (p.primitives[·]?) := rfl

/-- A look-up reads at the first place where the tuple stands. -/
theorem Indexed.position?_eq_some_iff {p : Profile} (h : p.Indexed) (t : Tuple) (i : Nat) :
    p.position? t = some i ↔ p.tuples[i]? = some t ∧ t ∉ p.tuples.take i := by
  have hfirst : p.position? t =
      (List.range p.primitives.toList.length).find? fun i =>
        p.primitives.toList[i]?.any (·.tuple = t) := by
    rw [position?, h, Tuple.positions, List.head?_filter]
  have hat (j : Nat) : p.primitives.toList[j]?.any (·.tuple = t) = true ↔
      p.tuples[j]? = some t := by
    rw [tuples, List.getElem?_map]
    cases p.primitives.toList[j]? <;> simp
  rw [hfirst, List.find?_range_eq_some, hat, Tuple.mem_take_iff]
  constructor
  · rintro ⟨hi, -, hbefore⟩
    refine ⟨hi, fun ⟨j, hj, hstands⟩ => ?_⟩
    have hnot := hbefore j hj
    rw [(hat j).mpr hstands] at hnot
    exact absurd hnot (by decide)
  · rintro ⟨hi, hbefore⟩
    have hlt : i < p.primitives.toList.length := by
      rw [Array.length_toList, ← length_tuples]
      exact (List.getElem?_eq_some_iff.mp hi).1
    refine ⟨hi, List.mem_range.mpr hlt, fun j hj => ?_⟩
    rw [Bool.not_eq_true', Bool.eq_false_iff]
    exact fun hstands => hbefore ⟨j, hj, (hat j).mp hstands⟩

theorem Reported.eq_nil_iff {p : Profile} (h : p.Reported) : p.duplicates = [] ↔ p.tuples.Nodup := by
  have hdistinct : p.tuples.toFinset.card = p.tuples.length ↔ p.tuples.Nodup :=
    Multiset.toFinset_card_eq_card_iff_nodup
  have hcounted := h.counted
  rw [← hdistinct, length_tuples, ← List.length_eq_zero_iff]
  omega

/-- However a profile came about, its report lists in increasing order just the positions of those
primitives whose tuple an earlier one has. With the distinct tuples they make up all primitives; the
report is empty just when no tuple comes twice; and no look-up reads at a position that it lists. -/
theorem duplicates_complete {p : Profile} (h : p.Built) :
    p.duplicates.Pairwise (fun d e => d.position < e.position) ∧
      (∀ d, d ∈ p.duplicates ↔
        p.tuples[d.position]? = some d.tuple ∧ d.tuple ∈ p.tuples.take d.position) ∧
      p.duplicates.length + p.tuples.toFinset.card = p.primitives.size ∧
      (p.duplicates = [] ↔ p.tuples.Nodup) ∧
      ∀ t primitive, p.primitive? t = some primitive →
        ∃ i, p.position? t = some i ∧ p.primitives[i]? = some primitive ∧
          ∀ d ∈ p.duplicates, d.position ≠ i := by
  have hreported := h.reported
  refine ⟨hreported.ordered, hreported.mem_iff, hreported.counted, hreported.eq_nil_iff,
    fun t primitive hfound => ?_⟩
  rw [primitive?_eq_bind] at hfound
  obtain ⟨i, hread, hprimitive⟩ := Option.bind_eq_some_iff.mp hfound
  refine ⟨i, hread, hprimitive, fun d hd hposition => ?_⟩
  obtain ⟨hhere, hbefore⟩ := (hreported.indexed.position?_eq_some_iff t i).mp hread
  obtain ⟨htuple, hearlier⟩ := (hreported.mem_iff d).mp hd
  -- The listed record has the tuple that was looked up, which stands nowhere before it.
  rw [hposition] at htuple hearlier
  rw [hhere] at htuple
  cases htuple
  exact hbefore hearlier

end Profile

namespace Sample

/-! ## A sample

One tuple comes three times, the last time in another domain. -/

def recurrent : Tuple := ⟨14, 12356, 255⟩

def recurrentPackage : PackageSpec where
  descriptor := { code := "demo" }
  domains :=
    [{ name := "CPU", qualifier := "D0"
       primitives :=
        [{ opcode := .get, tuple := recurrent, requestType := 24, resultType := 6 },
          { opcode := .set, tuple := recurrent, requestType := 6, resultType := 24 }] },
      { name := "GFX", qualifier := "D1"
        primitives :=
          [{ opcode := .get, tuple := ⟨15, 12612, 255⟩, requestType := 24, resultType := 6 },
            { opcode := .get, tuple := recurrent, requestType := 24, resultType := 3 }] }]

def recurrentProfile : Profile :=
  (Package.decode (Package.encode recurrentPackage)).toOption.getD default

theorem storable_recurrent : recurrentPackage.Storable := by decide

theorem recurrentProfile_eq : recurrentProfile = recurrentPackage.decoded :=
  Package.getD_decode_encode storable_recurrent

theorem decode_recurrent :
    Package.decode (Package.encode recurrentPackage) = .ok recurrentProfile := by
  rw [recurrentProfile_eq]
  exact Package.decode_encode_eq storable_recurrent

/-- Both repetitions are reported, and the look-up reads at neither of them. -/
theorem recurrent_reported :
    let p := recurrentProfile
    p.Built ∧ p.duplicates = [⟨recurrent, 1⟩, ⟨recurrent, 3⟩] ∧
      p.duplicates.length + p.tuples.toFinset.card = 4 ∧ ¬ p.tuples.Nodup ∧
      ∃ i, p.position? recurrent = some i ∧ i ≠ 1 ∧ i ≠ 3 := by
  intro p
  have hbuilt : p.Built := .decoded decode_recurrent
  obtain ⟨-, -, hcounted, hempty, hread⟩ := Profile.duplicates_complete hbuilt
  obtain ⟨hduplicates, hsize, hfound⟩ : p.duplicates = [⟨recurrent, 1⟩, ⟨recurrent, 3⟩] ∧
      p.primitives.size = 4 ∧ (p.primitive? recurrent).isSome = true := by
    simp only [p, recurrentProfile_eq]
    decide
  obtain ⟨primitive, hfound⟩ := Option.isSome_iff_exists.mp hfound
  obtain ⟨i, hi, -, hlisted⟩ := hread recurrent primitive hfound
  rw [hduplicates] at hlisted hempty
  refine ⟨hbuilt, hduplicates, hsize ▸ hcounted, fun hnodup => ?_, i, hi, ?_, ?_⟩
  · exact absurd (hempty.mpr hnodup) (by simp)
  · exact (hlisted ⟨recurrent, 1⟩ (by simp)).symm
  · exact (hlisted ⟨recurrent, 3⟩ (by simp)).symm

end Sample

end DeviceSupport
