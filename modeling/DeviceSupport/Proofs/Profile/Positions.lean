import DeviceSupport.Profile
import Mathlib.Data.List.Basic
import Mathlib.Data.List.Induction

/-! Looking primitives up by tuple agrees with going through their list.

The invariant is `Indexed`: the chain of every tuple holds the positions of the primitives that
have it, each position once and in increasing order. Adding a primitive keeps it
(`Indexed.insertPrimitive`), so it holds of every sequence of additions, and on an indexed profile
every look-up is what a scan of the list gives (`lookups_scan`). -/
namespace DeviceSupport
set_option autoImplicit false

/-! ## Positions in a list -/

/-- Where the primitives with a tuple stand in a list, first to last. -/
def Tuple.positions (t : Tuple) (primitives : List Primitive) : List Nat :=
  (List.range primitives.length).filter fun i => primitives[i]?.any (·.tuple = t)

namespace Tuple
variable (t : Tuple) (primitives : List Primitive)

theorem mem_positions_iff (i : Nat) :
    i ∈ t.positions primitives ↔
      ∃ primitive, primitives[i]? = some primitive ∧ primitive.tuple = t := by
  have hlt : primitives[i]?.isSome = true ↔ i < primitives.length := by simp
  unfold positions
  rw [List.mem_filter, List.mem_range, ← hlt]
  cases primitives[i]? <;> simp

theorem positions_concat (primitive : Primitive) :
    t.positions (primitives ++ [primitive]) =
      t.positions primitives ++ if primitive.tuple = t then [primitives.length] else [] := by
  have hbefore : ∀ i ∈ List.range primitives.length,
      ((primitives ++ [primitive])[i]?.any fun p => decide (p.tuple = t)) =
        primitives[i]?.any fun p => decide (p.tuple = t) := by
    intro i hi
    rw [List.getElem?_append_left (List.mem_range.mp hi)]
  unfold positions
  rw [List.length_append, List.length_singleton, List.range_succ, List.filter_append,
    List.filter_congr hbefore]
  by_cases h : primitive.tuple = t <;> simp [h]

/-- The primitives at the positions of a tuple are those that have it. -/
theorem filterMap_positions :
    (t.positions primitives).filterMap (primitives[·]?) =
      primitives.filter fun primitive => decide (primitive.tuple = t) := by
  induction primitives using List.reverseRecOn with
  | nil => rfl
  | append_singleton primitives primitive ih =>
    have hbefore : ∀ i ∈ t.positions primitives,
        (primitives ++ [primitive])[i]? = primitives[i]? := by
      intro i hi
      obtain ⟨found, hfound, -⟩ := (t.mem_positions_iff primitives i).mp hi
      exact List.getElem?_append_left (List.getElem?_eq_some_iff.mp hfound).1
    rw [positions_concat, List.filterMap_append, List.filterMap_congr hbefore, ih,
      List.filter_append]
    by_cases h : primitive.tuple = t <;> simp [h]

end Tuple

namespace Profile

/-! ## What a profile holds after primitives were added -/

/-- The parts that adding primitives leaves alone. -/
def frame (p : Profile) : Descriptor × UInt32 × List Domain × List Algorithm × List Event :=
  (p.descriptor, p.declaredSize, p.domains, p.algorithms, p.events)

theorem insertPrimitives_cons (p : Profile) (primitive : Primitive) (primitives : List Primitive) :
    p.insertPrimitives (primitive :: primitives) =
      (p.insertPrimitive primitive).2.insertPrimitives primitives := rfl

theorem frame_insertPrimitives (p : Profile) (primitives : List Primitive) :
    (p.insertPrimitives primitives).frame = p.frame := by
  induction primitives generalizing p with
  | nil => rfl
  | cons primitive primitives ih =>
    rw [insertPrimitives_cons, ih]
    rfl

@[simp] theorem primitives_insertPrimitive (p : Profile) (primitive : Primitive) :
    (p.insertPrimitive primitive).2.primitives.toList = p.primitives.toList ++ [primitive] := by
  simp [insertPrimitive]

theorem primitives_insertPrimitives (p : Profile) (primitives : List Primitive) :
    (p.insertPrimitives primitives).primitives.toList = p.primitives.toList ++ primitives := by
  induction primitives generalizing p with
  | nil => exact (List.append_nil _).symm
  | cons primitive primitives ih =>
    rw [insertPrimitives_cons, ih]
    simp

/-! ## The chains -/

/-- Each position stands in the chain of its own tuple, and the chains are in order. -/
def Indexed (p : Profile) : Prop :=
  ∀ t : Tuple, p.positions.chain t = t.positions p.primitives.toList

theorem Indexed.insertPrimitive {p : Profile} (h : p.Indexed) (primitive : Primitive) :
    (p.insertPrimitive primitive).2.Indexed := by
  intro t
  have hchain : (p.insertPrimitive primitive).2.positions.chain t =
      if primitive.tuple = t then p.positions.chain primitive.tuple ++ [p.primitives.size]
      else p.positions.chain t :=
    TupleTable.chain_push p.positions primitive.tuple t p.primitives.size
  rw [hchain, primitives_insertPrimitive, Tuple.positions_concat, Array.length_toList]
  by_cases ht : primitive.tuple = t
  · subst ht
    rw [if_pos rfl, if_pos rfl, h]
  · rw [if_neg ht, if_neg ht, h, List.append_nil]

theorem Indexed.insertPrimitives {p : Profile} (h : p.Indexed) (primitives : List Primitive) :
    (p.insertPrimitives primitives).Indexed := by
  induction primitives generalizing p with
  | nil => exact h
  | cons primitive primitives ih => exact ih (h.insertPrimitive primitive)

/-! ## Looking up -/

theorem Indexed.primitiveChain_eq {p : Profile} (h : p.Indexed) (t : Tuple) :
    p.primitiveChain t =
      p.primitives.toList.filter fun primitive => decide (primitive.tuple = t) := by
  rw [← Tuple.filterMap_positions, primitiveChain, h]
  simp

theorem Indexed.primitive?_eq {p : Profile} (h : p.Indexed) (t : Tuple) :
    p.primitive? t = p.primitives.toList.find? fun primitive => decide (primitive.tuple = t) := by
  rw [← List.head?_filter, ← h.primitiveChain_eq, primitive?, primitiveChain]
  cases hchain : p.positions.chain t with
  | nil => rfl
  | cons i rest =>
    -- A position in a chain is never out of range, so that the first one decides.
    have hi : i ∈ t.positions p.primitives.toList := by
      rw [← h, hchain]
      exact List.mem_cons_self
    obtain ⟨primitive, hfound, -⟩ := (t.mem_positions_iff _ i).mp hi
    rw [Array.getElem?_toList] at hfound
    simp [hfound]

theorem Indexed.insertPrimitive_isNew {p : Profile} (h : p.Indexed) (primitive : Primitive) :
    (p.insertPrimitive primitive).1 = true ↔
      ∀ earlier ∈ p.primitives.toList, earlier.tuple ≠ primitive.tuple := by
  have hempty : (p.insertPrimitive primitive).1 = true ↔
      primitive.tuple.positions p.primitives.toList = [] := by
    rw [← h]
    exact List.isEmpty_iff
  rw [hempty, List.eq_nil_iff_forall_not_mem]
  constructor
  · intro hnone earlier hmem heq
    obtain ⟨i, hi⟩ := List.mem_iff_getElem?.mp hmem
    exact hnone i ((Tuple.mem_positions_iff _ _ i).mpr ⟨earlier, hi, heq⟩)
  · intro hne i hi
    obtain ⟨earlier, hfound, heq⟩ := (Tuple.mem_positions_iff _ _ i).mp hi
    exact hne earlier (List.mem_of_getElem? hfound) heq

/-- A profile to which no primitive has been added. -/
def withoutPrimitives (descriptor : Descriptor) (declaredSize : UInt32) (domains : List Domain)
    (algorithms : List Algorithm) (events : List Event) : Profile :=
  { descriptor, declaredSize, domains, algorithms, events }

theorem indexed_withoutPrimitives (descriptor : Descriptor) (declaredSize : UInt32)
    (domains : List Domain) (algorithms : List Algorithm) (events : List Event) :
    (withoutPrimitives descriptor declaredSize domains algorithms events).Indexed :=
  fun t => TupleTable.chain_empty t

/-- After any sequence of additions the look-ups are scans of the primitives in the order in which
they were added, and an addition answers whether its tuple was new. -/
theorem lookups_scan (descriptor : Descriptor) (declaredSize : UInt32) (domains : List Domain)
    (algorithms : List Algorithm) (events : List Event) (primitives : List Primitive) :
    let start := withoutPrimitives descriptor declaredSize domains algorithms events
    let p := start.insertPrimitives primitives
    p.primitives.toList = primitives ∧
      (∀ t, p.primitive? t = primitives.find? fun primitive => decide (primitive.tuple = t)) ∧
      (∀ t, p.primitiveChain t =
        primitives.filter fun primitive => decide (primitive.tuple = t)) ∧
      ∀ before primitive after, primitives = before ++ primitive :: after →
        (((start.insertPrimitives before).insertPrimitive primitive).1 = true ↔
          ∀ earlier ∈ before, earlier.tuple ≠ primitive.tuple) := by
  intro start p
  have hall (added : List Primitive) :
      (start.insertPrimitives added).primitives.toList = added :=
    start.primitives_insertPrimitives added
  have hindexed (added : List Primitive) : (start.insertPrimitives added).Indexed :=
    (indexed_withoutPrimitives descriptor declaredSize domains algorithms events).insertPrimitives
      added
  refine ⟨hall primitives, fun t => ?first, fun t => ?chain, fun before primitive after _ => ?isNew⟩
  case first => rw [(hindexed primitives).primitive?_eq, hall]
  case chain => rw [(hindexed primitives).primitiveChain_eq, hall]
  case isNew => rw [(hindexed before).insertPrimitive_isNew, hall]

end Profile

end DeviceSupport
