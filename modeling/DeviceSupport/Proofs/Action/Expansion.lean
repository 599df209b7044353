import DeviceSupport.Action.Builtin
import DeviceSupport.Action.Expansion
import DeviceSupport.Proofs.Bytes.Field

/-! What parameters expand to.

Parameters expand slot by slot, and only a text that grows beyond its limit is in the way. So they
all expand, or the first text that is too long is the one that is reported. -/
namespace DeviceSupport
set_option autoImplicit false

/-! ## Texts -/

namespace NameToken

/-- A text of `n` tokens. -/
def tokens (n : Nat) : String := String.ofList (List.replicate n ['%', 'n', 'm', '%']).flatten

theorem replaceFrom_tokens (name done : List Char) (n : Nat) :
    replaceFrom name done (List.replicate n ['%', 'n', 'm', '%']).flatten =
      done.reverse ++ (List.replicate n name).flatten := by
  induction n generalizing done with
  | zero => exact (List.append_nil _).symm
  | succ n ih =>
    rw [List.replicate_succ, List.replicate_succ, List.flatten_cons, List.flatten_cons]
    have hstep : replaceFrom name done
        (['%', 'n', 'm', '%'] ++ (List.replicate n ['%', 'n', 'm', '%']).flatten) =
          replaceFrom name (name.reverse ++ done)
            (List.replicate n ['%', 'n', 'm', '%']).flatten := rfl
    rw [hstep, ih]
    simp

theorem utf8ByteSize_replace_tokens (name : String) (n : Nat) :
    (replace name (tokens n)).utf8ByteSize = n * name.utf8ByteSize := by
  rw [replace, tokens, String.toList_ofList, replaceFrom_tokens, List.reverse_nil, List.nil_append]
  induction n with
  | zero => simp
  | succ n ih =>
    rw [List.replicate_succ, List.flatten_cons, String.ofList_append, String.utf8ByteSize_append,
      ih, String.ofList_toList, Nat.add_one_mul, Nat.add_comm]

end NameToken

/-! ## Slots -/

/-- A parameter with the name put in. -/
def Param.named (name : String) : Param → Param
  | .text value => .text (NameToken.replace name value)
  | .number value => .number value

namespace Params

/-- Every text stays within its limit when the name is put in. -/
def Fits (name : String) (params : List (Option Param)) : Prop :=
  ∀ value, some (.text value) ∈ params →
    (NameToken.replace name value).utf8ByteSize ≤ Limits.parameterLength

theorem fits_cons (name : String) (param : Option Param) (params : List (Option Param)) :
    Fits name (param :: params) ↔
      (∀ value, param = some (.text value) →
        (NameToken.replace name value).utf8ByteSize ≤ Limits.parameterLength) ∧
      Fits name params := by
  unfold Fits
  constructor
  · intro h
    exact ⟨fun value hvalue => h value (hvalue ▸ List.mem_cons_self),
      fun value hmem => h value (List.mem_cons_of_mem _ hmem)⟩
  · rintro ⟨hparam, hparams⟩ value hmem
    rcases List.mem_cons.mp hmem with heq | hmem
    · exact hparam value heq.symm
    · exact hparams value hmem

theorem expandSlot_eq_ok_iff (name : String) (slot : Nat) (param expanded : Option Param) :
    expandSlot name slot param = .ok expanded ↔
      (∀ value, param = some (.text value) →
        (NameToken.replace name value).utf8ByteSize ≤ Limits.parameterLength) ∧
      expanded = param.map (Param.named name) := by
  rcases param with _ | value | value
  · simp [expandSlot, eq_comm]
  · by_cases hlong : Limits.parameterLength < (NameToken.replace name value).utf8ByteSize
    · have hgrows := Nat.not_le.mpr hlong
      simp [expandSlot, hlong, hgrows]
    · simp [expandSlot, hlong, Param.named, Nat.le_of_not_lt hlong, eq_comm]
  · simp [expandSlot, Param.named, eq_comm]

theorem expandFrom_eq_ok_iff (name : String) (slot : Nat) (params expanded : List (Option Param)) :
    expandFrom name slot params = .ok expanded ↔
      Fits name params ∧ expanded = params.map (Option.map (Param.named name)) := by
  induction params generalizing slot expanded with
  | nil => simp [expandFrom, Fits, eq_comm]
  | cons param params ih =>
    rw [expandFrom, fits_cons, bind_eq_ok_iff, List.map_cons]
    constructor
    · rintro ⟨first, hfirst, hlater⟩
      obtain ⟨rest, hrest, hexpanded⟩ := bind_eq_ok_iff.mp hlater
      obtain ⟨hparam, rfl⟩ := (expandSlot_eq_ok_iff name slot param first).mp hfirst
      obtain ⟨hparams, rfl⟩ := (ih (slot + 1) rest).mp hrest
      exact ⟨⟨hparam, hparams⟩, (Except.ok.inj hexpanded).symm⟩
    · rintro ⟨⟨hparam, hparams⟩, rfl⟩
      refine ⟨_, (expandSlot_eq_ok_iff name slot param _).mpr ⟨hparam, rfl⟩, ?_⟩
      exact bind_eq_ok_iff.mpr ⟨_, (ih (slot + 1) _).mpr ⟨hparams, rfl⟩, rfl⟩

theorem expand_of_fits {params : Params} {participant domain : String}
    (h : Fits (participant ++ "." ++ domain) params) :
    params.expand participant domain =
      .ok (params.map (Option.map (Param.named (participant ++ "." ++ domain)))) :=
  (expandFrom_eq_ok_iff _ 1 params _).mpr ⟨h, rfl⟩

/-- The first text that is too long is reported, with its slot and its length. -/
theorem expandFrom_of_long {name value : String} {before after : List (Option Param)} {size : Nat}
    (hbefore : Fits name before) (hsize : (NameToken.replace name value).utf8ByteSize = size)
    (hlong : Limits.parameterLength < size) (slot : Nat) :
    expandFrom name slot (before ++ some (.text value) :: after) =
      .error (.parameterOutOfBounds
        s!"parameter {slot + before.length} expands to {size} bytes") := by
  induction before generalizing slot with
  | nil =>
    have hrefused : expandSlot name slot (some (.text value)) =
        .error (.parameterOutOfBounds s!"parameter {slot} expands to {size} bytes") := by
      rw [expandSlot, hsize, if_pos hlong]
    rw [List.nil_append, expandFrom, hrefused]
    rfl
  | cons param before ih =>
    obtain ⟨hparam, hrest⟩ := (fits_cons name param before).mp hbefore
    have hfirst := (expandSlot_eq_ok_iff name slot param _).mpr ⟨hparam, rfl⟩
    have hslot : slot + 1 + before.length = slot + (param :: before).length := by
      rw [List.length_cons]
      omega
    rw [List.cons_append, expandFrom, hfirst, ok_bind, ih hrest (slot + 1), hslot]
    rfl

theorem expandSlot_fault {name : String} {slot : Nat} {param : Option Param} {fault : Fault}
    (h : expandSlot name slot param = .error fault) :
    ∃ text, fault = .parameterOutOfBounds text := by
  unfold expandSlot at h
  split at h
  · dsimp only at h
    split at h
    · exact ⟨_, (Except.error.inj h).symm⟩
    · nomatch h
  · nomatch h

/-- Nothing but a text that is too long is in the way. -/
theorem expandFrom_fault {name : String} {slot : Nat} {params : List (Option Param)} {fault : Fault}
    (h : expandFrom name slot params = .error fault) :
    ∃ text, fault = .parameterOutOfBounds text := by
  induction params generalizing slot with
  | nil => nomatch h
  | cons param params ih =>
    rw [expandFrom] at h
    rcases bind_eq_error_iff.mp h with hfirst | ⟨first, -, hlater⟩
    · exact expandSlot_fault hfirst
    · rcases bind_eq_error_iff.mp hlater with hrest | ⟨rest, -, hdone⟩
      · exact ih hrest
      · nomatch hdone

/-! ## The first parameter -/

theorem first_map_named {name : String} {params : Params} {param : Param}
    (h : params.head? = some (some param)) :
    Params.first (params.map (Option.map (Param.named name))) = .ok (param.named name) := by
  rw [first, List.head?_map, h]
  rfl

end Params

end DeviceSupport
