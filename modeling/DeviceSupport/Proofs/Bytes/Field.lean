import DeviceSupport.Bytes.Cursor

/-! Fields of a record by offset, as functions of its bytes alone.

A read of a `Record` succeeds exactly when the field lies inside, and gives what the functions of
`Field` give (`field_eq_ok_iff` and the lemmas after it). Offsets and names of records only show in
faults. The module starts with the laws by which a run of several steps is taken apart. -/
namespace DeviceSupport
set_option autoImplicit false

/-! ## Steps that may fail -/

theorem bind_eq_ok_iff {ε α β : Type} {step : Except ε α} {next : α → Except ε β} {b : β} :
    step >>= next = .ok b ↔ ∃ a, step = .ok a ∧ next a = .ok b := by
  constructor
  · intro h
    cases step with
    | error fault => nomatch h
    | ok a => exact ⟨a, rfl, h⟩
  · rintro ⟨a, rfl, h⟩
    exact h

theorem bind_eq_error_iff {α β : Type} {step : Except Fault α} {next : α → Except Fault β}
    {fault : Fault} :
    step >>= next = .error fault ↔
      step = .error fault ∨ ∃ a, step = .ok a ∧ next a = .error fault := by
  constructor
  · intro h
    cases step with
    | error fault =>
      cases h
      exact .inl rfl
    | ok a => exact .inr ⟨a, rfl, h⟩
  · rintro (rfl | ⟨a, rfl, h⟩)
    · rfl
    · exact h

theorem ok_bind {α β : Type} (a : α) (next : α → Except Fault β) :
    (Except.ok a >>= next) = next a := rfl

theorem eq_ok_of_isOk {α : Type} [Inhabited α] {step : Except Fault α} (h : step.isOk = true) :
    step = .ok (step.toOption.getD default) := by
  cases step with
  | ok a => rfl
  | error fault => nomatch h

theorem done_of_isOk {step : Except Fault Unit} (h : step.isOk = true) : step = .ok () :=
  eq_ok_of_isOk h

theorem eq_ok_of_toOption {ε α : Type} {step : Except ε α} {a : α}
    (h : step.toOption = some a) : step = .ok a := by
  cases step with
  | error fault => nomatch h
  | ok b =>
    cases h
    rfl

/-- The fault of a step that fails; faults can be told apart, which steps in general cannot. -/
def fault? {α : Type} : Except Fault α → Option Fault
  | .ok _ => none
  | .error fault => some fault

theorem eq_error_of_fault? {α : Type} {step : Except Fault α} {fault : Fault}
    (h : fault? step = some fault) : step = .error fault := by
  cases step with
  | ok a => nomatch h
  | error other =>
    cases h
    rfl

theorem pure_eq_ok {α : Type} (a : α) : (pure a : Except Fault α) = .ok a := rfl

/-- A step for each item, where a step succeeds on the items with `P` and gives `value`. -/
theorem mapM_eq_ok_iff {α β : Type} {step : α → Except Fault β} {P : α → Prop} {value : α → β}
    {xs : List α} (h : ∀ x ∈ xs, ∀ y, step x = .ok y ↔ P x ∧ value x = y) (ys : List β) :
    xs.mapM step = .ok ys ↔ (∀ x ∈ xs, P x) ∧ xs.map value = ys := by
  induction xs generalizing ys with
  | nil =>
    rw [List.mapM_nil, pure_eq_ok, List.map_nil, Except.ok.injEq]
    exact (and_iff_right (fun x hx => absurd hx List.not_mem_nil)).symm
  | cons x xs ih =>
    have hx := h x (List.mem_cons_self ..)
    have htail := ih fun z hz => h z (List.mem_cons_of_mem x hz)
    rw [List.mapM_cons, bind_eq_ok_iff, List.forall_mem_cons, List.map_cons]
    constructor
    · rintro ⟨y, hy, hrest⟩
      obtain ⟨ys', hys', hrest⟩ := bind_eq_ok_iff.mp hrest
      obtain ⟨hP, rfl⟩ := (hx y).mp hy
      obtain ⟨hall, rfl⟩ := (htail ys').mp hys'
      cases hrest
      exact ⟨⟨hP, hall⟩, rfl⟩
    · rintro ⟨⟨hP, hall⟩, rfl⟩
      refine ⟨value x, (hx _).mpr ⟨hP, rfl⟩, bind_eq_ok_iff.mpr ⟨xs.map value, ?_, rfl⟩⟩
      exact (htail _).mpr ⟨hall, rfl⟩

/-! ## Fields -/

namespace Field

/-- The `length` bytes at an offset. -/
def bytes (record : List UInt8) (offset length : Nat) : List UInt8 :=
  (record.drop offset).take length

def uint8 (record : List UInt8) (offset : Nat) : UInt8 := record.getD offset 0

def uint16 (record : List UInt8) (offset : Nat) : UInt16 :=
  LittleEndian.toUInt16 (bytes record offset 2)

def uint32 (record : List UInt8) (offset : Nat) : UInt32 :=
  LittleEndian.toUInt32 (bytes record offset 4)

/-- The text of a field of `length` bytes, which ends at the first NUL. -/
def text (record : List UInt8) (offset length : Nat) : String :=
  Utf8.decodeField (bytes record offset length)

theorem length_bytes {record : List UInt8} {offset length : Nat}
    (h : offset + length ≤ record.length) : (bytes record offset length).length = length := by
  rw [bytes, List.length_take, List.length_drop]
  omega

/-- A stretch and the one behind it. -/
theorem bytes_append (record : List UInt8) (offset length more : Nat) :
    bytes record offset length ++ bytes record (offset + length) more =
      bytes record offset (length + more) := by
  rw [bytes, bytes, bytes, List.take_add, List.drop_drop]

theorem bytes_one {record : List UInt8} {offset : Nat} (h : offset + 1 ≤ record.length) :
    bytes record offset 1 = [uint8 record offset] := by
  have hlt : offset < record.length := h
  have hget : record.getD offset 0 = record[offset] := by simp [hlt]
  rw [bytes, uint8, List.drop_eq_getElem_cons hlt, hget]
  rfl

/-! A record that is written piece after piece: what lies before a field is skipped. -/

theorem bytes_skip {piece rest : List UInt8} {offset length : Nat} (h : piece.length ≤ offset) :
    bytes (piece ++ rest) offset length = bytes rest (offset - piece.length) length := by
  rw [bytes, bytes, List.drop_append, List.drop_eq_nil_of_le h, List.nil_append]

theorem bytes_here {piece rest : List UInt8} {length : Nat} (h : piece.length = length) :
    bytes (piece ++ rest) 0 length = piece := by
  rw [bytes, List.drop_zero, ← h, List.take_left]

theorem bytes_last {piece : List UInt8} {length : Nat} (h : piece.length = length) :
    bytes piece 0 length = piece := by
  rw [bytes, List.drop_zero, ← h, List.take_length]

theorem uint8_skip {piece rest : List UInt8} {offset : Nat} (h : piece.length ≤ offset) :
    uint8 (piece ++ rest) offset = uint8 rest (offset - piece.length) := by
  rw [uint8, uint8, List.getD_eq_getElem?_getD, List.getD_eq_getElem?_getD,
    List.getElem?_append_right h]

theorem uint8_before {piece rest : List UInt8} {offset : Nat} (h : offset < piece.length) :
    uint8 (piece ++ rest) offset = uint8 piece offset := by
  rw [uint8, uint8, List.getD_eq_getElem?_getD, List.getD_eq_getElem?_getD,
    List.getElem?_append_left h]

end Field

/-! ## Reading them from a record -/

namespace Record

theorem field_eq_ok_iff (r : Record) (offset length : Nat) (bytes : List UInt8) :
    r.field offset length = .ok bytes ↔
      offset + length ≤ r.bytes.length ∧ Field.bytes r.bytes offset length = bytes := by
  unfold field Record.length
  by_cases h : offset + length ≤ r.bytes.length
  · rw [if_pos h, Except.ok.injEq]
    exact (and_iff_right h).symm
  · rw [if_neg h]
    exact ⟨fun e => (nomatch e), fun e => absurd e.1 h⟩

theorem field_of_le {r : Record} {offset length : Nat} (h : offset + length ≤ r.bytes.length) :
    r.field offset length = .ok (Field.bytes r.bytes offset length) :=
  (field_eq_ok_iff r offset length _).mpr ⟨h, rfl⟩

/-- A value that is read off the bytes of one field. -/
theorem read_eq_ok_iff {α : Type} (r : Record) (offset length : Nat) (value : List UInt8 → α)
    (a : α) :
    (do let bytes ← r.field offset length; return value bytes) = Except.ok a ↔
      offset + length ≤ r.bytes.length ∧ value (Field.bytes r.bytes offset length) = a := by
  rw [bind_eq_ok_iff]
  constructor
  · rintro ⟨bytes, hbytes, h⟩
    obtain ⟨hle, rfl⟩ := (field_eq_ok_iff r offset length bytes).mp hbytes
    cases h
    exact ⟨hle, rfl⟩
  · rintro ⟨hle, rfl⟩
    exact ⟨_, field_of_le hle, rfl⟩

theorem uint8_eq_ok_iff (r : Record) (offset : Nat) (v : UInt8) :
    r.uint8 offset = .ok v ↔ offset + 1 ≤ r.bytes.length ∧ Field.uint8 r.bytes offset = v := by
  rw [uint8, read_eq_ok_iff]
  refine and_congr_right fun h => ?_
  rw [Field.bytes_one h]
  simp [LittleEndian.decode]

theorem uint16_eq_ok_iff (r : Record) (offset : Nat) (v : UInt16) :
    r.uint16 offset = .ok v ↔ offset + 2 ≤ r.bytes.length ∧ Field.uint16 r.bytes offset = v :=
  read_eq_ok_iff r offset 2 LittleEndian.toUInt16 v

theorem uint32_eq_ok_iff (r : Record) (offset : Nat) (v : UInt32) :
    r.uint32 offset = .ok v ↔ offset + 4 ≤ r.bytes.length ∧ Field.uint32 r.bytes offset = v :=
  read_eq_ok_iff r offset 4 LittleEndian.toUInt32 v

theorem text_eq_ok_iff (r : Record) (offset length : Nat) (v : String) :
    r.text offset length = .ok v ↔
      offset + length ≤ r.bytes.length ∧ Field.text r.bytes offset length = v :=
  read_eq_ok_iff r offset length Utf8.decodeField v

theorem uint8_of_le {r : Record} {offset : Nat} (h : offset + 1 ≤ r.bytes.length) :
    r.uint8 offset = .ok (Field.uint8 r.bytes offset) :=
  (uint8_eq_ok_iff r offset _).mpr ⟨h, rfl⟩

theorem uint16_of_le {r : Record} {offset : Nat} (h : offset + 2 ≤ r.bytes.length) :
    r.uint16 offset = .ok (Field.uint16 r.bytes offset) :=
  (uint16_eq_ok_iff r offset _).mpr ⟨h, rfl⟩

theorem uint32_of_le {r : Record} {offset : Nat} (h : offset + 4 ≤ r.bytes.length) :
    r.uint32 offset = .ok (Field.uint32 r.bytes offset) :=
  (uint32_eq_ok_iff r offset _).mpr ⟨h, rfl⟩

theorem text_of_le {r : Record} {offset length : Nat} (h : offset + length ≤ r.bytes.length) :
    r.text offset length = .ok (Field.text r.bytes offset length) :=
  (text_eq_ok_iff r offset length _).mpr ⟨h, rfl⟩

theorem body_of_le {r : Record} {header : Nat} (h : header ≤ r.bytes.length) :
    r.body header = .ok ⟨header, r.bytes.drop header⟩ := by
  rw [body, Cursor.startAt, if_pos h]

end Record

end DeviceSupport
