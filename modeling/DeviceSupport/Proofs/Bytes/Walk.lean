import DeviceSupport.Proofs.Bytes.Field

/-! Walks over records.

A reader `Takes` the items of a kind when it succeeds exactly in front of the bytes of such an item
and leaves the cursor behind them. `fixed` and `chained` read one record; `Takes.many` carries a
kind over to any number of items one after the other. -/
namespace DeviceSupport
set_option autoImplicit false

/-- A record that starts with its own length, which covers at least its header. -/
structure IsSized (header : Nat) (record : List UInt8) : Prop where
  covered : header ≤ record.length
  declared : (Field.uint32 record 0).toNat = record.length

namespace Cursor
variable {α ι : Type}

/-- One item further: its bytes lie between two cursors. -/
def Steps (c : Cursor) (bytes : List UInt8) (c' : Cursor) : Prop :=
  c.rest = bytes ++ c'.rest ∧ c'.position = c.position + bytes.length

theorem Steps.refl (c : Cursor) : c.Steps [] c := ⟨rfl, rfl⟩

theorem Steps.trans {c d e : Cursor} {bytes more : List UInt8} (h : c.Steps bytes d)
    (h' : d.Steps more e) : c.Steps (bytes ++ more) e := by
  constructor
  · rw [h.1, h'.1, List.append_assoc]
  · rw [h'.2, h.2, List.length_append, Nat.add_assoc]

theorem steps_append_iff (c e : Cursor) (bytes more : List UInt8) :
    c.Steps (bytes ++ more) e ↔ ∃ d, c.Steps bytes d ∧ d.Steps more e := by
  constructor
  · rintro ⟨hrest, hpos⟩
    rw [List.append_assoc] at hrest
    rw [List.length_append, ← Nat.add_assoc] at hpos
    exact ⟨⟨c.position + bytes.length, more ++ e.rest⟩, ⟨hrest, rfl⟩, ⟨rfl, hpos⟩⟩
  · rintro ⟨d, h, h'⟩
    exact h.trans h'

theorem steps_nil_iff (c e : Cursor) : c.Steps [] e ↔ e = c := by
  constructor
  · rintro ⟨hrest, hpos⟩
    obtain ⟨position, rest⟩ := e
    obtain rfl : c.rest = rest := hrest
    obtain rfl : position = c.position := hpos
    rfl
  · rintro rfl
    exact Steps.refl e

/-- A prefix of what lies ahead can always be stepped over. -/
theorem exists_steps_iff (c : Cursor) (bytes : List UInt8) :
    (∃ c', c.Steps bytes c') ↔ bytes <+: c.rest := by
  constructor
  · rintro ⟨c', h, _⟩
    exact ⟨c'.rest, h.symm⟩
  · rintro ⟨rest, h⟩
    exact ⟨⟨c.position + bytes.length, rest⟩, h.symm, rfl⟩

/-! ## One record -/

theorem view_eq_ok_iff (c : Cursor) (name : String) (length : Nat) (r : Record) :
    c.view name length = .ok r ↔
      length ≤ c.rest.length ∧ r = ⟨name, c.position, c.rest.take length⟩ := by
  have hlen : (c.rest.take length).length = length ↔ length ≤ c.rest.length := by
    rw [List.length_take]
    omega
  unfold view
  by_cases h : length ≤ c.rest.length
  · rw [if_pos (hlen.mpr h), Except.ok.injEq]
    exact ⟨fun e => ⟨h, e.symm⟩, fun e => e.2.symm⟩
  · rw [if_neg (mt hlen.mp h)]
    exact ⟨fun e => (nomatch e), fun e => absurd e.1 h⟩

theorem view_of_length_lt {c : Cursor} {name : String} {length : Nat}
    (h : c.rest.length < length) :
    c.view name length = .error (.packageShort name c.position length c.remaining) := by
  have hlen : (c.rest.take length).length ≠ length := by
    rw [List.length_take]
    omega
  exact if_neg hlen

/-- The bytes that are viewed, as a prefix of what lies ahead. -/
theorem steps_advance {c : Cursor} {length : Nat} (h : length ≤ c.rest.length) :
    c.Steps (c.rest.take length) (c.advance length) := by
  refine ⟨(List.take_append_drop length c.rest).symm, ?_⟩
  rw [List.length_take, Nat.min_eq_left h]
  rfl

theorem Steps.take_eq {c c' : Cursor} {bytes : List UInt8} (h : c.Steps bytes c') :
    c.rest.take bytes.length = bytes := by
  rw [h.1, List.take_left]

theorem Steps.length_le {c c' : Cursor} {bytes : List UInt8} (h : c.Steps bytes c') :
    bytes.length ≤ c.rest.length := by
  rw [h.1, List.length_append]
  omega

theorem Steps.advance_eq {c c' : Cursor} {bytes : List UInt8} (h : c.Steps bytes c') :
    c.advance bytes.length = c' := by
  obtain ⟨position, rest⟩ := c'
  obtain ⟨hrest, rfl⟩ := h
  rw [advance, hrest, List.drop_left]

theorem fixed_eq_ok_iff (c c' : Cursor) (name : String) (length : Nat) (r : Record) :
    c.fixed name length = .ok (r, c') ↔
      ∃ bytes, c.Steps bytes c' ∧ bytes.length = length ∧ r = ⟨name, c.position, bytes⟩ := by
  rw [fixed, bind_eq_ok_iff]
  constructor
  · rintro ⟨r', hview, h⟩
    obtain ⟨hle, rfl⟩ := (view_eq_ok_iff c name length r').mp hview
    cases h
    exact ⟨_, steps_advance hle, by rw [List.length_take, Nat.min_eq_left hle], rfl⟩
  · rintro ⟨bytes, hsteps, rfl, rfl⟩
    refine ⟨_, (view_eq_ok_iff c name _ _).mpr ⟨hsteps.length_le, rfl⟩, ?_⟩
    rw [hsteps.take_eq, hsteps.advance_eq]
    rfl

/-- The size that a chained record declares is the first word ahead. -/
theorem declared_take {bytes : List UInt8} {length : Nat} (h : 4 ≤ length) :
    Field.uint32 (bytes.take length) 0 = LittleEndian.toUInt32 (bytes.take 4) := by
  rw [Field.uint32, Field.bytes, List.drop_zero, List.take_take, Nat.min_eq_left h]

theorem chained_eq_ok_iff {header : Nat} (hheader : 4 ≤ header) (c c' : Cursor) (name : String)
    (r : Record) :
    c.chained name header = .ok (r, c') ↔
      ∃ bytes, c.Steps bytes c' ∧ IsSized header bytes ∧ r = ⟨name, c.position, bytes⟩ := by
  rw [chained, bind_eq_ok_iff]
  constructor
  · rintro ⟨head, hhead, h⟩
    obtain ⟨_, rfl⟩ := (view_eq_ok_iff c name 4 head).mp hhead
    dsimp only at h
    by_cases hlt : (LittleEndian.toUInt32 (c.rest.take 4)).toNat < header
    · rw [if_pos hlt] at h
      nomatch h
    rw [if_neg hlt] at h
    obtain ⟨r', hview, h⟩ := bind_eq_ok_iff.mp h
    obtain ⟨hle, rfl⟩ := (view_eq_ok_iff c name _ r').mp hview
    have hcover := Nat.le_of_not_lt hlt
    cases h
    have hlen := List.length_take_of_le hle
    refine ⟨_, steps_advance hle, ⟨?_, ?_⟩, rfl⟩
    · rw [hlen]
      exact hcover
    · rw [hlen, declared_take (Nat.le_trans hheader hcover)]
  · rintro ⟨bytes, hsteps, hsized, rfl⟩
    have hfour : 4 ≤ bytes.length := Nat.le_trans hheader hsized.covered
    have hsize : (LittleEndian.toUInt32 (c.rest.take 4)).toNat = bytes.length := by
      rw [← hsized.declared, ← declared_take hfour, hsteps.take_eq]
    refine ⟨_, (view_eq_ok_iff c name 4 _).mpr ⟨Nat.le_trans hfour hsteps.length_le, rfl⟩, ?_⟩
    dsimp only
    rw [hsize, if_neg (Nat.not_lt.mpr hsized.covered)]
    refine bind_eq_ok_iff.mpr ⟨⟨name, c.position, bytes⟩, ?_, ?_⟩
    · rw [view_eq_ok_iff, hsteps.take_eq]
      exact ⟨hsteps.length_le, rfl⟩
    · rw [hsteps.advance_eq]
      rfl

/-! ## Kinds of items -/

/-- `read` takes the items of a kind `ι`: each is some bytes with a value. -/
def Takes (read : Cursor → Except Fault (α × Cursor)) (bytes : ι → List UInt8)
    (value : ι → α) : Prop :=
  ∀ (c c' : Cursor) (a : α), read c = .ok (a, c') ↔ ∃ i, c.Steps (bytes i) c' ∧ value i = a

theorem Takes.many {read : Cursor → Except Fault (α × Cursor)}
    {bytes : ι → List UInt8} {value : ι → α} (h : Takes read bytes value) (count : Nat)
    (c c' : Cursor) (as : List α) :
    Cursor.many read count c = .ok (as, c') ↔
      ∃ items : List ι, items.length = count ∧ c.Steps (items.flatMap bytes) c' ∧
        items.map value = as := by
  induction count generalizing c as with
  | zero =>
    constructor
    · intro e
      cases e
      exact ⟨[], rfl, Steps.refl _, rfl⟩
    · rintro ⟨items, hlen, hsteps, rfl⟩
      obtain rfl := List.eq_nil_of_length_eq_zero hlen
      rw [(steps_nil_iff c c').mp hsteps]
      rfl
  | succ count ih =>
    rw [Cursor.many, bind_eq_ok_iff]
    constructor
    · rintro ⟨⟨a, d⟩, hread, e⟩
      obtain ⟨⟨as', d'⟩, hmany, e⟩ := bind_eq_ok_iff.mp e
      cases e
      obtain ⟨i, hi, rfl⟩ := (h c d a).mp hread
      obtain ⟨items, rfl, hsteps, rfl⟩ := (ih d as').mp hmany
      exact ⟨i :: items, rfl, hi.trans hsteps, rfl⟩
    · rintro ⟨items, hlen, hsteps, rfl⟩
      obtain ⟨i, items, rfl⟩ := List.exists_cons_of_length_eq_add_one hlen
      rw [List.flatMap_cons] at hsteps
      obtain ⟨d, hi, hrest⟩ := (steps_append_iff c c' _ _).mp hsteps
      refine ⟨(value i, d), (h c d _).mpr ⟨i, hi, rfl⟩, ?_⟩
      refine bind_eq_ok_iff.mpr ⟨(items.map value, c'), ?_, rfl⟩
      exact (ih d _).mpr ⟨items, Nat.succ.inj hlen, hrest, rfl⟩

/-- Items at the start of what lies ahead, whatever follows them. -/
theorem Takes.many_prefix {read : Cursor → Except Fault (α × Cursor)}
    {bytes : ι → List UInt8} {value : ι → α} (h : Takes read bytes value) (count : Nat)
    (c : Cursor) (as : List α) :
    (∃ c', Cursor.many read count c = .ok (as, c')) ↔
      ∃ items : List ι, items.length = count ∧ items.flatMap bytes <+: c.rest ∧
        items.map value = as := by
  constructor
  · rintro ⟨c', e⟩
    obtain ⟨items, hlen, hsteps, rfl⟩ := (h.many count c c' as).mp e
    exact ⟨items, hlen, (exists_steps_iff c _).mp ⟨c', hsteps⟩, rfl⟩
  · rintro ⟨items, hlen, hprefix, rfl⟩
    obtain ⟨c', hsteps⟩ := (exists_steps_iff c _).mpr hprefix
    exact ⟨c', (h.many count c c' _).mpr ⟨items, hlen, hsteps, rfl⟩⟩

/-- A chained record whose bytes alone decide what is read from it. -/
theorem takes_chained {read : Cursor → Except Fault (α × Cursor)} {name : String}
    {header : Nat} {parse : Record → Except Fault α} {bytes : ι → List UInt8} {value : ι → α}
    (hheader : 4 ≤ header)
    (hread : ∀ c, read c = do
      let (record, c) ← c.chained name header
      let a ← parse record
      return (a, c))
    (hsized : ∀ i, IsSized header (bytes i))
    (hparse : ∀ r a, IsSized header r.bytes →
      (parse r = .ok a ↔ ∃ i, bytes i = r.bytes ∧ value i = a)) :
    Takes read bytes value := by
  intro c c' a
  rw [hread, bind_eq_ok_iff]
  constructor
  · rintro ⟨⟨r, d⟩, hr, h⟩
    obtain ⟨record, hsteps, hsize, rfl⟩ := (chained_eq_ok_iff hheader c d name r).mp hr
    obtain ⟨a', ha, h⟩ := bind_eq_ok_iff.mp h
    obtain ⟨i, rfl, rfl⟩ := (hparse _ a' hsize).mp ha
    cases h
    exact ⟨i, hsteps, rfl⟩
  · rintro ⟨i, hsteps, rfl⟩
    refine ⟨(⟨name, c.position, bytes i⟩, c'), ?_, ?_⟩
    · exact (chained_eq_ok_iff hheader c c' name _).mpr ⟨_, hsteps, hsized i, rfl⟩
    · exact bind_eq_ok_iff.mpr ⟨value i, (hparse _ _ (hsized i)).mpr ⟨i, rfl, rfl⟩, rfl⟩

/-- A record of fixed length, from which everything is read that is asked for. -/
theorem takes_fixed {read : Cursor → Except Fault (α × Cursor)} (name : String) {length : Nat}
    {value : List UInt8 → α}
    (hread : ∀ {c c' r}, c.fixed name length = .ok (r, c') → r.bytes.length = length →
      read c = .ok (value r.bytes, c'))
    (hfail : ∀ {c fault}, c.fixed name length = .error fault → read c = .error fault) :
    Takes read (fun i : {bytes : List UInt8 // bytes.length = length} => i.1)
      (fun i => value i.1) := by
  intro c c' a
  constructor
  · intro h
    cases hr : c.fixed name length with
    | error fault =>
      rw [hfail hr] at h
      nomatch h
    | ok p =>
      obtain ⟨r, d⟩ := p
      obtain ⟨record, hsteps, hlen, rfl⟩ := (fixed_eq_ok_iff c d name length r).mp hr
      rw [hread hr hlen] at h
      cases h
      exact ⟨⟨record, hlen⟩, hsteps, rfl⟩
  · rintro ⟨i, hsteps, rfl⟩
    have hr := (fixed_eq_ok_iff c c' name length _).mpr ⟨_, hsteps, i.2, rfl⟩
    exact hread hr i.2

end Cursor

end DeviceSupport
