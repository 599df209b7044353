import DeviceSupport.Proofs.Buffer

/-! What the length and the data of a buffer tell after any number of writes.

A write that fits puts its bytes at the front and sets the length. A write that does not fit answers
how many bytes it takes and changes none of them, but it sets the length as well. So after a history
`dataLength` is the length of the last write that was tried since the buffer was emptied, and `data`
is what that many bytes show. That is the last write that was stored exactly when no other one has
been refused since (`length_tells_last_tried`). -/
namespace DeviceSupport.DataBuffer
set_option autoImplicit false

/-! ## Histories -/

inductive Operation where
  | write (bytes : List UInt8)
  | writeText (text : String)
  | writeUInt32 (value : UInt32)
  | clear
  | reallocate (capacity : Nat)
  deriving DecidableEq, Repr

/-- What an operation is to write; those that empty the buffer write nothing. -/
def Operation.offered? : Operation → Option (List UInt8)
  | .write bytes => some bytes
  | .writeText text => some (terminated text)
  | .writeUInt32 value => some (LittleEndian.ofUInt32 value)
  | .clear | .reallocate _ => none

def perform (b : DataBuffer) : Operation → Except Fault Unit × DataBuffer
  | .write bytes => b.write bytes
  | .writeText text => b.writeText text
  | .writeUInt32 value => b.writeUInt32 value
  | .clear => (.ok (), b.clear)
  | .reallocate capacity => (.ok (), b.reallocate capacity)

def run (b : DataBuffer) (history : List Operation) : DataBuffer :=
  history.foldl (fun b op => (b.perform op).2) b

/-- What has been answered to the writes since a buffer was emptied. -/
structure Trail where
  /-- The bytes of the last write that succeeded. -/
  stored : List UInt8 := []
  /-- The length of the last write, if it was refused. -/
  refused : Option Nat := none
  deriving DecidableEq, Repr

namespace Trail

/-- How many bytes the last write was to put into the buffer. -/
def tried (t : Trail) : Nat := t.refused.getD t.stored.length

/-- The trail after one more answer. -/
def next (t : Trail) (offered : Option (List UInt8)) (answer : Except Fault Unit) : Trail :=
  match offered, answer with
  | none, _ => {}
  | some bytes, .ok () => { stored := bytes }
  | some bytes, .error _ => { t with refused := some bytes.length }

end Trail

/-- The trail that a history leaves, read off the answers alone. -/
def trail (b : DataBuffer) (t : Trail) : List Operation → Trail
  | [] => t
  | op :: later => (b.perform op).2.trail (t.next op.offered? (b.perform op).1) later

/-! ## One step -/

theorem perform_of_offered {b : DataBuffer} {op : Operation} {bytes : List UInt8}
    (h : op.offered? = some bytes) : b.perform op = b.write bytes := by
  cases op <;> simp only [Operation.offered?, Option.some.injEq, reduceCtorEq] at h
  all_goals
    subst h
    rfl

theorem perform_of_emptied {b : DataBuffer} {op : Operation} (h : op.offered? = none) :
    (b.perform op).1 = .ok () ∧ (b.perform op).2.dataLength = 0 := by
  cases op <;> simp only [Operation.offered?, reduceCtorEq] at h
  all_goals exact ⟨rfl, rfl⟩

/-- An operation fails only by asking for more bytes than there are, and then it sets the length and
leaves everything else. -/
theorem perform_error {b : DataBuffer} {op : Operation} {fault : Fault}
    (h : (b.perform op).1 = .error fault) :
    ∃ bytes, op.offered? = some bytes ∧ b.capacity < bytes.length ∧
      fault = .needLargerBuffer (UInt32.ofNat bytes.length) ∧
      (b.perform op).2 = { b with dataLength := UInt32.ofNat bytes.length } := by
  cases hoffered : op.offered? with
  | none =>
    rw [(perform_of_emptied hoffered).1] at h
    nomatch h
  | some bytes =>
    rw [perform_of_offered hoffered] at h ⊢
    have hlt : b.capacity < bytes.length := by
      refine Nat.lt_of_not_le fun hle => ?_
      rw [write_ok hle] at h
      nomatch h
    rw [write_of_lt hlt] at h ⊢
    cases h
    exact ⟨bytes, rfl, hlt, rfl, rfl⟩

/-! ## What a trail says of the buffer -/

/-- The bytes last stored are still at the front, and the length is that of the write last tried,
which was refused because it is longer than the buffer. -/
structure Follows (b : DataBuffer) (t : Trail) : Prop where
  front : t.stored <+: b.bytes
  length : b.dataLength = UInt32.ofNat t.tried
  long : ∀ n, t.refused = some n → b.capacity < n

theorem follows_empty {b : DataBuffer} (h : b.dataLength = 0) : b.Follows {} :=
  ⟨List.nil_prefix, h, fun _ hn => nomatch hn⟩

/-- What one step preserves. -/
theorem Follows.perform {b : DataBuffer} {t : Trail} (h : b.Follows t) (op : Operation) :
    (b.perform op).2.Follows (t.next op.offered? (b.perform op).1) := by
  cases hoffered : op.offered? with
  | none => exact follows_empty (perform_of_emptied hoffered).2
  | some bytes =>
    rw [perform_of_offered hoffered]
    by_cases hfits : bytes.length ≤ b.capacity
    · rw [write_of_le hfits]
      exact ⟨List.prefix_append bytes _, rfl, fun _ hn => nomatch hn⟩
    · have hlt : b.capacity < bytes.length := by omega
      rw [write_of_lt hlt]
      refine ⟨h.front, rfl, fun n hn => ?_⟩
      have hlength : bytes.length = n := Option.some.inj hn
      rw [← hlength]
      exact hlt

theorem Follows.run {b : DataBuffer} {t : Trail} (h : b.Follows t) (history : List Operation) :
    (b.run history).Follows (b.trail t history) := by
  induction history generalizing b t with
  | nil => exact h
  | cons op later ih =>
    have hstep := h.perform op
    exact ih hstep

section
variable {b : DataBuffer} {t : Trail}

theorem Follows.data (h : b.Follows t) : b.data = b.bytes.take (UInt32.ofNat t.tried).toNat := by
  rw [DataBuffer.data, h.length]

theorem Follows.data_stored (h : b.Follows t) (hstored : t.refused = none) :
    b.dataLength = UInt32.ofNat t.stored.length ∧ b.dataLength.toNat ≤ b.capacity ∧
      b.data = counted t.stored := by
  have htried : t.tried = t.stored.length := by simp [Trail.tried, hstored]
  have hcount : (UInt32.ofNat t.stored.length).toNat ≤ t.stored.length := Nat.mod_le _ _
  have hlength : b.dataLength = UInt32.ofNat t.stored.length := htried ▸ h.length
  refine ⟨hlength, ?_, ?_⟩
  · have hfront : t.stored.length ≤ b.capacity := h.front.length_le
    rw [hlength]
    omega
  · obtain ⟨rest, hbytes⟩ := h.front
    rw [h.data, htried, ← hbytes, counted, List.take_append_of_le_length hcount]

/-- A length that 32 bits can count shows which of the writes was the last. -/
theorem Follows.tells_stored_iff (h : b.Follows t) (hshort : t.tried < 4294967296) :
    (b.dataLength.toNat ≤ b.capacity ∧ b.data = t.stored) ↔ t.refused = none := by
  constructor
  · rintro ⟨hle, -⟩
    cases hrefused : t.refused with
    | none => rfl
    | some n =>
      have hlong := h.long n hrefused
      have htried : t.tried = n := by simp [Trail.tried, hrefused]
      rw [h.length, UInt32.toNat_ofNat_of_lt' hshort, htried] at hle
      omega
  · intro hstored
    have hlt : t.stored.length < 4294967296 := by
      simpa [Trail.tried, hstored] using hshort
    obtain ⟨-, hle, hdata⟩ := h.data_stored hstored
    rw [counted_of_lt hlt] at hdata
    exact ⟨hle, hdata⟩

end

/-! ## Over a history -/

/-- A buffer before its first write. -/
def IsFresh (b : DataBuffer) : Prop :=
  (∃ dataType capacity, b = zeroed dataType capacity) ∨ ∃ dataType, b = allocate dataType

theorem follows_fresh {b : DataBuffer} (h : b.IsFresh) : b.Follows {} := by
  rcases h with ⟨dataType, capacity, rfl⟩ | ⟨dataType, rfl⟩
  · exact follows_empty rfl
  · exact follows_empty rfl

/-- After any history: if the last write since the buffer was emptied was stored, the length counts
its bytes, stays inside the buffer, and the data are these bytes; if it was refused, the length is
the one that it asked for, and the data reach as far as the buffer does. As long as 32 bits count
what was tried, length and data tell the last stored write just when none was refused after it. A
refusal names the length that was tried and leaves everything but the length as it was. -/
theorem length_tells_last_tried (b : DataBuffer) (hfresh : b.IsFresh) (history : List Operation) :
    let r := b.run history
    let t := b.trail {} history
    (t.refused = none →
        r.dataLength = UInt32.ofNat t.stored.length ∧ r.dataLength.toNat ≤ r.capacity ∧
          r.data = counted t.stored) ∧
      (∀ n, t.refused = some n →
        r.capacity < n ∧ r.dataLength = UInt32.ofNat n ∧ t.stored <+: r.bytes ∧
          r.data = r.bytes.take (UInt32.ofNat n).toNat) ∧
      (t.tried < 4294967296 →
        ((r.dataLength.toNat ≤ r.capacity ∧ r.data = t.stored) ↔ t.refused = none)) ∧
      ∀ op fault, (r.perform op).1 = .error fault →
        ∃ bytes, op.offered? = some bytes ∧ r.capacity < bytes.length ∧
          fault = .needLargerBuffer (UInt32.ofNat bytes.length) ∧
          (r.perform op).2 = { r with dataLength := UInt32.ofNat bytes.length } := by
  intro r t
  have hfollows : r.Follows t := (follows_fresh hfresh).run history
  refine ⟨hfollows.data_stored, fun n hn => ?_, hfollows.tells_stored_iff, fun op fault h => ?_⟩
  · have htried : t.tried = n := by simp [Trail.tried, hn]
    exact ⟨hfollows.long n hn, htried ▸ hfollows.length, hfollows.front, htried ▸ hfollows.data⟩
  · exact perform_error h

end DeviceSupport.DataBuffer

namespace DeviceSupport.Sample
open DataBuffer (Operation)

/-! ## A sample

Of three writes to a buffer of two bytes the second is refused. -/

def crowded : DataBuffer := .zeroed .binary 2

def crowding : List Operation := [.write [9], .write [1, 2, 3], .write [7, 8]]

theorem crowded_recovers :
    crowded.IsFresh ∧ (crowded.trail {} crowding).tried < 4294967296 ∧
      (crowded.run crowding).dataLength.toNat ≤ (crowded.run crowding).capacity ∧
      (crowded.run crowding).data = (crowded.trail {} crowding).stored ∧
      (crowded.trail {} crowding).stored = [7, 8] := by
  have hfresh : crowded.IsFresh := .inl ⟨.binary, 2, rfl⟩
  have hshort : (crowded.trail {} crowding).tried < 4294967296 := by decide
  obtain ⟨-, -, htells, -⟩ := DataBuffer.length_tells_last_tried crowded hfresh crowding
  obtain ⟨hle, hdata⟩ := (htells hshort).mpr rfl
  exact ⟨hfresh, hshort, hle, hdata, rfl⟩

/-- The refused write is counted: the length passes the end of the buffer, and the data show a byte
that the last stored write did not write. -/
theorem crowded_overstates :
    let history := [Operation.write [9]]
    let b := crowded.run history
    let refused := b.perform (.write [1, 2, 3])
    refused.1 = .error (.needLargerBuffer 3) ∧ refused.2.bytes = b.bytes ∧
      (crowded.trail {} (history ++ [.write [1, 2, 3]])).stored = [9] ∧
      (b.data = [9] ∧ refused.2.data = [9, 0]) ∧
      (b.dataLength = 1 ∧ refused.2.dataLength = 3) ∧
      ¬ refused.2.dataLength.toNat ≤ refused.2.capacity := by
  refine ⟨rfl, rfl, rfl, ⟨rfl, rfl⟩, ⟨rfl, rfl⟩, ?_⟩
  decide

end DeviceSupport.Sample
