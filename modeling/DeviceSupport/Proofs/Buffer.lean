import DeviceSupport.DataBuffer

/-! What a write leaves in a buffer. -/
namespace DeviceSupport.DataBuffer
set_option autoImplicit false

theorem write_of_le {b : DataBuffer} {bytes : List UInt8} (h : bytes.length ≤ b.capacity) :
    b.write bytes =
      (.ok (),
        { b with
          bytes := bytes ++ b.bytes.drop bytes.length
          dataLength := UInt32.ofNat bytes.length }) := by
  rw [write, if_neg (Nat.not_lt.mpr h)]

theorem write_of_lt {b : DataBuffer} {bytes : List UInt8} (h : b.capacity < bytes.length) :
    b.write bytes =
      (.error (.needLargerBuffer (UInt32.ofNat bytes.length)),
        { b with dataLength := UInt32.ofNat bytes.length }) := by
  rw [write, if_pos h]

theorem le_of_write_ok {b : DataBuffer} {bytes : List UInt8} (h : (b.write bytes).1 = .ok ()) :
    bytes.length ≤ b.capacity := by
  refine Nat.le_of_not_lt fun hlt => ?_
  rw [write_of_lt hlt] at h
  nomatch h

theorem capacity_write (b : DataBuffer) (bytes : List UInt8) :
    (b.write bytes).2.capacity = b.capacity := by
  by_cases h : bytes.length ≤ b.capacity
  · rw [write_of_le h]
    simp only [capacity, List.length_append, List.length_drop] at h ⊢
    omega
  · rw [write_of_lt (Nat.lt_of_not_le h)]
    rfl

theorem write_ok {b : DataBuffer} {bytes : List UInt8} (h : bytes.length ≤ b.capacity) :
    (b.write bytes).1 = .ok () := by
  rw [write_of_le h]

theorem write_short {b : DataBuffer} {bytes : List UInt8} (h : b.capacity < bytes.length) :
    (b.write bytes).1 = .error (.needLargerBuffer (UInt32.ofNat bytes.length)) := by
  rw [write_of_lt h]

/-- Data are never longer than 32 bits count. -/
theorem length_data_lt (b : DataBuffer) : b.data.length < 4294967296 :=
  Nat.lt_of_le_of_lt (List.length_take_le _ _) b.dataLength.toNat_lt

/-- As many of the bytes as the length of a buffer can count. -/
def counted (bytes : List UInt8) : List UInt8 := bytes.take (UInt32.ofNat bytes.length).toNat

theorem counted_of_lt {bytes : List UInt8} (h : bytes.length < 4294967296) :
    counted bytes = bytes := by
  rw [counted, UInt32.toNat_ofNat_of_lt' h, List.take_length]

theorem data_write {b : DataBuffer} {bytes : List UInt8} (h : bytes.length ≤ b.capacity) :
    (b.write bytes).2.data = counted bytes := by
  have hle : (UInt32.ofNat bytes.length).toNat ≤ bytes.length := Nat.mod_le _ _
  rw [write_of_le h, data, counted]
  exact List.take_append_of_le_length hle

/-! ## Reallocation -/

theorem capacity_reallocate (b : DataBuffer) (capacity : Nat) :
    (b.reallocate capacity).capacity = capacity :=
  List.length_replicate

/-- Of a buffer, reallocation keeps the type only. -/
theorem reallocate_write (b : DataBuffer) (bytes : List UInt8) (capacity : Nat) :
    (b.write bytes).2.reallocate capacity = b.reallocate capacity := by
  unfold write
  dsimp only
  split <;> rfl

/-! ## Words -/

theorem writeUInt32_ok {b : DataBuffer} (value : UInt32) (h : 4 ≤ b.capacity) :
    (b.writeUInt32 value).1 = .ok () := by
  have hlen : (LittleEndian.ofUInt32 value).length = 4 := LittleEndian.length_encode 4 value.toNat
  rw [writeUInt32, write_of_le (hlen ▸ h)]

theorem data_writeUInt32 {b : DataBuffer} (value : UInt32) (h : 4 ≤ b.capacity) :
    (b.writeUInt32 value).2.data = LittleEndian.ofUInt32 value := by
  have hlen : (LittleEndian.ofUInt32 value).length = 4 := LittleEndian.length_encode 4 value.toNat
  rw [writeUInt32, data_write (hlen ▸ h), counted_of_lt (hlen ▸ by decide)]

theorem uint32?_of_le {b : DataBuffer} (h : 4 ≤ b.capacity) :
    b.uint32? = some (LittleEndian.toUInt32 (b.bytes.take 4)) := if_pos h

theorem uint32?_of_lt {b : DataBuffer} (h : b.capacity < 4) : b.uint32? = none :=
  if_neg (Nat.not_le.mpr h)

theorem uint32?_writeUInt32 {b : DataBuffer} (value : UInt32) (h : 4 ≤ b.capacity) :
    (b.writeUInt32 value).2.uint32? = some value := by
  have hlen : (LittleEndian.ofUInt32 value).length = 4 := LittleEndian.length_encode 4 value.toNat
  have hcapacity : 4 ≤ (b.writeUInt32 value).2.capacity := by
    rw [writeUInt32, capacity_write]
    exact h
  rw [uint32?_of_le hcapacity, writeUInt32, write_of_le (hlen ▸ h)]
  dsimp only
  rw [List.take_left' hlen, LittleEndian.toUInt32_ofUInt32]

theorem capacity_writeUInt32 (b : DataBuffer) (value : UInt32) :
    (b.writeUInt32 value).2.capacity = b.capacity :=
  capacity_write b _

theorem writeUInt32_of_le {b : DataBuffer} (value : UInt32) (h : 4 ≤ b.capacity) :
    b.writeUInt32 value =
      (.ok (),
        { b with bytes := LittleEndian.ofUInt32 value ++ b.bytes.drop 4, dataLength := 4 }) := by
  have hlen : (LittleEndian.ofUInt32 value).length = 4 := LittleEndian.length_encode 4 value.toNat
  rw [writeUInt32, write_of_le (hlen ▸ h), hlen]
  rfl

theorem dataType_write (b : DataBuffer) (bytes : List UInt8) :
    (b.write bytes).2.dataType = b.dataType := by
  unfold write
  dsimp only
  split <;> rfl

/-- A word can be read off a buffer exactly when one can be written to it. -/
theorem uint32?_isSome_iff (b : DataBuffer) : b.uint32?.isSome = true ↔ 4 ≤ b.capacity := by
  unfold uint32?
  by_cases h : 4 ≤ b.capacity
  · rw [if_pos h]
    exact ⟨fun _ => h, fun _ => rfl⟩
  · rw [if_neg h]
    exact ⟨fun hsome => (nomatch hsome), fun hle => absurd hle h⟩

end DeviceSupport.DataBuffer
