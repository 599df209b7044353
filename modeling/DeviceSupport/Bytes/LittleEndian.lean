/-! Words as bytes, least significant byte first.

`encode w n` writes the low `8 * w` bits of `n`; `decode` reads any number of bytes.
`decode_encode` says reading gives back what was written, up to the width. -/
namespace DeviceSupport.LittleEndian
set_option autoImplicit false

def encode : Nat → Nat → List UInt8
  | 0, _ => []
  | w + 1, n => UInt8.ofNat (n % 256) :: encode w (n / 256)

def decode : List UInt8 → Nat
  | [] => 0
  | b :: bs => b.toNat + 256 * decode bs

/-! ## Fixed widths -/

def ofUInt16 (v : UInt16) : List UInt8 := encode 2 v.toNat

def ofUInt32 (v : UInt32) : List UInt8 := encode 4 v.toNat

def toUInt16 (bytes : List UInt8) : UInt16 := UInt16.ofNat (decode bytes)

def toUInt32 (bytes : List UInt8) : UInt32 := UInt32.ofNat (decode bytes)

def toUInt64 (bytes : List UInt8) : UInt64 := UInt64.ofNat (decode bytes)

/-! ## Laws -/

@[simp] theorem length_encode (w n : Nat) : (encode w n).length = w := by
  induction w generalizing n with
  | zero => rfl
  | succ w ih => simp [encode, ih]

theorem decode_encode (w n : Nat) : decode (encode w n) = n % Nat.pow 256 w := by
  induction w generalizing n with
  | zero => exact (Nat.mod_one n).symm
  | succ w ih =>
    have h : (UInt8.ofNat (n % 256)).toNat = n % 256 :=
      Nat.mod_eq_of_lt (Nat.mod_lt n (by decide))
    have step : Nat.pow 256 (w + 1) = 256 * Nat.pow 256 w := Nat.mul_comm _ _
    rw [encode, decode, ih, h, step, Nat.mod_mul]

theorem decode_lt (bytes : List UInt8) : decode bytes < Nat.pow 256 bytes.length := by
  induction bytes with
  | nil => simp [decode]
  | cons b bs ih =>
    have hb : b.toNat < 256 := b.toNat_lt
    have step : Nat.pow 256 (bs.length + 1) = 256 * Nat.pow 256 bs.length := Nat.mul_comm _ _
    rw [decode, List.length_cons, step]
    omega

theorem toUInt16_ofUInt16 (v : UInt16) : toUInt16 (ofUInt16 v) = v := by
  have h : v.toNat < Nat.pow 256 2 := v.toNat_lt
  rw [toUInt16, ofUInt16, decode_encode, Nat.mod_eq_of_lt h, UInt16.ofNat_toNat]

theorem toUInt32_ofUInt32 (v : UInt32) : toUInt32 (ofUInt32 v) = v := by
  have h : v.toNat < Nat.pow 256 4 := v.toNat_lt
  rw [toUInt32, ofUInt32, decode_encode, Nat.mod_eq_of_lt h, UInt32.ofNat_toNat]

end DeviceSupport.LittleEndian
