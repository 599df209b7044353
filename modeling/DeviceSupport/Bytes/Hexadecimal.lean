/-! Bytes as hexadecimal digits, two for each byte, the high half first.

Digits are written in lower case and read in either. `decode?_encode` says that reading gives back
what was written. -/
namespace DeviceSupport.Hexadecimal
set_option autoImplicit false

def digitValue? (c : Char) : Option Nat :=
  let n := c.toNat
  if 48 ≤ n ∧ n ≤ 57 then some (n - 48)
  else if 65 ≤ n ∧ n ≤ 70 then some (n - 55)
  else if 97 ≤ n ∧ n ≤ 102 then some (n - 87)
  else none

def byte (b : UInt8) : List Char := [Nat.digitChar (b.toNat / 16), Nat.digitChar (b.toNat % 16)]

def encode (bytes : List UInt8) : String := String.ofList (bytes.flatMap byte)

/-- Reads pairs of digits; the bytes so far are newest first. -/
def decodeFrom? (done : List UInt8) : List Char → Option (List UInt8)
  | [] => some done.reverse
  | [_] => none
  | high :: low :: rest =>
    match digitValue? high, digitValue? low with
    | some h, some l => decodeFrom? (UInt8.ofNat (h * 16 + l) :: done) rest
    | _, _ => none

def decode? (text : String) : Option (List UInt8) := decodeFrom? [] text.toList

/-! ## Reading what was written -/

theorem digitValue?_digitChar : ∀ n < 16, digitValue? (Nat.digitChar n) = some n := by decide

theorem decodeFrom?_encode (done bytes : List UInt8) :
    decodeFrom? done (bytes.flatMap byte) = some (done.reverse ++ bytes) := by
  induction bytes generalizing done with
  | nil => simp [decodeFrom?]
  | cons b bytes ih =>
    have hb : b.toNat < 256 := b.toNat_lt
    have high := digitValue?_digitChar (b.toNat / 16) (by omega)
    have low := digitValue?_digitChar (b.toNat % 16) (by omega)
    have whole : b.toNat / 16 * 16 + b.toNat % 16 = b.toNat := by omega
    simp [byte, decodeFrom?, high, low, whole, ih]

theorem decode?_encode (bytes : List UInt8) : decode? (encode bytes) = some bytes := by
  simp [decode?, encode, decodeFrom?_encode]

end DeviceSupport.Hexadecimal
