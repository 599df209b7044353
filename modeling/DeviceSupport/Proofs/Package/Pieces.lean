import DeviceSupport.Package.Encode
import DeviceSupport.Proofs.Bytes.Walk
import DeviceSupport.Proofs.Text.Utf8

/-! The pieces that records are written from: their lengths, and what is read back from them.

A text comes back from a field when it is plain and leaves room for a NUL (`FitsField`). -/
namespace DeviceSupport.Package
set_option autoImplicit false

/-! ## Lengths -/

@[simp] theorem length_zeros (n : Nat) : (zeros n).length = n := List.length_replicate

@[simp] theorem length_fixedBytes (width : Nat) (bytes : List UInt8) :
    (fixedBytes width bytes).length = width := by
  rw [fixedBytes, List.length_append, List.length_take, length_zeros]
  omega

@[simp] theorem length_fixedText (width : Nat) (text : String) :
    (fixedText width text).length = width := length_fixedBytes _ _

@[simp] theorem length_number16 (n : Nat) : (number16 n).length = 2 :=
  LittleEndian.length_encode 2 n

@[simp] theorem length_number32 (n : Nat) : (number32 n).length = 4 :=
  LittleEndian.length_encode 4 n

@[simp] theorem length_ofUInt16 (v : UInt16) : (LittleEndian.ofUInt16 v).length = 2 :=
  LittleEndian.length_encode 2 v.toNat

@[simp] theorem length_ofUInt32 (v : UInt32) : (LittleEndian.ofUInt32 v).length = 4 :=
  LittleEndian.length_encode 4 v.toNat

@[simp] theorem length_sized (body : List UInt8) : (sized body).length = body.length + 4 := by
  rw [sized, List.length_append, length_number32, Nat.add_comm]

/-! ## Numbers -/

theorem toUInt16_number16 (n : Nat) : LittleEndian.toUInt16 (number16 n) = UInt16.ofNat n := by
  rw [LittleEndian.toUInt16, number16, LittleEndian.decode_encode]
  exact UInt16.ofNat_mod_size

theorem toUInt32_number32 (n : Nat) : LittleEndian.toUInt32 (number32 n) = UInt32.ofNat n := by
  rw [LittleEndian.toUInt32, number32, LittleEndian.decode_encode]
  exact UInt32.ofNat_mod_size

/-! ## Texts -/

/-- A text that is read back from a field of `width` bytes. -/
structure FitsField (width : Nat) (text : String) : Prop where
  plain : Utf8.IsPlain text
  short : (Utf8.encode text).length ≤ width - 1

instance (width : Nat) (text : String) : Decidable (FitsField width text) :=
  decidable_of_iff (Utf8.IsPlain text ∧ (Utf8.encode text).length ≤ width - 1)
    ⟨fun h => ⟨h.1, h.2⟩, fun h => ⟨h.plain, h.short⟩⟩

theorem decodeField_fixedText {width : Nat} {text : String} (h : FitsField width text) :
    Utf8.decodeField (fixedText width text) = text := by
  have hshort := h.short
  rw [fixedText, fixedBytes, List.take_of_length_le hshort, List.take_of_length_le (by omega)]
  exact Utf8.decodeField_encode_zeros h.plain _

theorem decodeField_zeros (n : Nat) : Utf8.decodeField (zeros n) = "" := by
  rw [Utf8.decodeField, zeros, Utf8.beforeNul_zeros]
  rfl

theorem fixedBytes_of_length {width : Nat} {bytes : List UInt8} (h : bytes.length = width) :
    fixedBytes width bytes = bytes := by
  rw [fixedBytes, h, Nat.sub_self, ← h, List.take_length]
  exact List.append_nil bytes

theorem fixedBytes_take (width : Nat) (bytes : List UInt8) :
    fixedBytes width (bytes.take width) = bytes.take width ++ zeros (width - bytes.length) := by
  have hrest : width - min width bytes.length = width - bytes.length := by omega
  rw [fixedBytes, List.take_take, Nat.min_self, List.length_take, hrest]

/-! ## Sizes -/

theorem uint32_sized {bytes body : List UInt8} (h : bytes = sized body) :
    Field.uint32 bytes 0 = UInt32.ofNat bytes.length := by
  have hlen : bytes.length = body.length + 4 := h ▸ length_sized body
  rw [Field.uint32, h, sized, Field.bytes_here (length_number32 _), toUInt32_number32, ← hlen, h]
  rfl

/-- A record that is written behind its own length declares it, below four gigabytes. -/
theorem isSized_of_eq {header : Nat} {bytes body : List UInt8} (h : bytes = sized body)
    (hcovered : header ≤ bytes.length) (hlt : bytes.length < 4294967296) :
    IsSized header bytes := by
  refine ⟨hcovered, ?_⟩
  rw [uint32_sized h, UInt32.toNat_ofNat_of_lt' hlt]

theorem uint8_encode (n : Nat) (rest : List UInt8) :
    Field.uint8 (LittleEndian.encode 1 n ++ rest) 0 = UInt8.ofNat n :=
  UInt8.ofNat_mod_size

end DeviceSupport.Package
